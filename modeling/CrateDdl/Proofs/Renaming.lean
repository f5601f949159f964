import CrateDdl.Proofs.Alike
import CrateDdl.Proofs.Course
import Mathlib.Logic.Relator
import Mathlib.Order.Basic
import Mathlib.Data.List.Forall2
import Mathlib.Data.Option.Basic

/-!
# Sessions up to the ids that they generate

Two sessions that differ only in which correlation ids they have generated go on alike: a pairing
says which ids correspond, and it grows as ids are generated.
-/

set_option autoImplicit false

namespace CrateDdl

/-- Which generated ids of two sessions correspond. -/
abbrev Pairing := Nat → Nat → Prop

theorem optionRel_imp {α β : Type} {r r' : α → β → Prop} (h : ∀ a b, r a b → r' a b) :
    ∀ {x : Option α} {y : Option β}, Option.Rel r x y → Option.Rel r' x y
  | _, _, .none => .none
  | _, _, .some hab => .some (h _ _ hab)

theorem forall₂_modify {α β : Type} {r : α → β → Prop} {f : α → α} {g : β → β}
    (h : ∀ a b, r a b → r (f a) (g b)) : ∀ (position : Nat) {as : List α} {bs : List β},
    List.Forall₂ r as bs → List.Forall₂ r (as.modify position f) (bs.modify position g)
  | _, _, _, .nil => by simp
  | 0, _, _, .cons hab hrest => .cons (h _ _ hab) hrest
  | position + 1, _, _, .cons hab hrest => .cons hab (forall₂_modify h position hrest)

theorem forall₂_getD_nil {α β : Type} {r : α → β → Prop} : ∀ {x : Option (List α)}
    {y : Option (List β)}, Option.Rel (List.Forall₂ r) x y → List.Forall₂ r (x.getD []) (y.getD [])
  | _, _, .none => .nil
  | _, _, .some h => h

/-! ## Parts of an answer -/

section
variable (w : Pairing)

inductive CorrelationId.Alike : CorrelationId → CorrelationId → Prop
  | given (value : Value) : Alike (.given value) (.given value)
  | generated {m n : Nat} : w m n → Alike (.generated m) (.generated n)

inductive Reply.Alike : Reply → Reply → Prop
  | correlationId {i j : CorrelationId} :
      CorrelationId.Alike w i j → Alike (.correlationId i) (.correlationId j)
  /-- No other reply has an id in it. -/
  | same {reply : Reply} : (∀ id, reply ≠ .correlationId id) → Alike reply reply

structure Entry.Alike (e f : Entry) : Prop where
  level : e.level = f.level
  id : CorrelationId.Alike w e.id f.id
  logger : e.logger = f.logger
  message : e.message = f.message

structure HandlerCall.Alike (c d : HandlerCall) : Prop where
  handler : c.handler = d.handler
  context : c.context = d.context
  diff : c.diff = d.diff
  column : c.column = d.column
  replies : Option.Rel (List.Forall₂ (Reply.Alike w)) c.replies d.replies

end

section
variable {w w' : Pairing} (hw : w ≤ w')
include hw

theorem CorrelationId.Alike.mono {i j : CorrelationId} (h : Alike w i j) : Alike w' i j := by
  cases h with
  | given value => exact .given value
  | generated hmn => exact .generated (hw _ _ hmn)

theorem Reply.Alike.mono {r r' : Reply} (h : Alike w r r') : Alike w' r r' := by
  cases h with
  | correlationId hid => exact .correlationId (hid.mono hw)
  | same hne => exact .same hne

theorem Entry.Alike.mono {e f : Entry} (h : Alike w e f) : Alike w' e f :=
  { h with id := h.id.mono hw }

theorem HandlerCall.Alike.mono {c d : HandlerCall} (h : Alike w c d) : Alike w' c d :=
  { h with
    replies := optionRel_imp (fun _ _ hr => hr.imp fun _ _ => Reply.Alike.mono hw) h.replies }

end

/-! ## Journals -/

/-- Two journals that differ in generated ids only. The second may already have generated an id
that is current where the first has not needed one yet. -/
structure Journal.Alike (w : Pairing) (j k : Journal) : Prop where
  handlers : j.handlers = k.handlers
  level : j.level = k.level
  entries : List.Forall₂ (Entry.Alike w) j.entries k.entries
  unique : Relator.BiUnique w
  bounded : ∀ m n, w m n → m ≤ j.generated ∧ n ≤ k.generated
  current : Option.Rel (CorrelationId.Alike w) j.current k.current ∨
    j.current = none ∧ ∃ n, k.current = some (.generated n) ∧ n ≤ k.generated ∧ ∀ m, ¬ w m n

/-- The pairing with one more pair. -/
def Pairing.extend (w : Pairing) (m n : Nat) : Pairing := fun a b => w a b ∨ a = m ∧ b = n

namespace Pairing

variable {w : Pairing} {m n : Nat}

theorem le_extend : w ≤ w.extend m n := fun _ _ h => .inl h

theorem extend_self : w.extend m n m n := .inr ⟨rfl, rfl⟩

/-- A pair of ids that are both in no pair yet. -/
theorem unique_extend (hw : Relator.BiUnique w) (hm : ∀ b, ¬ w m b) (hn : ∀ a, ¬ w a n) :
    Relator.BiUnique (w.extend m n) := by
  refine ⟨fun a b c hac hbc => ?_, fun a b c hab hac => ?_⟩
  · rcases hac with hac | ⟨rfl, rfl⟩ <;> rcases hbc with hbc | ⟨rfl, hc⟩
    · exact hw.1 hac hbc
    · exact absurd (hc ▸ hac) (hn a)
    · exact absurd hbc (hn b)
    · rfl
  · rcases hab with hab | ⟨rfl, rfl⟩ <;> rcases hac with hac | ⟨ha, rfl⟩
    · exact hw.2 hab hac
    · exact absurd (ha ▸ hab) (hm b)
    · exact absurd hac (hm c)
    · rfl

end Pairing

namespace Journal

variable {w : Pairing} {j k : Journal}

/-- Both journals have a new current id. -/
theorem Alike.extend (h : Alike w j k) {m n : Nat} (hm : j.generated < m) (hn : ∀ a, ¬ w a n)
    {generated generated' : Nat} (hg : m ≤ generated) (hk : k.generated ≤ generated')
    (hg' : n ≤ generated') :
    Alike (w.extend m n) { j with current := some (.generated m), generated }
      { k with current := some (.generated n), generated := generated' } where
  handlers := h.handlers
  level := h.level
  entries := h.entries.imp fun _ _ => Entry.Alike.mono Pairing.le_extend
  unique := Pairing.unique_extend h.unique
    (fun b hb => absurd (h.bounded m b hb).1 (by omega)) hn
  bounded := by
    rintro a b (hab | ⟨rfl, rfl⟩)
    · obtain ⟨ha, hb⟩ := h.bounded a b hab
      exact ⟨by show a ≤ generated; omega, by show b ≤ generated'; omega⟩
    · exact ⟨hg, hg'⟩
  current := .inl (.some (.generated Pairing.extend_self))

/-- Setting a given id, or generating one. -/
theorem setId_alike (h : Alike w j k) (value : Value) :
    ∃ w', w ≤ w' ∧ CorrelationId.Alike w' (j.setId value).1 (k.setId value).1 ∧
      Alike w' (j.setId value).2 (k.setId value).2 := by
  by_cases hv : value.truthy
  · simp only [setId, hv, if_true]
    exact ⟨w, le_refl w, .given value, { h with current := .inl (.some (.given value)) }⟩
  · simp only [setId, hv]
    have hn (a : Nat) : ¬ w a (k.generated + 1) := fun ha => by
      have := (h.bounded a _ ha).2
      omega
    exact ⟨_, Pairing.le_extend, .generated Pairing.extend_self,
      h.extend (by omega) hn (Nat.le_refl _) (by omega) (Nat.le_refl _)⟩

/-- Reading the current id. Where the second journal has one that the first still has to generate,
the two correspond from now on. -/
theorem readId_alike (h : Alike w j k) :
    ∃ w', w ≤ w' ∧ CorrelationId.Alike w' j.readId.1 k.readId.1 ∧
      Alike w' j.readId.2 k.readId.2 := by
  rcases h.current with hcurrent | ⟨hj, n, hk, hn, hfree⟩
  · cases hj : j.current with
    | none =>
      have hk : k.current = none := by
        rw [hj] at hcurrent
        cases hk : k.current with
        | none => rfl
        | some id => rw [hk] at hcurrent; cases hcurrent
      simp only [readId, hj, hk]
      exact setId_alike h .null
    | some id =>
      rw [hj] at hcurrent
      cases hk : k.current with
      | none => rw [hk] at hcurrent; cases hcurrent
      | some id' =>
        rw [hk] at hcurrent
        cases hcurrent with
        | some hid =>
          simp only [readId, hj, hk]
          exact ⟨w, le_refl w, hid, h⟩
  · have hjr : j.readId = (.generated (j.generated + 1),
        { j with
          current := some (.generated (j.generated + 1))
          generated := j.generated + 1 }) := by
      simp only [readId, hj]
      rfl
    have hkr : k.readId = (.generated n, { k with current := some (.generated n) }) := by
      simp only [readId, hk]
      rw [← hk]
    rw [hjr, hkr]
    exact ⟨_, Pairing.le_extend, .generated Pairing.extend_self,
      h.extend (by omega) hfree (Nat.le_refl _) (Nat.le_refl _) hn⟩

theorem write_alike (h : Alike w j k) (level : Int) (logger message : String) :
    ∃ w', w ≤ w' ∧ Alike w' (j.write level logger message) (k.write level logger message) := by
  have henabled : (k.installed && k.enabled level) = (j.installed && j.enabled level) := by
    rw [installed, installed, enabled, enabled, effectiveLevel, effectiveLevel, h.handlers, h.level]
  unfold write
  rw [henabled]
  split
  · obtain ⟨w', hw, hid, hread⟩ := readId_alike h
    exact ⟨w', hw, { hread with
      entries := List.rel_append hread.entries (.cons ⟨rfl, hid, rfl, rfl⟩ .nil) }⟩
  · exact ⟨w, le_refl w, h⟩

theorem configure_alike (environment : Option String) (level : Value) :
    Act.Alike Alike Act.Same (configure environment level) (configure environment level) := by
  have hset (level : Int) : Act.Alike Alike Act.Same
      (modify fun j : Journal => { j with level := level } : Act Journal Unit)
      (modify fun j : Journal => { j with level := level } : Act Journal Unit) :=
    .modify fun _ _ _ h => { h with level := rfl }
  refine .get fun w j k h => ?_
  rw [installed, installed, h.handlers]
  split
  · exact .pure rfl
  · refine ((Act.Alike.modify fun _ _ _ h => { h with handlers := by rw [h.handlers] }).bind fun _ => ?_) w
    split
    · exact (Act.Alike.pure _).bind hset
    · exact (Act.Alike.ofExcept _).bind hset

end Journal

/-! ## Sessions -/

/-- Two sessions that differ in generated ids only. -/
structure Session.Alike (w : Pairing) (s t : Session) : Prop where
  environment : s.environment = t.environment
  journal : Journal.Alike w s.journal t.journal
  registries : s.registries = t.registries
  dispatchers : s.dispatchers = t.dispatchers
  builders : s.builders = t.builders
  callCounts : s.callCounts = t.callCounts
  calls : List.Forall₂ (HandlerCall.Alike w) s.calls t.calls

namespace Session

open Act

/-- The journals go on alike, so the sessions do. -/
theorem Alike.withJournal {w w' : Pairing} {s t : Session} (h : Alike w s t) (hw : w ≤ w')
    {j k : Journal} (hjk : Journal.Alike w' j k) :
    Alike w' { s with journal := j } { t with journal := k } :=
  { h with journal := hjk, calls := h.calls.imp fun _ _ => HandlerCall.Alike.mono hw }

/-! ### Operations on the state -/

theorem note_alike (logger : String) (level : Int) (message : String) :
    Act.Alike Alike Same (note logger level message) (note logger level message) := by
  intro w s t h
  obtain ⟨w', hw, hjk⟩ := Journal.write_alike h.journal level logger message
  exact ⟨w', hw, .ok rfl (h.withJournal hw hjk)⟩

theorem configure_alike (environment : Option String) (level : Value) :
    Act.Alike Alike Same (configure environment level) (configure environment level) :=
  (Journal.configure_alike environment level).onPart (fun _ _ _ h => h.journal)
    fun _ _ _ _ _ _ h hw hjk => h.withJournal hw hjk

theorem newRegistry_alike : Act.Alike Alike Same newRegistry newRegistry := by
  intro w s t h
  refine ⟨w, le_refl w, ?_⟩
  show Match _ _ (EStateM.Result.ok s.registries.length _) (EStateM.Result.ok t.registries.length _)
  exact .ok (by rw [h.registries]) { h with registries := by rw [h.registries] }

theorem changeRegistry_alike (number : Nat)
    (change : Registry Registration → Registry Registration) :
    Act.Alike Alike Same (changeRegistry number change) (changeRegistry number change) :=
  .modify fun _ _ _ h => { h with registries := by rw [h.registries] }

theorem lookup_alike {ω α : Type} [Preorder ω] {R : ω → Session → Session → Prop}
    (map : OrderedMap α) (name : String) :
    Act.Alike R Same (lookup map name) (lookup map name) := by
  unfold lookup
  cases map.get? name with
  | some a => exact .pure a
  | none => exact .throw _

theorem builder_alike (name : String) : Act.Alike Alike Same (builder name) (builder name) :=
  .get fun w s t h => by
    rw [h.builders]
    exact lookup_alike t.builders name w

theorem registryOf_alike (target : Target) :
    Act.Alike Alike Same (registryOf target) (registryOf target) := by
  cases target with
  | dispatcher name =>
    refine .get fun w s t h => ?_
    rw [h.dispatchers]
    exact lookup_alike t.dispatchers name w
  | builder name => exact (builder_alike name).bind fun b => .pure b.registry

theorem builder_holds {P : Session → Prop} (name : String) : Holds P (builder name) :=
  .get fun w s t h => by
    obtain ⟨rfl, -⟩ := h
    exact lookup_alike s.builders name w

theorem registryOf_holds {P : Session → Prop} (target : Target) : Holds P (registryOf target) := by
  cases target with
  | dispatcher name =>
    refine .get fun w s t h => ?_
    obtain ⟨rfl, -⟩ := h
    exact lookup_alike s.dispatchers name w
  | builder name => exact (builder_holds name).bind fun b => .pure b.registry

theorem register_alike (event : EventRef) (handler : Handler Step) (registry : Nat) :
    Act.Alike Alike Same (register event handler registry) (register event handler registry) := by
  refine .get fun w s t h => ?_
  rw [h.callCounts]
  refine ((Act.Alike.modify fun _ _ _ h => ?_).bind fun _ => changeRegistry_alike registry _) w
  exact { h with callCounts := by rw [h.callCounts] }

/-! ### Calls of handlers -/

theorem beginCall_alike (handler : String) (ctx : Context) :
    Act.Alike Alike Same (beginCall handler ctx) (beginCall handler ctx) := by
  intro w s t h
  refine ⟨w, le_refl w, ?_⟩
  show Match _ _ (EStateM.Result.ok s.calls.length _) (EStateM.Result.ok t.calls.length _)
  exact .ok h.calls.length_eq
    { h with calls := List.rel_append h.calls (.cons ⟨rfl, rfl, rfl, rfl, .none⟩ .nil) }

theorem countCall_alike (number : Nat) :
    Act.Alike Alike Same (countCall number) (countCall number) := by
  intro w s t h
  refine ⟨w, le_refl w, ?_⟩
  show Match _ _ (EStateM.Result.ok ((s.callCounts.modify number (· + 1)).getD number 0) _)
    (EStateM.Result.ok ((t.callCounts.modify number (· + 1)).getD number 0) _)
  exact .ok (by rw [h.callCounts]) { h with callCounts := by rw [h.callCounts] }

/-- Replies that are alike make lists of replies alike. -/
theorem changeReplies_alike (position : Nat) {w : Pairing}
    {change change' : List Reply → List Reply}
    (hc : ∀ rs rs', List.Forall₂ (Reply.Alike w) rs rs' →
      List.Forall₂ (Reply.Alike w) (change rs) (change' rs')) :
    AlikeAt Alike Same w (changeReplies position change) (changeReplies position change') := by
  intro s t h
  refine ⟨w, le_refl w, .ok rfl { h with calls := forall₂_modify ?_ position h.calls }⟩
  intro c d hcd
  exact { hcd with replies := .some (hc _ _ (forall₂_getD_nil hcd.replies)) }

theorem takeAction_alike {perform : Step → Act Session Reply}
    (hp : ∀ step, Act.Alike Alike Reply.Alike (perform step) (perform step)) (position : Nat)
    (action : HandlerAction Step) :
    Act.Alike Alike Same (takeAction perform position action)
      (takeAction perform position action) := by
  intro w
  cases action with
  | raise fault => exact Act.Alike.throw fault w
  | perform step =>
    refine (changeReplies_alike position fun _ _ h => h).bind fun w _ _ _ _ => ?_
    refine (hp step w).bind fun w _ reply reply' hr => ?_
    exact changeReplies_alike position fun _ _ h => List.rel_append h (.cons hr .nil)

/-! ### Replies -/

/-- A reply that has no id in it. -/
theorem reply_alike {reply : Reply} (h : ∀ id, reply ≠ .correlationId id) :
    Act.Alike Alike Reply.Alike (pure reply : Act Session Reply) (pure reply : Act Session Reply) :=
  fun _ => .pure (.same h)

theorem putBuilder_alike (name : String) (capabilities : Capabilities) (registry : Nat) :
    Act.Alike Alike Reply.Alike (putBuilder name capabilities registry)
      (putBuilder name capabilities registry) := by
  refine .get fun w s t h => ?_
  rw [h.environment]
  refine ((configure_alike t.environment .null).bind fun _ =>
    (Act.Alike.modify fun w s t h => ?_).bind fun _ => reply_alike (by simp)) w
  exact { h with builders := by rw [h.builders] }

/-- An id as the reply, with what asking for it makes of the journal. -/
theorem correlationId_alike {f : Journal → CorrelationId × Journal}
    (hf : ∀ w j k, Journal.Alike w j k → ∃ w', w ≤ w' ∧ CorrelationId.Alike w' (f j).1 (f k).1 ∧
      Journal.Alike w' (f j).2 (f k).2) :
    let act : Act Session Reply := do
      let (id, journal) := f (← get).journal
      modify fun s => { s with journal }
      return .correlationId id
    Act.Alike Alike Reply.Alike act act := by
  intro act w s t h
  obtain ⟨w', hw, hid, hjk⟩ := hf w _ _ h.journal
  exact ⟨w', hw, .ok (.correlationId hid) (h.withJournal hw hjk)⟩

/-! ### Steps -/

section
variable {perform : Step → Act Session Reply}
  (hp : ∀ step, Act.Alike Alike Reply.Alike (perform step) (perform step))
include hp

theorem takeActions_alike (position : Nat) : ∀ actions : List (HandlerAction Step),
    Act.Alike Alike Same (takeActions perform position actions)
      (takeActions perform position actions)
  | [] => .pure ()
  | action :: rest =>
    (takeAction_alike hp position action).bind fun _ => takeActions_alike position rest

theorem callHandler_alike (ctx : Context) (r : Registration) :
    Act.Alike Alike Same (callHandler perform ctx r) (callHandler perform ctx r) := by
  refine (beginCall_alike r.handler.id ctx).bind fun position => ?_
  refine (countCall_alike r.number).bind fun count => ?_
  split
  · exact (takeActions_alike hp position r.handler.actions).bind fun _ => .ofExcept _
  · exact .pure _

theorem fire_alike (registry : Nat) (event : EventRef) (ctx : Context) :
    Act.Alike Alike Same (fire perform registry event ctx) (fire perform registry event ctx) :=
  Hook.dispatch_alike (fun _ _ _ h => by rw [registryAt, registryAt, h.registries])
    (callHandler_alike hp) event ctx

theorem host_alike (b : Builder) : (host perform b).Alike Alike (host perform b) where
  note := note_alike builderLogger
  dispatch event ctx := fire_alike hp b.registry (.event event) ctx

theorem performWith_alike (step : Step) :
    Act.Alike Alike Reply.Alike (performWith perform step) (performWith perform step) := by
  cases step with
  | fail fault => exact .throw fault
  | newDispatcher name =>
    refine newRegistry_alike.bind fun registry => ?_
    refine (Act.Alike.modify fun w s t h => ?_).bind fun _ => reply_alike (by simp)
    exact { h with dispatchers := by rw [h.dispatchers] }
  | newBuilder name dispatcher capabilities =>
    cases dispatcher with
    | some dispatcher => exact (registryOf_alike _).bind (putBuilder_alike name capabilities)
    | none => exact newRegistry_alike.bind (putBuilder_alike name capabilities)
  | register event handler target =>
    exact (registryOf_alike target).bind fun registry =>
      (register_alike event handler registry).bind fun _ => reply_alike (by simp)
  | hasHandlers event target =>
    refine (registryOf_alike target).bind fun registry => .get fun w s t h => ?_
    rw [registryAt, registryAt, h.registries]
    exact reply_alike (by simp) w
  | clear target =>
    exact (registryOf_alike target).bind fun registry =>
      (changeRegistry_alike registry _).bind fun _ => reply_alike (by simp)
  | dispatch event target diff column =>
    exact (registryOf_alike target).bind fun registry =>
      (fire_alike hp registry event _).bind fun _ => reply_alike (by simp)
  | sameEvents first second =>
    exact (builder_alike first).bind fun _ => (builder_alike second).bind fun _ =>
      reply_alike (by simp)
  | createTable name table columns options =>
    exact (builder_alike name).bind fun b =>
      (Platform.createTable_alike (note_alike builderLogger) b.platform table columns options).bind
        fun _ => reply_alike (by simp)
  | alterTable name diff =>
    exact (builder_alike name).bind fun b =>
      (Platform.alterTable_alike (host_alike hp b) b.platform diff).bind fun _ =>
        reply_alike (by simp)
  | setCorrelationId value =>
    exact correlationId_alike fun _ _ _ h => Journal.setId_alike h value
  | getCorrelationId => exact correlationId_alike fun _ _ _ h => Journal.readId_alike h
  | configureLogging environment level =>
    exact (configure_alike environment level).bind fun _ => reply_alike (by simp)
  | logState =>
    refine .get fun w s t h => ?_
    simp only [Journal.effectiveLevel, h.journal.handlers, h.journal.level]
    exact reply_alike (by simp) w
  | log logger level message =>
    refine .get fun w s t h => ?_
    rw [h.environment]
    exact ((configure_alike t.environment .null).bind fun _ =>
      (note_alike _ level message).bind fun _ => reply_alike (by simp)) w

end

theorem writable_eq (reply : Reply) :
    reply.writable = .ok reply ∨ reply.writable = .error .longValue := by
  have hmap (v : Value) : (v.writable.map fun _ => reply) = .ok reply ∨
      (v.writable.map fun _ => reply) = .error .longValue := by
    unfold Value.writable
    split
    · exact .inr rfl
    · exact .inl rfl
  unfold Reply.writable
  split
  · exact hmap _
  · exact hmap _
  · exact .inl rfl

/-- Whether a reply can be written does not depend on the ids that have been generated. -/
theorem writable_alike {w : Pairing} {reply reply' : Reply} (h : Reply.Alike w reply reply') :
    AlikeAt Alike Reply.Alike w (Act.ofExcept reply.writable)
      (Act.ofExcept reply'.writable) := by
  have hsame (reply : Reply) (h : Reply.Alike w reply reply) : AlikeAt Alike Reply.Alike w
      (Act.ofExcept reply.writable) (Act.ofExcept reply.writable) := by
    rcases writable_eq reply with hr | hr
    · rw [hr]
      exact .pure h
    · rw [hr]
      exact Alike.throw _ w
  cases h with
  | same hne => exact hsame _ (.same hne)
  | correlationId hid =>
    cases hid with
    | given value => exact hsame _ (.correlationId (.given value))
    | generated hmn => exact .pure (.correlationId (.generated hmn))

theorem perform_alike : ∀ (depth : Nat) (step : Step),
    Act.Alike Alike Reply.Alike (perform depth step) (perform depth step)
  | 0, _ => .throw _
  | depth + 1, step => fun w =>
    (performWith_alike (perform_alike depth) step w).bind fun _ _ _ _ hr => writable_alike hr

/-! ### Whole sessions -/

/-- What comes out of a step, up to ids. -/
inductive OutcomeAlike (w : Pairing) : Except Fault Reply → Except Fault Reply → Prop
  | ok {reply reply' : Reply} : Reply.Alike w reply reply' →
      OutcomeAlike w (.ok reply) (.ok reply')
  | error (fault : Fault) : OutcomeAlike w (.error fault) (.error fault)

/-- Two answers that differ in generated ids only. -/
structure Answer.Alike (w : Pairing) (a b : Answer) : Prop where
  outcome : OutcomeAlike w a.outcome b.outcome
  entries : List.Forall₂ (Entry.Alike w) a.entries b.entries
  calls : List.Forall₂ (HandlerCall.Alike w) a.calls b.calls

theorem Answer.Alike.mono {w w' : Pairing} (hw : w ≤ w') {a b : Answer} (h : Alike w a b) :
    Alike w' a b where
  outcome := by
    rcases a with ⟨outcome, _, _⟩
    rcases b with ⟨outcome', _, _⟩
    cases h.outcome with
    | ok hr => exact .ok (hr.mono hw)
    | error fault => exact .error fault
  entries := h.entries.imp fun _ _ => Entry.Alike.mono hw
  calls := h.calls.imp fun _ _ => HandlerCall.Alike.mono hw

theorem Alike.clean {w : Pairing} {s t : Session} (h : Alike w s t) : Alike w s.clean t.clean :=
  { h with calls := .nil, journal := { h.journal with entries := .nil } }

theorem answer_alike (step : Step) {w : Pairing} {s t : Session} (h : Alike w s.clean t.clean) :
    ∃ w', w ≤ w' ∧ Answer.Alike w' (answer step s).1 (answer step t).1 ∧
      Alike w' (next step s) (next step t) := by
  obtain ⟨w', hw, hm⟩ := perform_alike maxDepth step w _ _ h
  have hnext : Alike w' (next step s) (next step t) := by
    rw [next_eq, next_eq]
    exact hm.endState
  refine ⟨w', hw, ?_, hnext⟩
  rw [answer_eq, answer_eq]
  refine ⟨?_, hnext.journal.entries, hnext.calls⟩
  revert hm
  generalize perform maxDepth step s.clean = x
  generalize perform maxDepth step t.clean = y
  rintro (⟨hr, -⟩ | -)
  · exact .ok hr
  · exact .error _

/-- Sessions that differ in generated ids only go on alike, step by step. -/
theorem run_alike : ∀ (steps : List Step) {w : Pairing} {s t : Session},
    Alike w s.clean t.clean →
    ∃ w', w ≤ w' ∧ List.Forall₂ (Answer.Alike w') (run s steps) (run t steps) ∧
      Alike w' (after s steps).clean (after t steps).clean
  | [], w, s, t, h => ⟨w, le_refl w, .nil, h⟩
  | step :: rest, w, s, t, h => by
    obtain ⟨w₁, hw₁, hanswer, hnext⟩ := answer_alike step h
    obtain ⟨w₂, hw₂, hrest, hafter⟩ := run_alike rest hnext.clean
    exact ⟨w₂, le_trans hw₁ hw₂, .cons (hanswer.mono hw₂) hrest, hafter⟩

end Session

end CrateDdl
