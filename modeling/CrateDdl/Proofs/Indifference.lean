import CrateDdl.Proofs.Renaming
import CrateDdl.Proofs.SetUp

/-!
# Logging does not matter

Two sessions whose steps differ only in levels, in lines that the host writes and in the ids it sets
(`Step.LogAlike`) generate the same statements and call the same handlers
(`logging_never_influences`). The states of the two are related by a relation that forgets all of
the journal but whether it has been set up (`Session.LogAlike`), and every operation preserves it.

What a handler's action gives back is recorded, and it is a fault if that cannot be done. The ids
that may be set in one session and in the other depend on how replies are recorded (`Recording`):
any ids, where nothing needs to be written; where replies are written, those that both can be or
both cannot be.
-/

set_option autoImplicit false

namespace CrateDdl

open Act

/-! ## Steps that differ in logging only -/

namespace Level

/-- A level that can be asked for; without one the environment decides. -/
def IsValid (level : Value) : Prop := ∃ n, asked none level = .ok n

variable {level : Value}

theorem asked_of_isValid (h : IsValid level) (environment : Option String) :
    ∃ n, asked environment level = .ok n := by
  cases level with
  | null => exact ⟨_, rfl⟩
  | _ => exact h

theorem asked_of_not_isValid (h : ¬ IsValid level) (environment environment' : Option String) :
    asked environment level = asked environment' level := by
  cases level with
  | null => exact absurd ⟨_, rfl⟩ h
  | _ => rfl

/-- Levels are at fault for the same reason, or neither is. -/
theorem asked_cases {level' : Value} (h : level = level' ∨ IsValid level ∧ IsValid level')
    (environment environment' : Option String) :
    (∃ n n', asked environment level = .ok n ∧ asked environment' level' = .ok n') ∨
      ∃ fault, asked environment level = .error fault ∧
        asked environment' level' = .error fault := by
  by_cases hv : IsValid level ∧ IsValid level'
  · obtain ⟨n, hn⟩ := asked_of_isValid hv.1 environment
    obtain ⟨n', hn'⟩ := asked_of_isValid hv.2 environment'
    exact .inl ⟨n, n', hn, hn'⟩
  · obtain rfl := h.resolve_right hv
    have hinvalid : ¬ IsValid level := fun hl => hv ⟨hl, hl⟩
    rw [asked_of_not_isValid hinvalid environment' environment]
    cases hasked : asked environment level with
    | ok n => exact absurd ⟨n, asked_of_not_isValid hinvalid environment none ▸ hasked⟩ hinvalid
    | error fault => exact .inr ⟨fault, rfl, rfl⟩

end Level

section
variable {S : Type} (r : S → S → Prop)

inductive HandlerAction.Related : HandlerAction S → HandlerAction S → Prop
  | raise (fault : Fault) : Related (.raise fault) (.raise fault)
  | perform {step step' : S} : r step step' → Related (.perform step) (.perform step')

/-- Handlers that differ only in the steps that they take. -/
inductive Handler.Related : Handler S → Handler S → Prop
  | intro (id : String) (answer : Value) (columns : Option (List String)) (maxCalls : Option Int)
      {actions actions' : List (HandlerAction S)} :
      List.Forall₂ (HandlerAction.Related r) actions actions' →
      Related ⟨id, answer, columns, maxCalls, actions⟩ ⟨id, answer, columns, maxCalls, actions'⟩

variable {r} in
theorem Handler.Related.refl (h : ∀ step, r step step) (handler : Handler S) :
    Handler.Related r handler handler := by
  refine .intro _ _ _ _ (List.forall₂_same.2 fun action _ => ?_)
  cases action with
  | raise fault => exact .raise fault
  | perform step => exact .perform (h step)

end

/-- Steps that differ, if at all, in what the environment asks for, in the levels that the journal
is set up with, in the lines of the host, and in ids that are set, for which `V` says what may
differ; and so do the steps that handlers take. -/
inductive Step.LogAlike (V : Value → Value → Prop) : Step → Step → Prop
  | same (step : Step) : LogAlike V step step
  | register (event : EventRef) {handler handler' : Handler Step} (target : Target) :
      Handler.Related (LogAlike V) handler handler' →
      LogAlike V (.register event handler target) (.register event handler' target)
  /-- A level that is at fault stays the same. -/
  | configureLogging (environment environment' : Option String) {level level' : Value} :
      level = level' ∨ Level.IsValid level ∧ Level.IsValid level' →
      LogAlike V (.configureLogging environment level) (.configureLogging environment' level')
  | log (logger : String) (level level' : Int) (message message' : String) :
      LogAlike V (.log logger level message) (.log logger level' message')
  | setCorrelationId {value value' : Value} : V value value' →
      LogAlike V (.setCorrelationId value) (.setCorrelationId value')

/-- The step tells an id or the state of the log. -/
def Step.tellsLog : Step → Bool
  | setCorrelationId _ | getCorrelationId | logState => true
  | _ => false

/-! ## Replies and states that differ in logging only -/

section
variable (V : Value → Value → Prop) (I : CorrelationId → CorrelationId → Prop)

inductive Reply.LogAlike : Reply → Reply → Prop
  | same (reply : Reply) : LogAlike reply reply
  | correlationId {i i' : CorrelationId} : I i i' →
      LogAlike (.correlationId i) (.correlationId i')
  | logState (handlers handlers' : Nat) (level level' effective effective' : Int) :
      LogAlike (.logState handlers level effective) (.logState handlers' level' effective')

/-- The same handler has been called in the same way. -/
structure HandlerCall.LogAlike (c d : HandlerCall) : Prop where
  handler : c.handler = d.handler
  context : c.context = d.context
  diff : c.diff = d.diff
  column : c.column = d.column
  replies : Option.Rel (List.Forall₂ (Reply.LogAlike I)) c.replies d.replies

structure Registration.LogAlike (r r' : Registration) : Prop where
  number : r.number = r'.number
  handler : Handler.Related (Step.LogAlike V) r.handler r'.handler

/-- The same handlers are registered for every event, in the same order. -/
def Registry.LogAlike (r r' : Registry Registration) : Prop :=
  ∀ event, List.Forall₂ (Registration.LogAlike V) (r.handlers event) (r'.handlers event)

/-- Two sessions that differ in logging only. What is kept of the journal is whether it has been set
up, and that the ids that would be read next are alike. -/
structure Session.LogAlike (s t : Session) : Prop where
  handlers : s.journal.handlers = t.journal.handlers
  id : I s.journal.readId.1 t.journal.readId.1
  registries : List.Forall₂ (Registry.LogAlike V) s.registries t.registries
  dispatchers : s.dispatchers = t.dispatchers
  builders : s.builders = t.builders
  callCounts : s.callCounts = t.callCounts
  calls : List.Forall₂ (HandlerCall.LogAlike I) s.calls t.calls

end

theorem Registry.LogAlike.hasHandlers_eq {V : Value → Value → Prop} {r r' : Registry Registration}
    (h : LogAlike V r r') (event : EventRef) : r.hasHandlers event = r'.hasHandlers event := by
  rw [Bool.eq_iff_iff]
  simp [hasHandlers, ← List.length_eq_zero_iff, (h event).length_eq]

namespace Journal

/-! ## Ids to be read -/

variable {j k : Journal}

theorem readId_congr (hc : j.current = k.current) (hg : j.generated = k.generated) :
    j.readId.1 = k.readId.1 := by
  cases h : j.current with
  | some id => rw [readId_of_some h, readId_of_some (hc ▸ h)]
  | none => rw [readId_of_none h, readId_of_none (hc ▸ h), hg]

theorem readId_readId (j : Journal) : j.readId.2.readId.1 = j.readId.1 := by
  rw [readId_of_some j.readId_current]

theorem setId_readId (j : Journal) (value : Value) :
    (j.setId value).2.readId.1 = (j.setId value).1 := by
  rw [readId_of_some (j.setId_current value)]

theorem write_readId (j : Journal) (level : Int) (logger message : String) :
    (j.write level logger message).readId.1 = j.readId.1 := by
  cases hkept : j.installed && j.enabled level with
  | true =>
    rw [write_of_kept hkept]
    refine (readId_congr (k := j.readId.2) ?_ ?_).trans j.readId_readId <;> rfl
  | false => rw [write_of_dropped hkept]

end Journal

theorem forall₂_getD {α β : Type} {r : α → β → Prop} {a : α} {b : β} (hab : r a b) :
    ∀ (n : Nat) {as : List α} {bs : List β}, List.Forall₂ r as bs → r (as.getD n a) (bs.getD n b)
  | _, _, _, .nil => hab
  | 0, _, _, .cons h _ => h
  | n + 1, _, _, .cons _ hrest => forall₂_getD hab n hrest

namespace Session

variable {V : Value → Value → Prop} {I : CorrelationId → CorrelationId → Prop}

/-- Sessions that differ in logging only go on so, with results that are related by `W`. -/
abbrev GoAlike (V : Value → Value → Prop) (I : CorrelationId → CorrelationId → Prop) {α : Type}
    (W : α → α → Prop) (x y : Act Session α) : Prop :=
  Act.Alike (fun (_ : OneWorld) s t => LogAlike V I s t) (fun _ a b => W a b) x y

theorem LogAlike.installed {s t : Session} (h : LogAlike V I s t) :
    s.journal.installed = t.journal.installed := by
  rw [Journal.installed, Journal.installed, h.handlers]

/-! ## Operations on the state -/

theorem LogAlike.withJournal {s t : Session} (h : LogAlike V I s t) {j k : Journal}
    (hhandlers : j.handlers = k.handlers) (hid : I j.readId.1 k.readId.1) :
    LogAlike V I { s with journal := j } { t with journal := k } :=
  { h with handlers := hhandlers, id := hid }

theorem note_logAlike (logger : String) (level level' : Int) (message message' : String) :
    GoAlike V I Eq (note logger level message) (note logger level' message') :=
  .modify fun _ s t h => by
    refine h.withJournal ?_ ?_
    · rw [(s.journal.write_setUp ..).1, (t.journal.write_setUp ..).1, h.handlers]
    · rw [s.journal.write_readId, t.journal.write_readId]
      exact h.id

theorem LogAlike.setUp {s t : Session} (h : LogAlike V I s t) (level level' : Int) :
    LogAlike V I
      { s with journal := { s.journal with handlers := s.journal.handlers + 1, level } }
      { t with
        journal := { t.journal with handlers := t.journal.handlers + 1, level := level' } } := by
  refine h.withJournal (congrArg (· + 1) h.handlers) ?_
  have hread (j : Journal) (level : Int) :
      (Journal.readId { j with handlers := j.handlers + 1, level }).1 = j.readId.1 :=
    Journal.readId_congr rfl rfl
  rw [hread, hread]
  exact h.id

/-- Setting up fails in one of the sessions if it fails in the other, since it fails only where the
journal has not been set up and the level is at fault. -/
theorem configure_logAlike (environment environment' : Option String) {level level' : Value}
    (hl : level = level' ∨ Level.IsValid level ∧ Level.IsValid level') :
    GoAlike V I Eq (configure environment level) (configure environment' level') := by
  intro w s t h
  refine ⟨w, le_refl w, ?_⟩
  cases hs : s.journal.installed with
  | true =>
    have ht : t.journal.installed = true := h.installed ▸ hs
    rw [configure, onPart_of_ok (Journal.configure_of_installed hs environment level), configure,
      onPart_of_ok (Journal.configure_of_installed ht environment' level')]
    exact .ok rfl h
  | false =>
    have ht : t.journal.installed = false := h.installed ▸ hs
    have hcs := Journal.configure_of_not_installed hs environment level
    have hct := Journal.configure_of_not_installed ht environment' level'
    rcases Level.asked_cases hl environment environment' with ⟨n, n', hn, hn'⟩ | ⟨fault, hf, hf'⟩
    · rw [hn] at hcs
      rw [hn'] at hct
      rw [configure, onPart_of_ok hcs, configure, onPart_of_ok hct]
      exact .ok rfl (h.setUp n n')
    · rw [hf] at hcs
      rw [hf'] at hct
      rw [configure, onPart_of_error hcs, configure, onPart_of_error hct]
      exact .error (h.setUp s.journal.level t.journal.level)

theorem newRegistry_logAlike : GoAlike V I Eq newRegistry newRegistry := by
  intro w s t h
  refine ⟨w, le_refl w, ?_⟩
  show Match _ _ (EStateM.Result.ok s.registries.length _) (EStateM.Result.ok t.registries.length _)
  exact .ok h.registries.length_eq
    { h with registries := List.rel_append h.registries (.cons (fun _ => .nil) .nil) }

theorem changeRegistry_logAlike (number : Nat)
    {change change' : Registry Registration → Registry Registration}
    (hc : ∀ r r', Registry.LogAlike V r r' → Registry.LogAlike V (change r) (change' r')) :
    GoAlike V I Eq (changeRegistry number change) (changeRegistry number change') :=
  .modify fun _ _ _ h => { h with registries := forall₂_modify hc number h.registries }

theorem register_logAlike (event : EventRef) {handler handler' : Handler Step}
    (hh : Handler.Related (Step.LogAlike V) handler handler') (registry : Nat) :
    GoAlike V I Eq (register event handler registry) (register event handler' registry) := by
  refine .get fun w s t h => ?_
  rw [h.callCounts]
  refine ((Act.Alike.modify fun _ _ _ h => ?_).bind fun _ =>
    changeRegistry_logAlike registry fun r r' hr other => ?_) w
  · exact { h with callCounts := by rw [h.callCounts] }
  · rw [Registry.handlers_register, Registry.handlers_register]
    refine List.rel_append (hr other) ?_
    split
    · exact .cons ⟨rfl, hh⟩ .nil
    · exact .nil

theorem builder_logAlike (name : String) : GoAlike V I Eq (builder name) (builder name) :=
  .get fun w s t h => by
    rw [h.builders]
    exact lookup_alike t.builders name w

theorem registryOf_logAlike (target : Target) :
    GoAlike V I Eq (registryOf target) (registryOf target) := by
  cases target with
  | dispatcher name =>
    refine .get fun w s t h => ?_
    rw [h.dispatchers]
    exact lookup_alike t.dispatchers name w
  | builder name => exact (builder_logAlike name).bind fun b => .pure b.registry

theorem LogAlike.registryAt {s t : Session} (h : LogAlike V I s t) (number : Nat) :
    Registry.LogAlike V (s.registryAt number) (t.registryAt number) :=
  forall₂_getD (fun _ => .nil) number h.registries

theorem beginCall_logAlike (handler : String) (ctx : Context) :
    GoAlike V I Eq (beginCall handler ctx) (beginCall handler ctx) := by
  intro w s t h
  refine ⟨w, le_refl w, ?_⟩
  show Match _ _ (EStateM.Result.ok s.calls.length _) (EStateM.Result.ok t.calls.length _)
  exact .ok h.calls.length_eq
    { h with calls := List.rel_append h.calls (.cons ⟨rfl, rfl, rfl, rfl, .none⟩ .nil) }

theorem countCall_logAlike (number : Nat) :
    GoAlike V I Eq (countCall number) (countCall number) := by
  intro w s t h
  refine ⟨w, le_refl w, ?_⟩
  show Match _ _ (EStateM.Result.ok ((s.callCounts.modify number (· + 1)).getD number 0) _)
    (EStateM.Result.ok ((t.callCounts.modify number (· + 1)).getD number 0) _)
  exact .ok (by rw [h.callCounts]) { h with callCounts := by rw [h.callCounts] }

theorem changeReplies_logAlike (position : Nat) {change change' : List Reply → List Reply}
    (hc : ∀ rs rs', List.Forall₂ (Reply.LogAlike I) rs rs' →
      List.Forall₂ (Reply.LogAlike I) (change rs) (change' rs')) :
    GoAlike V I Eq (changeReplies position change) (changeReplies position change') := by
  refine .modify fun w s t h => { h with calls := forall₂_modify ?_ position h.calls }
  intro c d hcd
  exact { hcd with replies := .some (hc _ _ (forall₂_getD_nil hcd.replies)) }

theorem putBuilder_logAlike (name : String) (capabilities : Capabilities) (registry : Nat) :
    GoAlike V I Eq (putBuilder name capabilities registry)
      (putBuilder name capabilities registry) := by
  refine .get fun w s t h => ?_
  refine ((configure_logAlike s.environment t.environment (.inl rfl)).bind fun _ =>
    (Act.Alike.modify fun w s t h => ?_).bind fun _ => .pure _) w
  exact { h with builders := by rw [h.builders] }

/-! ## Handlers -/

section
variable {perform : Step → Act Session Reply}
  (hp : ∀ {step step' : Step}, Step.LogAlike V step step' →
    GoAlike V I (Reply.LogAlike I) (perform step) (perform step'))
include hp

theorem takeAction_logAlike (position : Nat) {action action' : HandlerAction Step}
    (ha : HandlerAction.Related (Step.LogAlike V) action action') :
    GoAlike V I Eq (takeAction perform position action) (takeAction perform position action') := by
  cases ha with
  | raise fault => exact .throw fault
  | perform hstep =>
    refine (changeReplies_logAlike position fun _ _ h => h).bind fun _ w => ?_
    refine (hp hstep w).bind fun w _ reply reply' hr => ?_
    exact changeReplies_logAlike position (fun _ _ h => List.rel_append h (.cons hr .nil)) w

theorem takeActions_logAlike (position : Nat) : ∀ {actions actions' : List (HandlerAction Step)},
    List.Forall₂ (HandlerAction.Related (Step.LogAlike V)) actions actions' →
    GoAlike V I Eq (takeActions perform position actions) (takeActions perform position actions')
  | _, _, .nil => .pure ()
  | _, _, .cons ha hrest =>
    (takeAction_logAlike hp position ha).bind fun _ => takeActions_logAlike position hrest

theorem callHandler_logAlike (ctx : Context) {r r' : Registration}
    (hr : Registration.LogAlike V r r') :
    GoAlike V I Eq (callHandler perform ctx r) (callHandler perform ctx r') := by
  obtain ⟨number, handler⟩ := r
  obtain ⟨number', handler'⟩ := r'
  obtain ⟨rfl, hh⟩ := hr
  cases hh with
  | intro id answer columns maxCalls hactions =>
    refine (beginCall_logAlike id ctx).bind fun position => ?_
    refine (countCall_logAlike number).bind fun count => ?_
    -- Whether a handler takes part does not depend on what it does.
    change GoAlike V I Eq (if takesPart ⟨id, answer, columns, maxCalls, []⟩ ctx count then _ else _)
      (if takesPart ⟨id, answer, columns, maxCalls, []⟩ ctx count then _ else _)
    split
    · exact (takeActions_logAlike hp position hactions).bind fun _ => .ofExcept _
    · exact .pure _

theorem fire_logAlike (registry : Nat) (event : EventRef) (ctx : Context) :
    GoAlike V I Eq (fire perform registry event ctx) (fire perform registry event ctx) :=
  Hook.dispatch_alike_of_forall₂ event (fun _ _ _ h => h.registryAt registry event) ctx
    fun _ _ => callHandler_logAlike hp ctx

theorem host_logAlike (b : Builder) :
    (host perform b).Alike (fun (_ : OneWorld) s t => LogAlike V I s t) (host perform b) where
  note level message := note_logAlike builderLogger level level message message
  dispatch event ctx := fire_logAlike hp b.registry (.event event) ctx

/-! ## Steps -/

/-- A step that tells no id and no state of the log has the same result. -/
theorem performWith_logAlike {step step' : Step} (h : Step.LogAlike V step step')
    (ht : step.tellsLog = false) :
    GoAlike V I Eq (performWith perform step) (performWith perform step') := by
  have hregister (event : EventRef) {handler handler' : Handler Step} (target : Target)
      (hh : Handler.Related (Step.LogAlike V) handler handler') : GoAlike V I Eq
        (performWith perform (.register event handler target))
        (performWith perform (.register event handler' target)) :=
    (registryOf_logAlike target).bind fun registry =>
      (register_logAlike event hh registry).bind fun _ => .pure _
  have hconfigure (environment environment' : Option String) {level level' : Value}
      (hl : level = level' ∨ Level.IsValid level ∧ Level.IsValid level') : GoAlike V I Eq
        (performWith perform (.configureLogging environment level))
        (performWith perform (.configureLogging environment' level')) :=
    (configure_logAlike environment environment' hl).bind fun _ => .pure _
  have hlog (logger : String) (level level' : Int) (message message' : String) : GoAlike V I Eq
      (performWith perform (.log logger level message))
      (performWith perform (.log logger level' message')) := by
    refine .get fun w s t h => ?_
    exact ((configure_logAlike s.environment t.environment (.inl rfl)).bind fun _ =>
      (note_logAlike _ level level' message message').bind fun _ => .pure _) w
  cases h with
  | register event target hh => exact hregister event target hh
  | configureLogging environment environment' hl => exact hconfigure environment environment' hl
  | log logger level level' message message' => exact hlog logger level level' message message'
  | setCorrelationId hv => cases ht
  | same step =>
    cases step with
    | fail fault => exact .throw fault
    | newDispatcher name =>
      refine newRegistry_logAlike.bind fun registry => ?_
      refine (Act.Alike.modify fun w s t h => ?_).bind fun _ => .pure _
      exact { h with dispatchers := by rw [h.dispatchers] }
    | newBuilder name dispatcher capabilities =>
      cases dispatcher with
      | some dispatcher =>
        exact (registryOf_logAlike _).bind (putBuilder_logAlike name capabilities)
      | none => exact newRegistry_logAlike.bind (putBuilder_logAlike name capabilities)
    | register event handler target => exact hregister event target (.refl .same handler)
    | hasHandlers event target =>
      refine (registryOf_logAlike target).bind fun registry => .get fun w s t h => ?_
      rw [(h.registryAt registry).hasHandlers_eq event]
      exact Act.Alike.pure _ w
    | clear target =>
      exact (registryOf_logAlike target).bind fun registry =>
        (changeRegistry_logAlike registry fun _ _ _ _ => .nil).bind fun _ => .pure _
    | dispatch event target diff column =>
      exact (registryOf_logAlike target).bind fun registry =>
        (fire_logAlike hp registry event _).bind fun _ => .pure _
    | sameEvents first second =>
      exact (builder_logAlike first).bind fun _ => (builder_logAlike second).bind fun _ => .pure _
    | createTable name table columns options =>
      exact (builder_logAlike name).bind fun b =>
        (Platform.createTable_alike
          (fun level message => note_logAlike builderLogger level level message message)
          b.platform table columns options).bind fun _ => .pure _
    | alterTable name diff =>
      exact (builder_logAlike name).bind fun b =>
        (Platform.alterTable_alike (host_logAlike hp b) b.platform diff).bind fun _ => .pure _
    | configureLogging environment level => exact hconfigure environment environment (.inl rfl)
    | log logger level message => exact hlog logger level level message message
    | setCorrelationId value => cases ht
    | getCorrelationId => cases ht
    | logState => cases ht

end

/-! ## Recorded steps -/

/-- Performs a step as `perform` does, where `record` records what steps give back. -/
def performBy (record : Reply → Except Fault Reply) : Nat → Step → Act Session Reply
  | 0, _ => throw .nestedTooDeeply
  | depth + 1, step => do Act.ofExcept (record (← performWith (performBy record depth) step))

/-- What comes of a step at the top. -/
def resultBy (record : Reply → Except Fault Reply) (s : Session) (step : Step) :
    EStateM.Result Fault Session Reply :=
  performBy record maxDepth step s.clean

/-- The session after steps. -/
def afterBy (record : Reply → Except Fault Reply) (s : Session) (steps : List Step) : Session :=
  steps.foldl (fun s step => endState (resultBy record s step)) s

theorem performBy_writable : performBy Reply.writable = perform := by
  funext depth
  induction depth with
  | zero => rfl
  | succ depth ih =>
    funext step
    rw [performBy, ih]
    rfl

theorem afterBy_writable (s : Session) (steps : List Step) :
    afterBy Reply.writable s steps = after s steps := by
  unfold afterBy after resultBy
  simp only [performBy_writable, next_eq]

/-- Where replies are recorded by `record`, values related by `V` may be set in place of each other:
the ids that they make are related by `I`, and are recorded alike. -/
structure Recording (record : Reply → Except Fault Reply) (V : Value → Value → Prop)
    (I : CorrelationId → CorrelationId → Prop) : Prop where
  refl : ∀ value, V value value
  set : ∀ {value value'}, V value value' → ∀ j k : Journal, I (j.setId value).1 (k.setId value').1
  generated : ∀ m n, I (.generated m) (.generated n)
  correlationId : ∀ {i i'}, I i i' →
    record (.correlationId i) = .ok (.correlationId i) ∧
        record (.correlationId i') = .ok (.correlationId i') ∨
      ∃ fault, record (.correlationId i) = .error fault ∧ record (.correlationId i') = .error fault
  logState : ∀ handlers level effective,
    record (.logState handlers level effective) = .ok (.logState handlers level effective)

section
variable {record : Reply → Except Fault Reply} (hr : Recording record V I)
include hr

theorem Recording.record_logAlike {reply reply' : Reply} (h : Reply.LogAlike I reply reply') :
    GoAlike V I (Reply.LogAlike I) (Act.ofExcept (record reply))
      (Act.ofExcept (record reply')) := by
  cases h with
  | same reply =>
    exact (Act.Alike.ofExcept (record reply)).imp fun _ _ _ heq => heq ▸ .same _
  | correlationId hid =>
    rcases hr.correlationId hid with ⟨hi, hi'⟩ | ⟨fault, hi, hi'⟩
    · rw [hi, hi']
      exact fun _ => .pure (.correlationId hid)
    · rw [hi, hi']
      exact .throw fault
  | logState =>
    rw [hr.logState, hr.logState]
    exact fun _ => .pure (.logState ..)

/-- A step that tells an id, or the state of the log. -/
theorem performWith_tells_logAlike (perform : Step → Act Session Reply) {step step' : Step}
    (h : Step.LogAlike V step step') (ht : step.tellsLog = true) :
    GoAlike V I (Reply.LogAlike I) (performWith perform step) (performWith perform step') := by
  have hset {value value' : Value} (hv : V value value') : GoAlike V I (Reply.LogAlike I)
      (performWith perform (.setCorrelationId value))
      (performWith perform (.setCorrelationId value')) := by
    intro w s t h
    have hid := hr.set hv s.journal t.journal
    have hhandlers : (s.journal.setId value).2.handlers = (t.journal.setId value').2.handlers := by
      rw [(s.journal.setId_setUp value).1, (t.journal.setId_setUp value').1, h.handlers]
    have hread : I (s.journal.setId value).2.readId.1 (t.journal.setId value').2.readId.1 := by
      rw [s.journal.setId_readId, t.journal.setId_readId]
      exact hid
    exact ⟨w, le_refl w, .ok (.correlationId hid) (h.withJournal hhandlers hread)⟩
  cases h with
  | setCorrelationId hv => exact hset hv
  | same step =>
    cases step with
    | setCorrelationId value => exact hset (hr.refl value)
    | getCorrelationId =>
      intro w s t h
      have hhandlers : s.journal.readId.2.handlers = t.journal.readId.2.handlers := by
        rw [s.journal.readId_setUp.1, t.journal.readId_setUp.1, h.handlers]
      have hread : I s.journal.readId.2.readId.1 t.journal.readId.2.readId.1 := by
        rw [s.journal.readId_readId, t.journal.readId_readId]
        exact h.id
      exact ⟨w, le_refl w, .ok (.correlationId h.id) (h.withJournal hhandlers hread)⟩
    | logState => exact fun w s t h => ⟨w, le_refl w, .ok (.logState ..) h⟩
    | _ => cases ht
  | _ => cases ht

theorem performBy_logAlike : ∀ (depth : Nat) {step step' : Step}, Step.LogAlike V step step' →
    GoAlike V I (Reply.LogAlike I) (performBy record depth step) (performBy record depth step')
  | 0, _, _, _ => .throw _
  | depth + 1, step, step', h => by
    have hwith : GoAlike V I (Reply.LogAlike I) (performWith (performBy record depth) step)
        (performWith (performBy record depth) step') := by
      cases ht : step.tellsLog with
      | true => exact performWith_tells_logAlike hr _ h ht
      | false =>
        exact (performWith_logAlike (performBy_logAlike depth) h ht).imp fun _ _ _ heq =>
          heq ▸ .same _
    exact fun w => (hwith w).bind fun w _ _ _ hreply => hr.record_logAlike hreply w

theorem performBy_eq_logAlike (depth : Nat) {step step' : Step} (h : Step.LogAlike V step step')
    (ht : step.tellsLog = false) :
    GoAlike V I Eq (performBy record depth step) (performBy record depth step') := by
  cases depth with
  | zero => exact .throw _
  | succ depth =>
    exact (performWith_logAlike (performBy_logAlike hr depth) h ht).bind fun _ => .ofExcept _

end

/-! ## Whole sessions -/

theorem LogAlike.clean {s t : Session} (h : LogAlike V I s t) : LogAlike V I s.clean t.clean := by
  have hread (j : Journal) : (Journal.readId { j with entries := [] }).1 = j.readId.1 :=
    Journal.readId_congr rfl rfl
  refine { h with id := ?_, calls := .nil }
  show I (Journal.readId { s.journal with entries := [] }).1
    (Journal.readId { t.journal with entries := [] }).1
  rw [hread, hread]
  exact h.id

theorem initial_logAlike (hI : ∀ m n, I (.generated m) (.generated n))
    (environment environment' : Option String) :
    LogAlike V I ({ environment } : Session) { environment := environment' } where
  handlers := rfl
  id := hI 1 1
  registries := .nil
  dispatchers := rfl
  builders := rfl
  callCounts := rfl
  calls := .nil

/-- What the results of a step in two sessions have in common: the same reply, except that ids and
the state of the log may differ where the step tells them, or the same fault; the calls of handlers;
and all that is registered in the end. -/
structure SameButLogs (V : Value → Value → Prop) (I : CorrelationId → CorrelationId → Prop)
    (step : Step) (x y : EStateM.Result Fault Session Reply) : Prop where
  result : step.tellsLog = false → outcome x = outcome y
  reply : ∀ reply, outcome x = .ok reply →
    ∃ reply', outcome y = .ok reply' ∧ Reply.LogAlike I reply reply'
  fault : ∀ fault, outcome x = .error fault → outcome y = .error fault
  calls : List.Forall₂ (HandlerCall.LogAlike I) (endState x).calls (endState y).calls
  registered : ∀ registry,
    Registry.LogAlike V ((endState x).registryAt registry) ((endState y).registryAt registry)
  dispatchers : (endState x).dispatchers = (endState y).dispatchers
  builders : (endState x).builders = (endState y).builders

theorem SameButLogs.of_match {step : Step} {x y : EStateM.Result Fault Session Reply}
    (hm : Match (LogAlike V I) (Reply.LogAlike I) x y)
    (hresult : step.tellsLog = false → outcome x = outcome y) : SameButLogs V I step x y := by
  have hend := hm.endState
  refine ⟨hresult, fun reply hx => ?_, fun fault hx => ?_, hend.calls, hend.registryAt,
    hend.dispatchers, hend.builders⟩
  · cases hm with
    | ok hreply _ =>
      cases hx
      exact ⟨_, rfl, hreply⟩
    | error _ => cases hx
  · cases hm with
    | ok _ _ => cases hx
    | error _ =>
      cases hx
      rfl

theorem outcome_eq_of_match {R : Session → Session → Prop}
    {x y : EStateM.Result Fault Session Reply} (hm : Match R Eq x y) : outcome x = outcome y := by
  cases hm with
  | ok heq _ => exact congrArg Except.ok heq
  | error _ => rfl

section
variable {record : Reply → Except Fault Reply} (hr : Recording record V I)
include hr

theorem LogAlike.sameButLogs {s t : Session} (hst : LogAlike V I s t) {step step' : Step}
    (h : Step.LogAlike V step step') :
    SameButLogs V I step (resultBy record s step) (resultBy record t step') := by
  obtain ⟨_, -, hm⟩ := performBy_logAlike hr maxDepth h .here _ _ hst.clean
  refine .of_match hm fun ht => ?_
  obtain ⟨_, -, hsame⟩ := performBy_eq_logAlike hr maxDepth h ht .here _ _ hst.clean
  exact outcome_eq_of_match hsame

theorem LogAlike.afterBy {s t : Session} (hst : LogAlike V I s t) {steps steps' : List Step}
    (h : List.Forall₂ (Step.LogAlike V) steps steps') :
    LogAlike V I (afterBy record s steps) (afterBy record t steps') := by
  induction h generalizing s t with
  | nil => exact hst
  | cons hstep _ ih =>
    obtain ⟨_, -, hm⟩ := performBy_logAlike hr maxDepth hstep .here _ _ hst.clean
    exact ih hm.endState

/-- Sessions that differ in logging only have all their steps in common. -/
theorem sameButLogs_of_forall₂ (environment environment' : Option String)
    {steps steps' : List Step} (h : List.Forall₂ (Step.LogAlike V) steps steps') {n : Nat}
    {step step' : Step} (hn : steps[n]? = some step) (hn' : steps'[n]? = some step') :
    SameButLogs V I step
      (resultBy record (Session.afterBy record { environment } (steps.take n)) step)
      (resultBy record (Session.afterBy record { environment := environment' } (steps'.take n))
        step') := by
  have hbefore := (initial_logAlike hr.generated environment environment').afterBy hr
    (List.forall₂_take n h)
  obtain ⟨hlt, rfl⟩ := List.getElem?_eq_some_iff.1 hn
  obtain ⟨hlt', rfl⟩ := List.getElem?_eq_some_iff.1 hn'
  exact hbefore.sameButLogs hr (h.get hlt hlt')

end

/-! ## Two ways to record replies -/

/-- The id that a value makes can be written. -/
def makesWritableId (value : Value) : Bool := !(value.truthy && value.isOversized)

theorem setId_isWritable (j : Journal) (value : Value) :
    (j.setId value).1.isWritable = makesWritableId value := by
  rw [makesWritableId]
  cases h : value.truthy with
  | true =>
    rw [Journal.setId_of_truthy h]
    rfl
  | false =>
    rw [Journal.setId_of_not_truthy h]
    rfl

theorem writable_correlationId (id : CorrelationId) :
    Reply.writable (.correlationId id) =
      if id.isWritable then .ok (.correlationId id) else .error .longValue := by
  cases id with
  | generated number => rfl
  | given value =>
    rw [Reply.writable, Value.writable, CorrelationId.isWritable]
    cases value.isOversized <;> rfl

/-- Where replies are only passed on, any value may be set in place of any other. -/
theorem recording_ok : Recording Except.ok (fun _ _ => True) fun _ _ => True where
  refl _ := trivial
  set _ _ _ := trivial
  generated _ _ := trivial
  correlationId _ := .inl ⟨rfl, rfl⟩
  logState _ _ _ := rfl

/-- Where replies are written, what matters about an id is whether it can be. -/
theorem recording_writable : Recording Reply.writable
    (fun value value' => makesWritableId value = makesWritableId value')
    fun i i' => i.isWritable = i'.isWritable where
  refl _ := rfl
  set h j k := by rw [setId_isWritable, setId_isWritable, h]
  generated _ _ := rfl
  correlationId {i i'} h := by
    rw [writable_correlationId, writable_correlationId, ← h]
    cases i.isWritable with
    | true => exact .inl ⟨rfl, rfl⟩
    | false => exact .inr ⟨.longValue, rfl, rfl⟩
  logState _ _ _ := rfl

/-- **Logging never influences generation.** Take two sessions that differ only in what the
environment asks for, in levels, in the lines that the host writes, and in the ids that it sets,
also within handlers. Every step that tells no id and no state of the log has the same result or the
same fault in both; the same handlers are called, in the same order and with the same contexts, and
the same handlers are registered. Any ids may differ where replies are only passed on; where they
are written, as in `perform`, an id that can be written stands for another one. -/
theorem logging_never_influences (environment environment' : Option String)
    (steps steps' : List Step) :
    (List.Forall₂ (Step.LogAlike fun _ _ => True) steps steps' →
      ∀ n step step', steps[n]? = some step → steps'[n]? = some step' →
        SameButLogs (fun _ _ => True) (fun _ _ => True) step
          (resultBy .ok (afterBy .ok { environment } (steps.take n)) step)
          (resultBy .ok (afterBy .ok { environment := environment' } (steps'.take n)) step')) ∧
    (List.Forall₂ (Step.LogAlike fun value value' => makesWritableId value = makesWritableId value')
        steps steps' →
      ∀ n step step', steps[n]? = some step → steps'[n]? = some step' →
        SameButLogs (fun value value' => makesWritableId value = makesWritableId value')
          (fun i i' => i.isWritable = i'.isWritable) step
          (perform maxDepth step (after { environment } (steps.take n)).clean)
          (perform maxDepth step' (after { environment := environment' } (steps'.take n)).clean)) ∧
    performBy Reply.writable = perform := by
  refine ⟨fun h n step step' => sameButLogs_of_forall₂ recording_ok environment environment' h,
    fun h n step step' => ?_, performBy_writable⟩
  rw [← afterBy_writable, ← afterBy_writable, ← performBy_writable]
  exact sameButLogs_of_forall₂ recording_writable environment environment' h

/-- An alteration that a handler takes part in, in sessions with different levels, lines and ids. -/
theorem logging_never_influences_of_debug :
    let steps (level : Int) (configured id : Value) (message : String) : List Step :=
      [.configureLogging none configured, .newBuilder "b" none .crate, .setCorrelationId id,
       .register (.event .addColumn)
        { id := "h", answer := .text "S", actions := [.perform (.log "app" level message)] }
        (.builder "b"),
       .alterTable "b" { name := "t", added := [{ name := "order", type := .standard .blob }] }]
    let first := steps 10 (.text "DEBUG") (.text "a") "begin"
    let second := steps 50 .null .null "end"
    List.Forall₂ (Step.LogAlike fun _ _ => True) first second ∧
      ∀ n step step', first[n]? = some step → second[n]? = some step' →
        SameButLogs (fun _ _ => True) (fun _ _ => True) step
          (resultBy .ok (afterBy .ok { environment := some "error" } (first.take n)) step)
          (resultBy .ok (afterBy .ok {} (second.take n)) step') := by
  intro steps first second
  have h : List.Forall₂ (Step.LogAlike fun _ _ => True) first second :=
    .cons (.configureLogging none none (.inr ⟨⟨_, rfl⟩, ⟨_, rfl⟩⟩)) <|
      .cons (.same _) <| .cons (.setCorrelationId trivial) <|
        .cons (.register _ _ (.intro _ _ _ _
          (.cons (.perform (.log "app" 10 50 "begin" "end")) .nil))) <| .cons (.same _) .nil
  exact ⟨h, (logging_never_influences (some "error") none first second).1 h⟩

end Session

end CrateDdl
