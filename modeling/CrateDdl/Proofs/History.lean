import CrateDdl.Session.State
import Mathlib.Data.List.DropRight
import Mathlib.Data.List.Nodup

/-!
# What has been done to registries

The history of a session is read off the steps that have been performed, in their order and without
the session itself (`history`): which registries have been made, the names under which dispatchers
and builders have been known since, and what has been registered and cleared. A registry is known by
its number in the order in which they have been made, and a registration by its own.
-/

set_option autoImplicit false

namespace CrateDdl

/-- Where a builder has its registry from: it was given a dispatcher's, or has made its own. -/
inductive Source
  | given (registry : Nat)
  | own (registry : Nat)

def Source.registry : Source → Nat
  | given registry => registry
  | own registry => registry

inductive Deed
  | dispatcher (name : String) (registry : Nat)
  | builder (name : String) (source : Source)
  | register (registry : Nat) (event : String) (handler : Registration)
  | clear (registry : Nat)

namespace Deed

def made? : Deed → Option Nat
  | dispatcher _ registry => some registry
  | builder _ (.own registry) => some registry
  | _ => none

def dispatcher? (name : String) : Deed → Option Nat
  | dispatcher n registry => if n = name then some registry else none
  | _ => none

def source? (name : String) : Deed → Option Source
  | builder n source => if n = name then some source else none
  | _ => none

def isRegistration : Deed → Bool
  | register .. => true
  | _ => false

def handler? (registry : Nat) (event : String) : Deed → Option Registration
  | register r e handler => if r = registry ∧ e = event then some handler else none
  | _ => none

def clears (registry : Nat) : Deed → Bool
  | clear r => r == registry
  | _ => false

end Deed

/-! ## Reading a history -/

namespace History

def made (h : List Deed) : List Nat := h.filterMap Deed.made?

def registrations (h : List Deed) : Nat := h.countP Deed.isRegistration

/-- The registry of the last dispatcher of a name. -/
def dispatcherNamed (name : String) (h : List Deed) : Option Nat :=
  (h.filterMap (Deed.dispatcher? name)).getLast?

/-- The source of the last builder of a name. -/
def sourceNamed (name : String) (h : List Deed) : Option Source :=
  (h.filterMap (Deed.source? name)).getLast?

def targeted (h : List Deed) : Target → Option Nat
  | .dispatcher name => dispatcherNamed name h
  | .builder name => (sourceNamed name h).map Source.registry

/-- The handlers that have been registered on a registry for an event since it was last cleared. -/
def held (registry : Nat) (event : String) (h : List Deed) : List Registration :=
  (h.rtakeWhile (!Deed.clears registry ·)).filterMap (Deed.handler? registry event)

/-- What a step does to registries after what has been done before. A step about a dispatcher or a
builder that there is not does nothing. -/
def deed? (h : List Deed) : Step → Option Deed
  | .newDispatcher name => some (.dispatcher name (made h).length)
  | .newBuilder name none _ => some (.builder name (.own (made h).length))
  | .newBuilder name (some dispatcher) _ =>
    (targeted h (.dispatcher dispatcher)).map fun registry => .builder name (.given registry)
  | .register event handler target =>
    (targeted h target).map fun registry =>
      .register registry event.eventName ⟨registrations h, handler⟩
  | .clear target => (targeted h target).map .clear
  | _ => none

end History

open History

/-- What steps have done to registries, performed one after the other. -/
def history (steps : List Step) : List Deed :=
  steps.foldl (fun h step => h ++ (deed? h step).toList) []

theorem history_append (steps : List Step) (step : Step) :
    history (steps ++ [step]) = history steps ++ (deed? (history steps) step).toList := by
  simp only [history, List.foldl_append, List.foldl_cons, List.foldl_nil]

namespace History

variable {h : List Deed} {registry : Nat}

/-! ## One deed more -/

section
variable (h : List Deed) (d : Deed)

@[simp] theorem made_append : made (h ++ [d]) = made h ++ d.made?.toList := by
  cases hd : d.made? <;> simp [made, hd]

@[simp] theorem registrations_append :
    registrations (h ++ [d]) = registrations h + if d.isRegistration then 1 else 0 := by
  simp [registrations, List.countP_singleton]

@[simp] theorem dispatcherNamed_append (name : String) :
    dispatcherNamed name (h ++ [d]) = (d.dispatcher? name).or (dispatcherNamed name h) := by
  cases hd : d.dispatcher? name <;> simp [dispatcherNamed, hd]

@[simp] theorem sourceNamed_append (name : String) :
    sourceNamed name (h ++ [d]) = (d.source? name).or (sourceNamed name h) := by
  cases hd : d.source? name <;> simp [sourceNamed, hd]

@[simp] theorem held_append (registry : Nat) (event : String) :
    held registry event (h ++ [d]) =
      if d.clears registry then []
      else held registry event h ++ (d.handler? registry event).toList := by
  cases hc : d.clears registry with
  | true => simp [held, hc]
  | false => cases hd : d.handler? registry event <;> simp [held, hc, hd]

end

theorem held_append_of_ne {event : String} {d : Deed}
    (hne : held registry event (h ++ [d]) ≠ held registry event h) :
    d = .clear registry ∨ ∃ handler, d = .register registry event handler := by
  rw [held_append] at hne
  cases d with
  | clear r =>
    by_cases hr : r = registry
    · exact .inl (by rw [hr])
    · simp [Deed.clears, Deed.handler?, hr] at hne
  | register r e handler =>
    by_cases hr : r = registry ∧ e = event
    · obtain ⟨rfl, rfl⟩ := hr
      exact .inr ⟨handler, rfl⟩
    · simp [Deed.clears, Deed.handler?, hr] at hne
  | dispatcher name r => simp [Deed.clears, Deed.handler?] at hne
  | builder name source => simp [Deed.clears, Deed.handler?] at hne

/-! ## Names -/

theorem mem_of_dispatcherNamed {name : String} (hn : dispatcherNamed name h = some registry) :
    .dispatcher name registry ∈ h := by
  obtain ⟨d, hd, he⟩ := List.mem_filterMap.1 (List.mem_of_getLast? hn)
  cases d <;> simp [Deed.dispatcher?] at he
  obtain ⟨rfl, rfl⟩ := he
  exact hd

theorem mem_of_sourceNamed {name : String} {source : Source}
    (hn : sourceNamed name h = some source) : .builder name source ∈ h := by
  obtain ⟨d, hd, he⟩ := List.mem_filterMap.1 (List.mem_of_getLast? hn)
  cases d <;> simp [Deed.source?] at he
  obtain ⟨rfl, rfl⟩ := he
  exact hd

theorem mem_made {d : Deed} (hd : d ∈ h) (hm : d.made? = some registry) : registry ∈ made h :=
  List.mem_filterMap.2 ⟨d, hd, hm⟩

/-! ## What a step can do -/

theorem deed?_eq_some {step : Step} {d : Deed} (hd : deed? h step = some d) :
    (∃ name, step = .newDispatcher name ∧ d = .dispatcher name (made h).length) ∨
    (∃ name capabilities, step = .newBuilder name none capabilities ∧
      d = .builder name (.own (made h).length)) ∨
    (∃ name dispatcher capabilities registry,
      step = .newBuilder name (some dispatcher) capabilities ∧
      dispatcherNamed dispatcher h = some registry ∧ d = .builder name (.given registry)) ∨
    (∃ event handler target registry, step = .register event handler target ∧
      targeted h target = some registry ∧
      d = .register registry event.eventName ⟨registrations h, handler⟩) ∨
    (∃ target registry, step = .clear target ∧ targeted h target = some registry ∧
      d = .clear registry) := by
  cases step with
  | newDispatcher name =>
    cases hd
    exact .inl ⟨name, rfl, rfl⟩
  | newBuilder name dispatcher capabilities =>
    cases dispatcher with
    | none =>
      cases hd
      exact .inr (.inl ⟨name, capabilities, rfl, rfl⟩)
    | some dispatcher =>
      obtain ⟨registry, hr, rfl⟩ := Option.map_eq_some_iff.1 hd
      exact .inr (.inr (.inl ⟨name, dispatcher, capabilities, registry, rfl, hr, rfl⟩))
  | register event handler target =>
    obtain ⟨registry, hr, rfl⟩ := Option.map_eq_some_iff.1 hd
    exact .inr (.inr (.inr (.inl ⟨event, handler, target, registry, rfl, hr, rfl⟩)))
  | clear target =>
    obtain ⟨registry, hr, rfl⟩ := Option.map_eq_some_iff.1 hd
    exact .inr (.inr (.inr (.inr ⟨target, registry, rfl, hr, rfl⟩)))
  | _ => cases hd

theorem deed?_eq_clear {step : Step} (hd : deed? h step = some (.clear registry)) :
    ∃ target, step = .clear target ∧ targeted h target = some registry := by
  rcases deed?_eq_some hd with ⟨_, _, h⟩ | ⟨_, _, _, h⟩ | ⟨_, _, _, _, _, _, h⟩ |
    ⟨_, _, _, _, _, _, h⟩ | ⟨target, _, rfl, ht, h⟩ <;> cases h
  exact ⟨target, rfl, ht⟩

theorem deed?_eq_register {step : Step} {name : String} {registration : Registration}
    (hd : deed? h step = some (.register registry name registration)) :
    ∃ event target, step = .register event registration.handler target ∧
      targeted h target = some registry ∧ event.eventName = name := by
  rcases deed?_eq_some hd with ⟨_, _, h⟩ | ⟨_, _, _, h⟩ | ⟨_, _, _, _, _, _, h⟩ |
    ⟨event, _, target, _, rfl, ht, h⟩ | ⟨_, _, _, _, h⟩ <;> cases h
  exact ⟨event, target, rfl, ht, rfl⟩

/-! ## Numbers -/

/-- Registries are numbered in the order in which they are made, and builders are given those of
dispatchers. -/
structure Lawful (h : List Deed) : Prop where
  numbered : made h = List.range (made h).length
  given : ∀ {name : String} {registry : Nat}, .builder name (.given registry) ∈ h →
    ∃ other, .dispatcher other registry ∈ h

namespace Lawful

/-- The number of a new registry is the next one. -/
theorem append {d : Deed} (hl : Lawful h)
    (hm : ∀ registry, d.made? = some registry → registry = (made h).length)
    (hg : ∀ name registry, d = .builder name (.given registry) →
      ∃ other, .dispatcher other registry ∈ h) : Lawful (h ++ [d]) where
  numbered := by
    cases hd : d.made? with
    | none => simpa [hd] using hl.numbered
    | some registry =>
      rw [made_append, hd, hm registry hd, Option.toList_some, List.length_append,
        List.length_singleton, List.range_succ, ← hl.numbered]
  given := by
    intro name registry hb
    rcases List.mem_append.1 hb with hb | hb
    · obtain ⟨other, ho⟩ := hl.given hb
      exact ⟨other, List.mem_append_left _ ho⟩
    · obtain ⟨other, ho⟩ := hg name registry (List.mem_singleton.1 hb).symm
      exact ⟨other, List.mem_append_left _ ho⟩

theorem append_deed? (hl : Lawful h) (step : Step) : Lawful (h ++ (deed? h step).toList) := by
  cases hd : deed? h step with
  | none => simpa using hl
  | some d =>
    refine hl.append (fun registry hm => ?_) fun name registry hg => ?_
    · rcases deed?_eq_some hd with ⟨_, _, rfl⟩ | ⟨_, _, _, rfl⟩ | ⟨_, _, _, _, _, _, rfl⟩ |
        ⟨_, _, _, _, _, _, rfl⟩ | ⟨_, _, _, _, rfl⟩ <;> cases hm <;> rfl
    · rcases deed?_eq_some hd with ⟨_, _, rfl⟩ | ⟨_, _, _, rfl⟩ |
        ⟨_, dispatcher, _, _, _, hr, rfl⟩ | ⟨_, _, _, _, _, _, rfl⟩ | ⟨_, _, _, _, rfl⟩ <;> cases hg
      exact ⟨dispatcher, mem_of_dispatcherNamed hr⟩

theorem targeted_mem (hl : Lawful h) {target : Target} (ht : targeted h target = some registry) :
    registry ∈ made h := by
  cases target with
  | dispatcher name => exact mem_made (mem_of_dispatcherNamed ht) rfl
  | builder name =>
    obtain ⟨source, hs, rfl⟩ := Option.map_eq_some_iff.1 ht
    have hb : .builder name source ∈ h := mem_of_sourceNamed hs
    cases source with
    | own registry => exact mem_made hb rfl
    | given registry =>
      obtain ⟨other, ho⟩ := hl.given hb
      exact mem_made ho rfl

theorem targeted_lt (hl : Lawful h) {target : Target} (ht : targeted h target = some registry) :
    registry < (made h).length :=
  List.mem_range.1 (hl.numbered ▸ hl.targeted_mem ht)

/-- No registry is made twice. -/
theorem made_once (hl : Lawful h) {i j : Nat} {d e : Deed} (hi : h[i]? = some d)
    (hj : h[j]? = some e) (hd : d.made? = some registry) (he : e.made? = some registry) :
    i = j := by
  -- No number occurs twice among those made, so no two deeds have made the same.
  have hpair : h.Pairwise fun d e => ∀ r, d.made? = some r → ∀ r', e.made? = some r' → r ≠ r' :=
    List.pairwise_filterMap.1 (hl.numbered ▸ List.nodup_range : (made h).Nodup)
  obtain ⟨hi', rfl⟩ := List.getElem?_eq_some_iff.1 hi
  obtain ⟨hj', rfl⟩ := List.getElem?_eq_some_iff.1 hj
  rcases Nat.lt_trichotomy i j with hlt | rfl | hlt
  · exact absurd rfl (List.pairwise_iff_getElem.1 hpair i j hi' hj' hlt _ hd _ he)
  · rfl
  · exact absurd rfl (List.pairwise_iff_getElem.1 hpair j i hj' hi' hlt _ he _ hd)

/-- A registry that a builder has made is no dispatcher's. -/
theorem own_not_dispatcher (hl : Lawful h) {name other : String}
    (hb : .builder name (.own registry) ∈ h) : .dispatcher other registry ∉ h := by
  intro ho
  obtain ⟨i, hi⟩ := List.mem_iff_getElem?.1 hb
  obtain ⟨j, hj⟩ := List.mem_iff_getElem?.1 ho
  have hij : i = j := hl.made_once hi hj rfl rfl
  rw [hij, hj] at hi
  cases hi

/-- Two builders share a registry if and only if they were given the same one. -/
theorem shared_iff (hl : Lawful h) {i j : Nat} {first second : String} {a b : Source}
    (hi : h[i]? = some (.builder first a)) (hj : h[j]? = some (.builder second b)) (hij : i ≠ j) :
    a.registry = b.registry ↔ ∃ registry, a = .given registry ∧ b = .given registry := by
  refine ⟨fun hab => ?_, ?_⟩
  · cases a with
    | given r =>
      cases b with
      | given r' => exact ⟨r, rfl, congrArg Source.given hab.symm⟩
      | own r' =>
        cases hab
        obtain ⟨other, ho⟩ := hl.given (List.mem_of_getElem? hi)
        exact absurd ho (hl.own_not_dispatcher (List.mem_of_getElem? hj))
    | own r =>
      cases b with
      | given r' =>
        cases hab
        obtain ⟨other, ho⟩ := hl.given (List.mem_of_getElem? hj)
        exact absurd ho (hl.own_not_dispatcher (List.mem_of_getElem? hi))
      | own r' =>
        cases hab
        exact absurd (hl.made_once hi hj rfl rfl) hij
  · rintro ⟨registry, rfl, rfl⟩
    rfl

end Lawful

theorem lawful_history (steps : List Step) : Lawful (history steps) := by
  induction steps using List.reverseRecOn with
  | nil => exact ⟨rfl, fun h => nomatch h⟩
  | append_singleton steps step ih =>
    rw [history_append]
    exact ih.append_deed? step

end History

end CrateDdl
