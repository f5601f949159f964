import CrateDdl.Proofs.History
import CrateDdl.Proofs.Independence

/-!
# Registries and their history

A history accounts for a session if the registries hold what it says, and names mean what it says
(`Accounts`). A step that calls no handler does to the session what its deed is in the history
(`Accounts.performWith`), and without a deed it leaves the registries as they are (`Keeps`).
-/

set_option autoImplicit false

namespace CrateDdl

open Act History

/-! ## What keeps the registries -/

namespace Session

/-- Registries, names and registrations are the same. -/
structure Kept (s s' : Session) : Prop where
  registries : s'.registries = s.registries
  dispatchers : s'.dispatchers = s.dispatchers
  builders : s'.builders = s.builders
  callCounts : s'.callCounts.length = s.callCounts.length

theorem Kept.refl (s : Session) : Kept s s := ⟨rfl, rfl, rfl, rfl⟩

theorem Kept.trans {s s' s'' : Session} (h : Kept s s') (h' : Kept s' s'') : Kept s s'' :=
  ⟨h'.registries.trans h.registries, h'.dispatchers.trans h.dispatchers,
    h'.builders.trans h.builders, h'.callCounts.trans h.callCounts⟩

theorem Noted.kept {s s' : Session} (h : Noted s s') : Kept s s' := by
  obtain ⟨journal, rfl, -⟩ := h
  exact ⟨rfl, rfl, rfl, rfl⟩

/-- The registries are the same in the end. -/
def Keeps {α : Type} (x : Act Session α) : Prop := ∀ s, Kept s (endState (x s))

namespace Keeps

variable {α β : Type}

protected theorem pure (a : α) : Keeps (pure a) := fun s => .refl s

protected theorem throw (fault : Fault) : Keeps (throw fault : Act Session α) := fun s => .refl s

protected theorem get : Keeps (get : Act Session Session) := fun s => .refl s

protected theorem bind {x : Act Session α} {f : α → Act Session β} (hx : Keeps x)
    (hf : ∀ a, Keeps (f a)) : Keeps (x >>= f) := by
  intro s
  have h := hx s
  cases hs : x s with
  | ok a s₁ =>
    rw [hs] at h
    rw [bind_of_ok hs]
    exact h.trans (hf a s₁)
  | error fault s₁ =>
    rw [hs] at h
    rw [bind_of_error hs]
    exact h

theorem of_onlyNotes {x : Act Session α} (hx : OnlyNotes x) : Keeps x := fun s => (hx.noted s).kept

end Keeps

theorem configure_keeps (environment : Option String) (level : Value) :
    Keeps (configure environment level) := by
  intro s
  rw [endState_configure]
  exact ⟨rfl, rfl, rfl, rfl⟩

theorem registryOf_keeps (target : Target) : Keeps (registryOf target) := by
  cases target with
  | dispatcher name =>
    exact .bind .get fun s => .of_onlyNotes fun _ => lookup_alike s.dispatchers name
  | builder name => exact .bind (.of_onlyNotes (builder_onlyNotes name)) fun _ => .pure _

/-! ## Registries -/

theorem registryAt_append_empty (s : Session) (number : Nat) :
    (s.registries ++ [Registry.empty]).getD number Registry.empty = s.registryAt number := by
  rw [registryAt, List.getD_eq_getElem?_getD, List.getD_eq_getElem?_getD]
  rcases Nat.lt_trichotomy number s.registries.length with hn | rfl | hn
  · rw [List.getElem?_append_left hn]
  · simp
  · rw [List.getElem?_eq_none (by simp; omega), List.getElem?_eq_none (by omega)]

theorem registryAt_modify {s : Session} {number : Nat} (hn : number < s.registries.length)
    (change : Registry Registration → Registry Registration) (other : Nat) :
    (s.registries.modify number change).getD other Registry.empty =
      if number = other then change (s.registryAt number) else s.registryAt other := by
  rw [registryAt, registryAt, List.getD_eq_getElem?_getD, List.getElem?_modify]
  split
  · next he =>
    subst he
    simp [hn]
  · simp

end Session

open Session

/-- The registries of a session, and its names, are what a history says. -/
structure Accounts (h : List Deed) (s : Session) : Prop where
  handlers : ∀ registry event,
    (s.registryAt registry).handlers event = held registry event.eventName h
  registries : s.registries.length = (made h).length
  registrations : s.callCounts.length = registrations h
  dispatchers : ∀ name, s.dispatchers.get? name = dispatcherNamed name h
  builders : ∀ name,
    (s.builders.get? name).map Builder.registry = (sourceNamed name h).map Source.registry

namespace Accounts

variable {h : List Deed} {s s' : Session} {registry : Nat} {target : Target}

theorem initial (environment : Option String) : Accounts [] { environment } where
  handlers registry event := by simp [Session.registryAt, held]
  registries := rfl
  registrations := rfl
  dispatchers name := rfl
  builders name := rfl

theorem kept (ha : Accounts h s) (hk : Kept s s') : Accounts h s' where
  handlers registry event := by
    rw [registryAt, hk.registries]
    exact ha.handlers registry event
  registries := by rw [hk.registries, ha.registries]
  registrations := by rw [hk.callCounts, ha.registrations]
  dispatchers := by rw [hk.dispatchers]; exact ha.dispatchers
  builders := by rw [hk.builders]; exact ha.builders

/-- A step is about the registry that the history names. -/
theorem registryOf_of_some (ha : Accounts h s) (ht : targeted h target = some registry) :
    registryOf target s = .ok registry s := by
  cases target with
  | dispatcher name => exact lookup_of_some ((ha.dispatchers name).trans ht)
  | builder name =>
    obtain ⟨b, hb, rfl⟩ := Option.map_eq_some_iff.1 ((ha.builders name).trans ht)
    exact bind_of_ok (builder_of_some hb)

theorem registryOf_of_none (ha : Accounts h s) (ht : targeted h target = none) :
    ∃ fault, registryOf target s = .error fault s := by
  cases target with
  | dispatcher name => exact ⟨_, lookup_of_none ((ha.dispatchers name).trans ht)⟩
  | builder name =>
    have hb : s.builders.get? name = none :=
      Option.map_eq_none_iff.1 ((ha.builders name).trans ht)
    exact ⟨_, bind_of_error (builder_of_none hb)⟩

theorem registryOf_iff (ha : Accounts h s) :
    Session.registryOf target s = .ok registry s ↔ targeted h target = some registry := by
  cases ht : targeted h target with
  | none =>
    obtain ⟨fault, hf⟩ := ha.registryOf_of_none ht
    simp [hf]
  | some r => simp [ha.registryOf_of_some ht]

/-! ### Deeds -/

theorem newDispatcher (ha : Accounts h s) (name : String) :
    Accounts (h ++ [.dispatcher name (made h).length])
      { s with
        registries := s.registries ++ [Registry.empty]
        dispatchers := s.dispatchers.put name s.registries.length } where
  handlers registry event := by
    rw [registryAt, registryAt_append_empty, ha.handlers]
    simp [Deed.clears, Deed.handler?]
  registries := by simp [Deed.made?, ha.registries]
  registrations := by simp [Deed.isRegistration, ha.registrations]
  dispatchers other := by
    by_cases hn : name = other <;>
      simp [OrderedMap.get?_put, Deed.dispatcher?, hn, ha.dispatchers, ha.registries]
  builders other := by simp [Deed.source?, ha.builders]

theorem newBuilder_given (ha : Accounts h s) (name : String) (platform : Platform)
    (journal : Journal) :
    Accounts (h ++ [.builder name (.given registry)])
      { s with journal, builders := s.builders.put name ⟨platform, registry⟩ } where
  handlers registry event := by
    rw [held_append]
    simp only [Deed.clears, Deed.handler?, Bool.false_eq_true, if_false, Option.toList_none,
      List.append_nil]
    exact ha.handlers registry event
  registries := by simp [Deed.made?, ha.registries]
  registrations := by simp [Deed.isRegistration, ha.registrations]
  dispatchers other := by simp [Deed.dispatcher?, ha.dispatchers]
  builders other := by
    by_cases hn : name = other <;>
      simp [OrderedMap.get?_put, Deed.source?, hn, ha.builders, Source.registry]

theorem newBuilder_own (ha : Accounts h s) (name : String) (platform : Platform)
    (journal : Journal) :
    Accounts (h ++ [.builder name (.own (made h).length)])
      { s with
        journal
        registries := s.registries ++ [Registry.empty]
        builders := s.builders.put name ⟨platform, s.registries.length⟩ } where
  handlers registry event := by
    rw [registryAt, registryAt_append_empty, ha.handlers]
    simp [Deed.clears, Deed.handler?]
  registries := by simp [Deed.made?, ha.registries]
  registrations := by simp [Deed.isRegistration, ha.registrations]
  dispatchers other := by simp [Deed.dispatcher?, ha.dispatchers]
  builders other := by
    by_cases hn : name = other <;>
      simp [OrderedMap.get?_put, Deed.source?, hn, ha.builders, ha.registries, Source.registry]

theorem register (ha : Accounts h s) (hr : registry < s.registries.length) (event : EventRef)
    (handler : Handler Step) :
    Accounts (h ++ [.register registry event.eventName ⟨History.registrations h, handler⟩])
      { s with
        callCounts := s.callCounts ++ [0]
        registries := s.registries.modify registry
          (·.register event ⟨s.callCounts.length, handler⟩) } where
  handlers other event' := by
    rw [registryAt, registryAt_modify hr, held_append, ha.registrations]
    by_cases hn : registry = other <;> by_cases he : event.eventName = event'.eventName <;>
      simp [Deed.clears, Deed.handler?, Registry.handlers_register, hn, he, ha.handlers]
  registries := by simp [Deed.made?, ha.registries]
  registrations := by simp [Deed.isRegistration, ha.registrations]
  dispatchers other := by simp [Deed.dispatcher?, ha.dispatchers]
  builders other := by simp [Deed.source?, ha.builders]

theorem clear (ha : Accounts h s) (hr : registry < s.registries.length) :
    Accounts (h ++ [.clear registry])
      { s with registries := s.registries.modify registry fun _ => .empty } where
  handlers other event := by
    rw [registryAt, registryAt_modify hr, held_append]
    by_cases hn : registry = other <;>
      simp [Deed.clears, Deed.handler?, hn, ha.handlers]
  registries := by simp [Deed.made?, ha.registries]
  registrations := by simp [Deed.isRegistration, ha.registrations]
  dispatchers other := by simp [Deed.dispatcher?, ha.dispatchers]
  builders other := by simp [Deed.source?, ha.builders]

/-! ### Steps -/

/-- A step about a registry does its deed there; about one that there is not, it does nothing. -/
theorem bind_registryOf {α : Type} (ha : Accounts h s) (target : Target) {f : Nat → Act Session α}
    {deed : Nat → Deed}
    (hf : ∀ registry, targeted h target = some registry →
      Accounts (h ++ [deed registry]) (endState (f registry s))) :
    Accounts (h ++ ((targeted h target).map deed).toList)
      (endState ((registryOf target >>= f) s)) := by
  cases ht : targeted h target with
  | none =>
    obtain ⟨fault, hfault⟩ := ha.registryOf_of_none ht
    rw [bind_of_error hfault, Option.map_none, Option.toList_none, List.append_nil]
    exact ha
  | some registry =>
    rw [bind_of_ok (ha.registryOf_of_some ht)]
    exact hf registry ht

/-- A step that calls no handler does to the registries what its deed is. -/
theorem performWith (hl : Lawful h) (ha : Accounts h s) (perform : Step → Act Session Reply)
    {step : Step} (hs : step.callsHandlers = false) :
    Accounts (h ++ (deed? h step).toList) (endState (Session.performWith perform step s)) := by
  have hquiet {x : Act Session Reply} (hx : Keeps x) : Accounts (h ++ []) (endState (x s)) := by
    rw [List.append_nil]
    exact ha.kept (hx s)
  cases step with
  | newDispatcher name => exact ha.newDispatcher name
  | newBuilder name dispatcher capabilities =>
    cases dispatcher with
    | none =>
      show Accounts _ (endState ((newRegistry >>= putBuilder name capabilities) s))
      rw [bind_of_ok (newRegistry_run s), putBuilder_run]
      exact ha.newBuilder_own name _ _
    | some dispatcher =>
      refine ha.bind_registryOf (f := putBuilder name capabilities) (.dispatcher dispatcher)
        fun registry _ => ?_
      rw [putBuilder_run]
      exact ha.newBuilder_given name _ _
  | register event handler target =>
    exact ha.bind_registryOf target fun registry ht =>
      ha.register (ha.registries ▸ hl.targeted_lt ht) event handler
  | clear target =>
    exact ha.bind_registryOf target fun registry ht =>
      ha.clear (ha.registries ▸ hl.targeted_lt ht)
  | fail fault => exact hquiet (.throw fault)
  | hasHandlers event target =>
    exact hquiet (.bind (registryOf_keeps target) fun _ => .bind .get fun _ => .pure _)
  | sameEvents first second =>
    exact hquiet (.bind (.of_onlyNotes (builder_onlyNotes first)) fun _ =>
      .bind (.of_onlyNotes (builder_onlyNotes second)) fun _ => .pure _)
  | createTable name table columns options =>
    exact hquiet (.bind (.of_onlyNotes (builder_onlyNotes name)) fun b =>
      .bind (.of_onlyNotes (createTable_onlyNotes b.platform table columns options)) fun _ =>
        .pure _)
  | setCorrelationId value => exact hquiet fun _ => ⟨rfl, rfl, rfl, rfl⟩
  | getCorrelationId => exact hquiet fun _ => ⟨rfl, rfl, rfl, rfl⟩
  | configureLogging environment level =>
    exact hquiet (.bind (configure_keeps environment level) fun _ => .pure _)
  | logState => exact hquiet (.bind .get fun _ => .pure _)
  | log logger level message =>
    exact hquiet (.bind .get fun s => .bind (configure_keeps s.environment .null) fun _ =>
      .bind (.of_onlyNotes (note_onlyNotes _ level message)) fun _ => .pure _)
  | dispatch event target diff column => cases hs
  | alterTable name diff => cases hs

/-! ### What follows from two histories -/

/-- Only a step about a registry changes its handlers, and a registration those of its event. -/
theorem handlers_ne {step : Step} (ha : Accounts h s) (ha' : Accounts (h ++ (deed? h step).toList) s')
    {event : EventRef}
    (hne : (s'.registryAt registry).handlers event ≠ (s.registryAt registry).handlers event) :
    ∃ target, targeted h target = some registry ∧ (step = .clear target ∨
      ∃ ref handler, step = .register ref handler target ∧ ref.eventName = event.eventName) := by
  rw [ha.handlers, ha'.handlers] at hne
  cases hd : deed? h step with
  | none =>
    rw [hd, Option.toList_none, List.append_nil] at hne
    exact absurd rfl hne
  | some d =>
    rw [hd, Option.toList_some] at hne
    rcases held_append_of_ne hne with rfl | ⟨handler, rfl⟩
    · obtain ⟨target, rfl, ht⟩ := deed?_eq_clear hd
      exact ⟨target, ht, .inl rfl⟩
    · obtain ⟨ref, target, rfl, ht, he⟩ := deed?_eq_register hd
      exact ⟨target, ht, .inr ⟨ref, handler.handler, rfl, he⟩⟩

/-- A builder that is given no dispatcher starts without handlers. -/
theorem handlers_of_own {name : String} {capabilities : Capabilities} (ha : Accounts h s)
    (ha' : Accounts (h ++ (deed? h (.newBuilder name none capabilities)).toList) s') :
    ∃ registry, Session.registryOf (.builder name) s' = .ok registry s' ∧
      ∀ event, (s'.registryAt registry).handlers event = [] := by
  refine ⟨(made h).length, ha'.registryOf_iff.2 ?_, fun event => ?_⟩
  · simp [targeted, deed?, Deed.source?, Source.registry]
  · have hs : s.registryAt (made h).length = .empty := by
      rw [Session.registryAt, ← ha.registries, List.getD_eq_getElem?_getD,
        List.getElem?_eq_none (Nat.le_refl _), Option.getD_none]
    have hheld : held (made h).length event.eventName h = [] := by
      rw [← ha.handlers, hs, Registry.handlers_empty]
    rw [ha'.handlers]
    simp [deed?, Deed.clears, Deed.handler?, hheld]

end Accounts

end CrateDdl
