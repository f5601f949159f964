import CrateDdl.Proofs.Lasting

/-!
# Invariants of sessions

A session changes in few ways: the journal gets a request, a builder is put where the journal has
been set up, and all the rest may change at will. What survives these (`Session.Stable`) survives a
step that calls no handler, and so lasts (`Stable.lasting`): it holds in every session, in the
middle of handlers as well as between the steps (`Stable.perform`, `Stable.after`).
-/

set_option autoImplicit false

namespace CrateDdl.Session

open Act

/-- What survives all that a session is built from. -/
structure Stable (P : Session → Prop) : Prop where
  journal : ∀ {s : Session} (r : Journal.Request), P s → P { s with journal := s.journal.after r }
  /-- Builders are put only where the journal has been set up. -/
  builders : ∀ {s : Session} (builders : OrderedMap Builder), s.journal.installed = true → P s →
    P { s with builders }
  rest : ∀ {s : Session} (registries : List (Registry Registration))
    (dispatchers : OrderedMap Nat) (callCounts : List Nat) (calls : List HandlerCall), P s →
    P { s with registries, dispatchers, callCounts, calls }

/-- What survives requests to the journal, of the journal alone. -/
theorem Stable.of_journal {Q : Journal → Prop}
    (h : ∀ {j : Journal} (r : Journal.Request), Q j → Q (j.after r)) :
    Stable fun s => Q s.journal where
  journal := h
  builders _ _ hj := hj
  rest _ _ _ _ hj := hj

namespace Stable

variable {P : Session → Prop} (hP : Stable P)
include hP

/-! ## Operations on the state -/

theorem note (logger : String) (level : Int) (message : String) :
    Holds P (Session.note logger level message) :=
  .of_endState fun _ => hP.journal (.write level logger message)

theorem configure (environment : Option String) (level : Value) :
    Holds P (Session.configure environment level) :=
  .of_endState fun s h => by
    rw [endState_configure]
    exact hP.journal _ h

theorem newRegistry : Holds P Session.newRegistry :=
  .of_endState fun s => hP.rest _ s.dispatchers s.callCounts s.calls

theorem changeRegistry (number : Nat) (change : Registry Registration → Registry Registration) :
    Holds P (Session.changeRegistry number change) :=
  .of_endState fun s => hP.rest _ s.dispatchers s.callCounts s.calls

theorem register (event : EventRef) (handler : Handler Step) (registry : Nat) :
    Holds P (Session.register event handler registry) :=
  .of_endState fun s => hP.rest _ s.dispatchers _ s.calls

theorem putBuilder (name : String) (capabilities : Capabilities) (registry : Nat) :
    Holds P (Session.putBuilder name capabilities registry) :=
  .of_endState fun s h => by
    rw [putBuilder_run]
    exact hP.builders (s := { s with journal := s.journal.after _ }) _
      (s.journal.after_configure_installed s.environment .null) (hP.journal _ h)

/-! ## Steps -/

/-- What would perform the steps of handlers does not matter. -/
theorem performWith (perform : Step → Act Session Reply) {step : Step}
    (hs : step.callsHandlers = false) : Holds P (Session.performWith perform step) := by
  cases step with
  | fail fault => exact .throw fault
  | newDispatcher name =>
    refine hP.newRegistry.bind fun registry => ?_
    exact .of_endState fun s => hP.rest s.registries _ s.callCounts s.calls
  | newBuilder name dispatcher capabilities =>
    have hput := hP.putBuilder name capabilities
    cases dispatcher with
    | some dispatcher => exact (registryOf_holds (.dispatcher dispatcher)).bind hput
    | none => exact hP.newRegistry.bind hput
  | register event handler target =>
    exact (registryOf_holds target).bind fun registry =>
      (hP.register event handler registry).bind fun _ => .pure _
  | hasHandlers event target =>
    exact (registryOf_holds target).bind fun registry => .of_endState fun _ h => h
  | clear target =>
    exact (registryOf_holds target).bind fun registry =>
      (hP.changeRegistry registry _).bind fun _ => .pure _
  | sameEvents first second =>
    exact (builder_holds first).bind fun _ => (builder_holds second).bind fun _ => .pure _
  | createTable name table columns options =>
    exact (builder_holds name).bind fun b =>
      (Platform.createTable_alike (hP.note builderLogger) b.platform table columns options).bind
        fun _ => .pure _
  | setCorrelationId value => exact .of_endState fun _ => hP.journal (.setId value)
  | getCorrelationId => exact .of_endState fun _ => hP.journal .readId
  | configureLogging environment level =>
    exact (hP.configure environment level).bind fun _ => .pure _
  | logState => exact .of_endState fun _ h => h
  | log logger level message =>
    refine .get fun w s t h => ?_
    obtain ⟨rfl, -⟩ := h
    exact ((hP.configure s.environment .null).bind fun _ =>
      (hP.note (Journal.loggerName logger) level message).bind fun _ => .pure _) w
  | dispatch event target diff column => cases hs
  | alterTable name diff => cases hs

/-- Whatever is noted about the session. -/
theorem lasting : Lasting fun s _ => P s where
  request := hP.journal
  calls {s _ callCounts} calls _ h := hP.rest s.registries s.dispatchers callCounts calls h
  begins _ h := h
  step perform hs h := (hP.performWith perform hs).endState h

/-- What is stable holds all the way through a step and the handlers called in it. -/
theorem perform (depth : Nat) (step : Step) : Holds P (Session.perform depth step) :=
  Diary.holds fun _ => Diary.perform_alike hP.lasting depth step

/-- What is stable holds after any steps. -/
theorem after (steps : List Step) {s : Session} (h : P s) : P (s.after steps) := by
  have hs : Diary.Follows (fun s _ => P s) s ({ rest := s } : Diary s.journal) := ⟨rfl, h⟩
  exact (Diary.foldl_follows hP.lasting steps hs).moments

end Stable

end CrateDdl.Session
