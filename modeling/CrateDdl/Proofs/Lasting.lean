import CrateDdl.Proofs.Diary
import CrateDdl.Proofs.Renaming

/-!
# What lasts in sessions

Where the environment stays as it is, the session of a diary is the session itself
(`diary_session`), so whatever holds of all requests holds of sessions. What lasts (`Lasting`), of a
session and the moments at which steps have begun, is a matter of single requests, single calls and
of steps that call no handler; through the handlers and the steps that they take it is carried here
once for all (`perform_alike`), and so it holds of whole sessions (`diary_follows`).
-/

set_option autoImplicit false

namespace CrateDdl

open Act

/-! ## What keeps the journal -/

namespace Session

/-- The journal is the same in the end. -/
def KeepsJournal {α : Type} (x : Act Session α) : Prop :=
  ∀ journal, Holds (fun s : Session => s.journal = journal) x

theorem KeepsJournal.of_endState {α : Type} {x : Act Session α}
    (h : ∀ s, (endState (x s)).journal = s.journal) : KeepsJournal x :=
  fun _ => .of_endState fun s hs => (h s).trans hs

theorem KeepsJournal.bind {α β : Type} {x : Act Session α} {f : α → Act Session β}
    (hx : KeepsJournal x) (hf : ∀ a, KeepsJournal (f a)) : KeepsJournal (x >>= f) :=
  fun journal => (hx journal).bind fun a => hf a journal

theorem newRegistry_keepsJournal : KeepsJournal newRegistry := .of_endState fun _ => rfl

/-! ## What only notes calls -/

/-- Calls of handlers may be noted and counted, and that is all. -/
def OnlyCalls {α : Type} (x : Act Session α) : Prop :=
  ∀ s, ∃ (callCounts : List Nat) (calls : List HandlerCall),
    callCounts.length = s.callCounts.length ∧ endState (x s) = { s with callCounts, calls }

theorem OnlyCalls.keepsJournal {α : Type} {x : Act Session α} (h : OnlyCalls x) :
    KeepsJournal x :=
  .of_endState fun s => by
    obtain ⟨_, _, -, hs⟩ := h s
    rw [hs]

/-- The session is the same in the end. -/
theorem OnlyCalls.of_holds {α : Type} {x : Act Session α} (h : ∀ s, Holds (· = s) x) :
    OnlyCalls x :=
  fun s => ⟨s.callCounts, s.calls, rfl, (h s).endState rfl⟩

theorem builder_onlyCalls (name : String) : OnlyCalls (builder name) :=
  .of_holds fun _ => builder_holds name

theorem registryOf_onlyCalls (target : Target) : OnlyCalls (registryOf target) :=
  .of_holds fun _ => registryOf_holds target

theorem beginCall_onlyCalls (handler : String) (ctx : Context) :
    OnlyCalls (beginCall handler ctx) :=
  fun _ => ⟨_, _, rfl, rfl⟩

theorem countCall_onlyCalls (number : Nat) : OnlyCalls (countCall number) :=
  fun _ => ⟨_, _, List.length_modify .., rfl⟩

theorem changeReplies_onlyCalls (position : Nat) (change : List Reply → List Reply) :
    OnlyCalls (changeReplies position change) :=
  fun _ => ⟨_, _, rfl, rfl⟩

end Session

/-! ## What lasts -/

/-- What holds of a session and the moments noted about it all the way, if it holds in the
beginning. A step that calls no handler is taken as a whole: there is no moment in the middle. -/
structure Lasting (P : Session → List Moment → Prop) : Prop where
  request : ∀ {s : Session} {moments : List Moment} (r : Journal.Request), P s moments →
    P { s with journal := s.journal.after r } moments
  calls : ∀ {s : Session} {moments : List Moment} {callCounts : List Nat}
    (calls : List HandlerCall), callCounts.length = s.callCounts.length → P s moments →
    P { s with callCounts, calls } moments
  /-- Handlers may be called in the step that begins. -/
  begins : ∀ {s : Session} {moments : List Moment} {step : Step}, step.callsHandlers = true →
    P s moments → P s (moments ++ [⟨step, s⟩])
  step : ∀ {s : Session} {moments : List Moment} {step : Step} (perform : Step → Act Session Reply),
    step.callsHandlers = false → P s moments →
    P (endState (Session.performWith perform step s)) (moments ++ [⟨step, s⟩])

theorem lasting_true : Lasting fun _ _ => True where
  request _ _ := trivial
  calls _ _ _ := trivial
  begins _ _ := trivial
  step _ _ _ := trivial

/-! ## A diary and its session -/

namespace Diary

variable {start : Journal} {α : Type}

/-- A diary of a session. -/
structure Follows (P : Session → List Moment → Prop) (s : Session) (d : Diary start) : Prop where
  session : d.session = s
  moments : P s d.moments

/-- A computation on a session, and one that keeps a diary of it. -/
abbrev Alike (P : Session → List Moment → Prop) (x : Act Session α) (y : Act (Diary start) α) :
    Prop :=
  Act.Alike (fun _ : OneWorld => Follows P) Same x y

section
variable {P : Session → List Moment → Prop}

theorem onSession_alike {x : Act Session α} (hx : Session.KeepsJournal x)
    (hP : ∀ {s : Session} {moments : List Moment}, P s moments → P (endState (x s)) moments) :
    Alike P x (onSession x : Act (Diary start) α) := by
  rintro w _ d ⟨rfl, hd⟩
  have hj : (endState (x d.session)).journal = d.journal := (hx d.journal).endState rfl
  have hmoments := hP hd
  refine ⟨w, le_refl w, ?_⟩
  rw [onSession]
  cases hr : x d.session with
  | ok a s' =>
    rw [hr] at hj hmoments
    rw [onPart_of_ok hr]
    exact .ok rfl ⟨congrArg (fun journal => { s' with journal }) hj.symm, hmoments⟩
  | error fault s' =>
    rw [hr] at hj hmoments
    rw [onPart_of_error hr]
    exact .error ⟨congrArg (fun journal => { s' with journal }) hj.symm, hmoments⟩

/-- The journal of a session does what the request to it says. -/
theorem ask_alike (r : Journal.Request) (act : Act Journal α)
    (hact : ∀ j, endState (act j) = j.after r)
    (hP : ∀ {s : Session} {moments : List Moment}, P s moments →
      P { s with journal := s.journal.after r } moments) :
    Alike P (Act.onPart Session.journal (fun journal s => { s with journal }) act)
      (ask r act : Act (Diary start) α) := by
  rintro w _ d ⟨rfl, hd⟩
  have hd' : Follows P { d.session with journal := d.journal.after r }
      ({ d with requests := d.requests ++ [r] } : Diary start) :=
    ⟨congrArg (fun journal => { d.rest with journal }) (start.replay_concat d.requests r), hP hd⟩
  rw [← hact] at hd'
  refine ⟨w, le_refl w, ?_⟩
  rw [ask]
  cases hr : act d.journal with
  | ok a journal =>
    rw [hr] at hd'
    have hs : act d.session.journal = .ok a journal := hr
    rw [onPart_of_ok hs, onPart_of_ok hr]
    exact .ok rfl hd'
  | error fault journal =>
    rw [hr] at hd'
    have hs : act d.session.journal = .error fault journal := hr
    rw [onPart_of_error hs, onPart_of_error hr]
    exact .error hd'

theorem note_alike
    (hP : ∀ {s : Session} {moments : List Moment} (r : Journal.Request), P s moments →
      P { s with journal := s.journal.after r } moments)
    (logger : String) (level : Int) (message : String) :
    Alike P (Session.note logger level message)
      (note logger level message : Act (Diary start) Unit) :=
  ask_alike (.write level logger message) (modify (Journal.write level logger message))
    (fun _ => rfl) (hP _)

end

/-! ### Steps that call no handler -/

/-- The environment stays as it is. -/
abbrev unchanged (_ : Nat) (environment : Option String) : Option String := environment

/-- The moments stay as they are. -/
abbrev Unmarked (moments : List Moment) (_ : Session) (moments' : List Moment) : Prop :=
  moments' = moments

section
variable {moments : List Moment}

theorem onSession_unmarked {x : Act Session α} (hx : Session.KeepsJournal x) :
    Alike (Unmarked moments) x (onSession x : Act (Diary start) α) :=
  onSession_alike hx id

theorem onRegistry_unmarked (target : Target) {f : Nat → Act Session α}
    (hf : ∀ registry s, (endState (f registry s)).journal = s.journal) :
    Alike (Unmarked moments) (Session.registryOf target >>= f)
      (onSession (Session.registryOf target >>= f) : Act (Diary start) α) :=
  onSession_unmarked <| (Session.registryOf_onlyCalls target).keepsJournal.bind fun registry =>
    .of_endState (hf registry)

theorem configure_unmarked (environment : Option String) (level : Value) :
    Alike (Unmarked moments) (Session.configure environment level)
      (configure environment level : Act (Diary start) Unit) :=
  ask_alike (.configure environment level) (Journal.configure environment level) (fun _ => rfl) id

theorem setUp_unmarked {x : Act Session α} {y : Act (Diary start) α}
    (h : Alike (Unmarked moments) x y) :
    Alike (Unmarked moments) (do Session.configure (← get).environment .null; x)
      (do setUp unchanged; y) := by
  intro w s d hsd
  obtain rfl := hsd.session
  rw [bind_of_ok (get_run d.session), setUp, bind_assoc, bind_of_ok (get_run d)]
  exact ((configure_unmarked d.rest.environment .null).bind fun _ => h) w d.session d hsd

theorem putBuilder_unmarked (name : String) (capabilities : Capabilities) (registry : Nat) :
    Alike (Unmarked moments) (Session.putBuilder name capabilities registry)
      (putBuilder unchanged name capabilities registry : Act (Diary start) Reply) :=
  setUp_unmarked ((onSession_unmarked (.of_endState fun _ => rfl)).bind fun _ => .pure Reply.done)

/-- What would perform the steps of handlers does not matter. -/
theorem performWith_unmarked (perform : Step → Act Session Reply)
    (perform' : Step → Act (Diary start) Reply) {step : Step} (hs : step.callsHandlers = false) :
    Alike (Unmarked moments) (Session.performWith perform step)
      (performWith perform' unchanged step) := by
  cases step with
  | newBuilder name dispatcher capabilities =>
    cases dispatcher with
    | some dispatcher =>
      exact (onSession_unmarked
        (Session.registryOf_onlyCalls (.dispatcher dispatcher)).keepsJournal).bind
          (putBuilder_unmarked name capabilities)
    | none =>
      exact (onSession_unmarked Session.newRegistry_keepsJournal).bind
        (putBuilder_unmarked name capabilities)
  | createTable name table columns options =>
    exact (onSession_unmarked (Session.builder_onlyCalls name).keepsJournal).bind fun b =>
      (Platform.createTable_alike (note_alike (fun _ => id) Session.builderLogger) b.platform table
        columns options).bind fun _ => .pure _
  | setCorrelationId value =>
    exact (ask_alike (.setId value) (modifyGet (Journal.setId value)) (fun _ => rfl) id).bind
      fun id => .pure (Reply.correlationId id)
  | getCorrelationId =>
    exact (ask_alike .readId (modifyGet Journal.readId) (fun _ => rfl) id).bind fun id =>
      .pure (Reply.correlationId id)
  | configureLogging environment level =>
    exact (configure_unmarked environment level).bind fun _ => .pure _
  | log logger level message =>
    exact setUp_unmarked ((note_alike (fun _ => id) (Journal.loggerName logger) level message).bind
      fun _ => .pure _)
  | fail fault => exact onSession_unmarked fun _ => .throw fault
  | newDispatcher name => exact onSession_unmarked (.of_endState fun _ => rfl)
  | register event handler target =>
    exact onRegistry_unmarked target fun _ _ => rfl
  | clear target =>
    exact onRegistry_unmarked target fun _ _ => rfl
  | hasHandlers event target =>
    exact onRegistry_unmarked target fun _ _ => rfl
  | sameEvents first second =>
    exact onSession_unmarked (.bind (Session.builder_onlyCalls first).keepsJournal fun _ =>
      .bind (Session.builder_onlyCalls second).keepsJournal fun _ _ => .pure _)
  | logState => exact onSession_unmarked (.of_endState fun _ => rfl)
  | dispatch event target diff column => cases hs
  | alterTable name diff => cases hs

end

/-! ### Handlers -/

section
variable {P : Session → List Moment → Prop} (hP : Lasting P)
include hP

theorem onCalls_alike {x : Act Session α} (hx : Session.OnlyCalls x) :
    Alike P x (onSession x : Act (Diary start) α) :=
  onSession_alike hx.keepsJournal fun {s _} h => by
    obtain ⟨_, calls, hlength, hs⟩ := hx s
    rw [hs]
    exact hP.calls calls hlength h

variable {perform : Step → Act Session Reply} {perform' : Step → Act (Diary start) Reply}
  (hp : ∀ step, Alike P (perform step) (perform' step))
include hp

theorem takeAction_alike (position : Nat) (action : HandlerAction Step) :
    Alike P (Session.takeAction perform position action)
      (takeAction perform' position action) := by
  have hreplies (change : List Reply → List Reply) :
      Alike P (Session.changeReplies position change) (onSession _ : Act (Diary start) Unit) :=
    onCalls_alike hP (Session.changeReplies_onlyCalls position change)
  cases action with
  | raise fault => exact .throw fault
  | perform step =>
    exact (hreplies id).bind fun _ => (hp step).bind fun reply => hreplies (· ++ [reply])

theorem takeActions_alike (position : Nat) : ∀ actions : List (HandlerAction Step),
    Alike P (Session.takeActions perform position actions) (takeActions perform' position actions)
  | [] => .pure ()
  | action :: rest =>
    (takeAction_alike hP hp position action).bind fun _ => takeActions_alike position rest

theorem callHandler_alike (ctx : Context) (r : Registration) :
    Alike P (Session.callHandler perform ctx r) (callHandler perform' ctx r) := by
  refine (onCalls_alike hP (Session.beginCall_onlyCalls r.handler.id ctx)).bind fun position => ?_
  refine (onCalls_alike hP (Session.countCall_onlyCalls r.number)).bind fun count => ?_
  split
  · exact (takeActions_alike hP hp position r.handler.actions).bind fun _ => .ofExcept _
  · exact .pure _

theorem fire_alike (registry : Nat) (event : EventRef) (ctx : Context) :
    Alike P (Session.fire perform registry event ctx) (fire perform' registry event ctx) :=
  Hook.dispatch_alike (fun _ _ _ h => h.session ▸ rfl) (callHandler_alike hP hp) event ctx

theorem host_alike (b : Builder) :
    (Session.host perform b).Alike (fun _ : OneWorld => Follows P) (host perform' b) where
  note := note_alike hP.request Session.builderLogger
  dispatch event ctx := fire_alike hP hp b.registry (.event event) ctx

/-! ### Any step -/

theorem performWith_alike {step : Step} (hs : step.callsHandlers = true) :
    Alike P (Session.performWith perform step) (performWith perform' unchanged step) := by
  cases step with
  | dispatch event target diff column =>
    exact (onCalls_alike hP (Session.registryOf_onlyCalls target)).bind fun registry =>
      (fire_alike hP hp registry event _).bind fun _ => .pure _
  | alterTable name diff =>
    exact (onCalls_alike hP (Session.builder_onlyCalls name)).bind fun b =>
      (Platform.alterTable_alike (host_alike hP hp b) b.platform diff).bind fun _ => .pure _
  | _ => cases hs

/-- The begin of a step and the step. -/
theorem marked_alike (step : Step) :
    Alike P (Session.performWith perform step)
      (modify (marked step) >>= fun _ => performWith perform' unchanged step) := by
  rintro w _ d ⟨rfl, hd⟩
  rw [bind_of_ok (modify_run (marked step) d)]
  -- Where no handler is called, the moments are ahead of the session until the step is done.
  cases hs : step.callsHandlers with
  | true =>
    exact performWith_alike hP hp hs w d.session (d.marked step) ⟨rfl, hP.begins hs hd⟩
  | false =>
    obtain ⟨w', hw, hm⟩ :=
      performWith_unmarked perform perform' hs w d.session (d.marked step) ⟨rfl, rfl⟩
    exact ⟨w', hw, hm.imp fun h => ⟨h.session, h.moments ▸ hP.step perform hs hd⟩⟩

end

section
variable {P : Session → List Moment → Prop} (hP : Lasting P)
include hP

theorem perform_alike : ∀ (depth : Nat) (step : Step),
    Alike P (Session.perform depth step) (perform unchanged depth step : Act (Diary start) Reply)
  | 0, _ => .throw _
  | depth + 1, step =>
    (marked_alike hP (perform_alike depth) step).bind fun _ => .ofExcept _

/-! ### Whole sessions -/

theorem next_follows {s : Session} {d : Diary start} (h : Follows P s d) (step : Step) :
    Follows P (Session.next step s) (d.next unchanged step) := by
  obtain rfl := h.session
  have hclean : Follows P d.session.clean
      { d with rest := { d.rest with calls := [] }, requests := d.requests ++ [.turnPage] } :=
    ⟨congrArg (fun journal => { d.rest with calls := [], journal })
      (start.replay_concat d.requests .turnPage), hP.calls [] rfl (hP.request .turnPage h.moments)⟩
  obtain ⟨_, -, hm⟩ := perform_alike hP Session.maxDepth step .here _ _ hclean
  rw [Session.next_eq]
  exact hm.endState

theorem foldl_follows : ∀ (steps : List Step) {s : Session} {d : Diary start}, Follows P s d →
    Follows P (Session.after s steps) (steps.foldl (next unchanged) d)
  | [], _, _, h => h
  | step :: rest, _, _, h => foldl_follows rest (next_follows hP h step)

end

end Diary

theorem diary_follows {P : Session → List Moment → Prop} (hP : Lasting P)
    {environment : Option String} (h : P { environment } []) (steps : List Step) :
    Diary.Follows P (Session.after { environment } steps)
      (diary Diary.unchanged environment steps) :=
  Diary.foldl_follows hP steps ⟨rfl, h⟩

/-- Where the environment stays as it is, the session of the diary is the session itself. -/
theorem diary_session (environment : Option String) (steps : List Step) :
    (diary Diary.unchanged environment steps).session = Session.after { environment } steps :=
  (diary_follows lasting_true trivial steps).session

namespace Diary

variable {α : Type}

/-- What lasts whatever the moments are holds all the way of computations of which a diary can be
kept. -/
theorem holds {P : Session → Prop} {x : Act Session α}
    {y : (start : Journal) → Act (Diary start) α}
    (h : ∀ start, Alike (fun s _ => P s) x (y start)) : Holds P x :=
  .of_endState fun s hs => by
    obtain ⟨_, -, hm⟩ := h s.journal .here s { rest := s } ⟨rfl, hs⟩
    exact hm.endState.moments

end Diary

end CrateDdl
