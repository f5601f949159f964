import CrateDdl.Proofs.Accounts
import CrateDdl.Proofs.Lasting

/-!
# Registries over whole sessions

The moments at which steps have begun tell the history of a session (`Tells`), and this lasts
(`tells_lasting`). So at every moment the handlers that a registry holds are those of the history so
far (`handlers_held`), whichever steps are still under way.
-/

set_option autoImplicit false

namespace CrateDdl

open Act History

/-- The history accounts for a session, and at each moment the history until then for the session
as it was. -/
structure Tells (s : Session) (moments : List Moment) : Prop where
  now : Accounts (history (moments.map (·.step))) s
  before : ∀ n moment, moments[n]? = some moment →
    Accounts (history ((moments.map (·.step)).take n)) moment.session

theorem deed?_of_callsHandlers (h : List Deed) {step : Step} (hs : step.callsHandlers = true) :
    deed? h step = none := by
  cases step <;> first | rfl | cases hs

namespace Tells

variable {s s' : Session} {moments : List Moment}

theorem initial (environment : Option String) : Tells { environment } [] where
  now := .initial environment
  before _ _ hn := by simp at hn

/-- The session goes on without a step, and keeps the registries. -/
theorem goOn (h : Tells s moments) (hk : Session.Kept s s') : Tells s' moments where
  now := h.now.kept hk
  before := h.before

/-- A step begins, with which the session goes on as its deed is. -/
theorem step (h : Tells s moments) {step : Step}
    (ha : Accounts (history (moments.map (·.step) ++ [step])) s') :
    Tells s' (moments ++ [⟨step, s⟩]) where
  now := by simpa using ha
  before n moment hm := by
    rw [List.map_append]
    rcases Nat.lt_trichotomy n moments.length with hn | rfl | hn
    · rw [List.getElem?_append_left hn] at hm
      rw [List.take_append_of_le_length (by simpa using Nat.le_of_lt hn)]
      exact h.before n moment hm
    · rw [List.getElem?_concat_length] at hm
      cases hm
      rw [List.take_append_of_le_length (by simp), List.take_of_length_le (by simp)]
      exact h.now
    · rw [List.getElem?_eq_none (by simp; omega)] at hm
      cases hm

end Tells

/-- A step in which handlers may be called does nothing to the registries by itself; any other does
its deed. -/
theorem tells_lasting : Lasting Tells where
  request _ h := h.goOn ⟨rfl, rfl, rfl, rfl⟩
  calls _ hlength h := h.goOn ⟨rfl, rfl, rfl, hlength⟩
  begins hs h := h.step <| by
    rw [history_append, deed?_of_callsHandlers _ hs, Option.toList_none, List.append_nil]
    exact h.now
  step perform hs h := h.step <| by
    rw [history_append]
    exact h.now.performWith (lawful_history _) perform hs

namespace Diary

variable {start : Journal} {d : Diary start}

/-- What the history accounts for at every point. -/
theorem accounts_of_points (h : Tells d.session d.moments) {n : Nat} {point : Session}
    (hp : d.points[n]? = some point) : Accounts (history (d.performed.take n)) point := by
  rw [points] at hp
  rcases Nat.lt_trichotomy n (d.moments.map (·.session)).length with hn | rfl | hn
  · rw [List.getElem?_append_left hn, List.getElem?_map] at hp
    obtain ⟨moment, hm, rfl⟩ := Option.map_eq_some_iff.1 hp
    exact h.before n moment hm
  · rw [List.getElem?_concat_length] at hp
    cases hp
    rw [List.take_of_length_le (by simp [performed])]
    exact h.now
  · rw [List.getElem?_eq_none (by simp at hn ⊢; omega)] at hp
    cases hp

theorem history_take_succ {n : Nat} {step : Step} (hn : d.performed[n]? = some step) :
    history (d.performed.take (n + 1)) = history (d.performed.take n) ++
      (deed? (history (d.performed.take n)) step).toList := by
  rw [List.take_add_one, hn, Option.toList_some, history_append]

end Diary

namespace Session

/-- A handler that clears the registry it is called from, before it registers another. -/
example :
    let clear : Step := .clear (.builder "b")
    let register : Step := .register (.event ⟨"e"⟩) { id := "later" } (.dispatcher "d")
    let d := diary Diary.unchanged none
      [.newDispatcher "d", .newBuilder "b" (some "d") .crate,
        .register (.name "e") { id := "first", actions := [.perform clear, .perform register] }
          (.builder "b"),
        .dispatch (.name "e") (.dispatcher "d") none none]
    (List.range d.points.length).map (fun n =>
      (held 0 "e" (history (d.performed.take n))).map (·.handler.id)) =
      [[], [], [], ["first"], ["first"], [], ["later"]] := by
  decide +kernel

end Session

end CrateDdl
