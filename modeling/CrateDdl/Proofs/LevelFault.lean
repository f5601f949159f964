import CrateDdl.Proofs.Invariants
import CrateDdl.Proofs.SetUp

/-!
# Setting the journal up with a level at fault

A journal gets its handler before its level is looked at. So where the level is at fault
(`Level.AtFault`), setting up fails and yet is done with: the journal counts as set up, with the
level that it had before (`configure_eq_error`), and nothing that is asked of it later can change
that, be it in the requests that follow or in the steps of a session (`configure_fails_set_up`).
-/

set_option autoImplicit false

namespace CrateDdl

namespace Level

/-- A level is a number or a name; a boolean counts as a number. Without one the environment
decides, which is never at fault. -/
def MayBe : Value → Prop
  | .null | .int _ | .bool _ | .text _ => True
  | _ => False

/-- What is at fault with a level: a name that is not known, or a value of another kind. -/
inductive AtFault : Value → Fault → Prop
  | unknownName {name : String} : ofName? name = none → AtFault (.text name) (.unknownLevel name)
  | kind {level : Value} : ¬ MayBe level → AtFault level (.levelKind level)

theorem asked_eq_error {environment : Option String} {level : Value} {fault : Fault} :
    asked environment level = .error fault ↔ AtFault level fault := by
  refine ⟨fun h => ?_, fun h => ?_⟩
  · cases level with
    | null | int n | bool b => cases h
    | text name =>
      cases hname : ofName? name with
      | none =>
        simp only [asked, ofValue, hname] at h
        cases h
        exact .unknownName hname
      | some n =>
        simp only [asked, ofValue, hname] at h
        cases h
    | _ =>
      cases h
      exact .kind id
  · cases h with
    | unknownName hname => simp only [asked, ofValue, hname]
    | kind hkind =>
      cases level with
      | null | int n | bool b | text name => exact absurd trivial hkind
      | _ => rfl

end Level

namespace Journal

variable {j j' : Journal} {environment : Option String} {level : Value} {fault : Fault}

/-- Setting up fails only where it has not been done, with a level at fault, and leaves a handler
behind. -/
theorem configure_eq_error :
    configure environment level j = .error fault j' ↔
      j.handlers = 0 ∧ Level.AtFault level fault ∧ j' = { j with handlers := 1 } := by
  cases hi : j.installed with
  | true =>
    rw [configure_of_installed hi]
    have hhandlers : j.handlers ≠ 0 := bne_iff_ne.1 hi
    simp [hhandlers]
  | false =>
    have hhandlers : j.handlers = 0 := by simpa [installed] using hi
    have hasked : Level.asked environment level = .error fault ↔ Level.AtFault level fault :=
      Level.asked_eq_error
    rw [configure_of_not_installed hi, hhandlers, ← hasked]
    cases Level.asked environment level <;> simp [eq_comm]

/-- A journal that has a handler keeps it and its level. -/
theorem replay_of_one_handler (h : j.handlers = 1) (requests : List Request) :
    (j.replay requests).handlers = 1 ∧ (j.replay requests).level = j.level := by
  have hsettles := Settles.replay j requests
  have hle := hsettles.handlers_le
  have hone := hsettles.at_most_one (by omega)
  exact ⟨by omega, hsettles.level (by omega)⟩

end Journal

/-! ## Sessions -/

namespace Session

variable {s s' : Session} {depth : Nat} {environment : Option String} {level : Value} {fault : Fault}

theorem perform_configureLogging_eq_error :
    perform (depth + 1) (.configureLogging environment level) s = .error fault s' ↔
      ∃ journal, Journal.configure environment level s.journal = .error fault journal ∧
        s' = { s with journal } := by
  have hdone (s : Session) : (configure environment level >>= fun _ => pure Reply.done) s =
      perform (depth + 1) (.configureLogging environment level) s := by
    rw [perform, performWith]
    simp only [bind_assoc, pure_bind, Reply.writable, Act.ofExcept_ok]
  rw [← hdone, Act.bind_eq_error, configure]
  cases hc : Journal.configure environment level s.journal with
  | ok a journal => simp [Act.onPart_of_ok hc]
  | error fault' journal => simp [Act.onPart_of_error hc, eq_comm, and_comm]

/-- What a journal with a handler keeps, whatever a session does. -/
theorem one_handler_stable (n : Int) :
    Stable fun s => s.journal.handlers = 1 ∧ s.journal.level = n :=
  .of_journal (Q := fun j => j.handlers = 1 ∧ j.level = n) fun r ⟨hhandlers, hlevel⟩ => by
    obtain ⟨hkept, hsame⟩ := Journal.replay_of_one_handler hhandlers [r]
    exact ⟨hkept, hsame.trans hlevel⟩

end Session

/-- **A call that fails has set the journal up.** Setting up fails where it has not been done before
and the level is at fault, and what it leaves behind is a journal with a handler. So the handlers and
the level are what they were before if and only if the call does not fail at all; and after one that
has failed, no request to the journal and no step of the session changes the handlers or the
level. -/
theorem configure_fails_set_up (j : Journal) (environment : Option String) (level : Value) :
    (∀ fault j', Journal.configure environment level j = .error fault j' ↔
      j.handlers = 0 ∧ Level.AtFault level fault ∧ j' = { j with handlers := 1 }) ∧
    ((∀ fault j', Journal.configure environment level j = .error fault j' →
        j'.handlers = j.handlers ∧ j'.level = j.level) ↔
      j.handlers ≠ 0 ∨ ∀ fault, ¬ Level.AtFault level fault) ∧
    (∀ fault j', Journal.configure environment level j = .error fault j' → ∀ requests,
      (j'.replay requests).handlers = 1 ∧ (j'.replay requests).level = j.level) ∧
    ∀ (s : Session) (depth : Nat) fault s', s.journal = j →
      Session.perform (depth + 1) (.configureLogging environment level) s = .error fault s' →
      ∀ steps, (s'.after steps).journal.handlers = 1 ∧ (s'.after steps).journal.level = j.level := by
  refine ⟨fun _ _ => Journal.configure_eq_error, ⟨fun hkept => ?_, fun hreturns => ?_⟩, ?_, ?_⟩
  · by_cases hhandlers : j.handlers = 0
    · refine .inr fun fault hlevel => ?_
      have hone := (hkept fault _ (Journal.configure_eq_error.2 ⟨hhandlers, hlevel, rfl⟩)).1
      rw [hhandlers] at hone
      cases hone
    · exact .inl hhandlers
  · intro fault j' h
    obtain ⟨hhandlers, hlevel, -⟩ := Journal.configure_eq_error.1 h
    rcases hreturns with hinstalled | hvalid
    · exact absurd hhandlers hinstalled
    · exact absurd hlevel (hvalid fault)
  · intro fault j' h requests
    obtain ⟨-, -, rfl⟩ := Journal.configure_eq_error.1 h
    exact Journal.replay_of_one_handler rfl requests
  · intro s depth fault s' hj h steps
    subst hj
    obtain ⟨journal, hconfigure, rfl⟩ := Session.perform_configureLogging_eq_error.1 h
    obtain ⟨-, -, rfl⟩ := Journal.configure_eq_error.1 hconfigure
    exact (Session.one_handler_stable s.journal.level).after steps ⟨rfl, rfl⟩

/-- A name that is not known leaves a handler behind, and a level that could be asked for has then
no effect. -/
theorem configure_of_unknown_name :
    (Session.run {} [.logState, .configureLogging none (.text "verbose"), .logState,
        .configureLogging none (.int 10), .logState]).map Session.Answer.outcome =
      [.ok (.logState 0 0 30), .error (.unknownLevel "verbose"), .ok (.logState 1 0 30),
        .ok .done, .ok (.logState 1 0 30)] := rfl

end CrateDdl
