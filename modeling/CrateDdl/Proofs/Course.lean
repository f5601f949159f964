import CrateDdl.Proofs.Requests
import CrateDdl.Session.Run

/-!
# The course of a session

The parts of steps that do not fail, the session that a step leaves behind, and a run over several
steps as the runs over its parts.
-/

set_option autoImplicit false

namespace CrateDdl

namespace Act

section
variable {σ τ α : Type} {part : τ → σ} {put : σ → τ → τ} {act : Act σ α} {s : σ} {t : τ}

theorem onPart_of_ok {a : α} (h : act (part t) = .ok a s) :
    onPart part put act t = .ok a (put s t) := by
  rw [onPart, h]

theorem onPart_of_error {fault : Fault} (h : act (part t) = .error fault s) :
    onPart part put act t = .error fault (put s t) := by
  rw [onPart, h]

end

theorem endState_bind {σ α β : Type} {x : Act σ α} {f : α → Act σ β}
    (hf : ∀ a s, endState (f a s) = s) (s : σ) : endState ((x >>= f) s) = endState (x s) := by
  cases hx : x s with
  | ok a s' =>
    rw [bind_of_ok hx, hf]
    rfl
  | error fault s' =>
    rw [bind_of_error hx]
    rfl

end Act

/-- Handlers may be called in a step of this kind. -/
def Step.callsHandlers : Step → Bool
  | dispatch .. => true
  | alterTable .. => true
  | _ => false

namespace Session

/-! ## Parts of steps -/

theorem endState_configure (environment : Option String) (level : Value) (s : Session) :
    Act.endState (configure environment level s) =
      { s with journal := s.journal.after (.configure environment level) } := by
  rw [configure, Journal.after]
  cases hr : Journal.configure environment level s.journal with
  | ok a journal => rw [Act.onPart_of_ok hr]; rfl
  | error fault journal => rw [Act.onPart_of_error hr]; rfl

/-- Setting up the journal as the environment says does not fail. -/
theorem configure_null (environment : Option String) (s : Session) :
    configure environment .null s =
      .ok () { s with journal := s.journal.after (.configure environment .null) } :=
  Act.onPart_of_ok (s.journal.configure_null_eq environment)

theorem newRegistry_run (s : Session) : newRegistry s =
    .ok s.registries.length { s with registries := s.registries ++ [Registry.empty] } := rfl

/-- The last part of making a builder. -/
def putBuilder (name : String) (capabilities : Capabilities) (registry : Nat) :
    Act Session Reply := do
  configure (← get).environment .null
  modify fun s => { s with builders := s.builders.put name ⟨⟨capabilities⟩, registry⟩ }
  return .done

theorem putBuilder_run (name : String) (capabilities : Capabilities) (registry : Nat)
    (s : Session) :
    putBuilder name capabilities registry s = .ok .done
      { s with
        journal := s.journal.after (.configure s.environment .null)
        builders := s.builders.put name ⟨⟨capabilities⟩, registry⟩ } := by
  show (configure s.environment .null >>= _) s = _
  rw [Act.bind_of_ok (configure_null s.environment s)]
  rfl

/-! ## One step -/

/-- The session with a clean page for lines and calls. -/
def clean (s : Session) : Session :=
  { s with calls := [], journal := { s.journal with entries := [] } }

/-- The session after a step. -/
def next (step : Step) (s : Session) : Session := (answer step s).2

/-- The session after steps. -/
def after (s : Session) (steps : List Step) : Session := steps.foldl (fun s step => next step s) s

/-- The outcome of a computation without its state. -/
def outcome {α : Type} : EStateM.Result Fault Session α → Except Fault α
  | .ok a _ => .ok a
  | .error fault _ => .error fault

theorem next_eq (step : Step) (s : Session) :
    next step s = Act.endState (perform maxDepth step s.clean) := by
  unfold next answer clean
  dsimp only
  split <;> rename_i h <;> rw [h] <;> rfl

theorem next_eq_performWith (step : Step) (s : Session) :
    next step s = Act.endState (performWith (perform (maxDepth - 1)) step s.clean) := by
  rw [next_eq]
  show Act.endState (perform (maxDepth - 1 + 1) step s.clean) = _
  exact Act.endState_bind (fun reply s => by cases reply.writable <;> rfl) s.clean

/-- An answer is read off the session that the step leaves. -/
theorem answer_eq (step : Step) (s : Session) :
    (answer step s).1 =
      ⟨outcome (perform maxDepth step s.clean), (next step s).journal.entries,
        (next step s).calls⟩ := by
  rw [next_eq]
  unfold answer clean
  dsimp only
  split <;> rename_i h <;> rw [h] <;> rfl

/-! ## Runs -/

theorem run_cons (s : Session) (step : Step) (rest : List Step) :
    run s (step :: rest) = (answer step s).1 :: run (next step s) rest := rfl

theorem run_append (s : Session) (rest : List Step) : ∀ steps : List Step,
    run s (steps ++ rest) = run s steps ++ run (after s steps) rest
  | [] => rfl
  | step :: steps => by
    rw [List.cons_append, run_cons, run_append (next step s) rest steps]
    rfl

theorem length_run (s : Session) : ∀ steps : List Step, (run s steps).length = steps.length
  | [] => rfl
  | step :: steps => by
    rw [run_cons, List.length_cons, List.length_cons, length_run (next step s) steps]

end Session

end CrateDdl
