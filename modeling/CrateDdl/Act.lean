import CrateDdl.Fault

/-!
# Computations that may fail

A computation on a state that may end in a fault. A fault does not undo what was changed before
it, so a failing call leaves its traces, such as the lines it has written.
-/

set_option autoImplicit false

namespace CrateDdl

abbrev Act (σ α : Type) := EStateM Fault σ α

namespace Act

variable {σ τ α : Type}

/-- A computation that does not touch the state. -/
def ofExcept : Except Fault α → Act σ α
  | .ok a => pure a
  | .error fault => throw fault

/-- A computation on a part of the state. -/
def onPart (get : τ → σ) (set : σ → τ → τ) (act : Act σ α) : Act τ α := fun t =>
  match act (get t) with
  | .ok a s => .ok a (set s t)
  | .error fault s => .error fault (set s t)

/-- The state in which a run ends, whether it fails or not. -/
def endState : EStateM.Result Fault σ α → σ
  | .ok _ s => s
  | .error _ s => s

@[simp] theorem ofExcept_ok (a : α) : (ofExcept (.ok a) : Act σ α) = pure a := rfl

@[simp] theorem ofExcept_error (fault : Fault) :
    (ofExcept (.error fault) : Act σ α) = throw fault := rfl

/-! ## Runs -/

section
variable {β : Type} {act : Act σ α} {next : α → Act σ β} {s s₁ s' : σ} {a : α} {b : β}
  {fault : Fault}

@[simp] theorem pure_run (a : α) (s : σ) : (pure a : Act σ α) s = .ok a s := rfl

@[simp] theorem throw_run (fault : Fault) (s : σ) :
    (throw fault : Act σ α) s = .error fault s := rfl

@[simp] theorem get_run (s : σ) : (get : Act σ σ) s = .ok s s := rfl

@[simp] theorem modify_run (f : σ → σ) (s : σ) : (modify f : Act σ Unit) s = .ok () (f s) := rfl

theorem bind_of_ok (h : act s = .ok a s₁) : (act >>= next) s = next a s₁ := by
  simp only [bind, EStateM.bind, h]

theorem bind_of_error (h : act s = .error fault s₁) : (act >>= next) s = .error fault s₁ := by
  simp only [bind, EStateM.bind, h]

/-- A chain returns if its first part does, and the rest does from where that has ended. -/
theorem bind_eq_ok :
    (act >>= next) s = .ok b s' ↔ ∃ a s₁, act s = .ok a s₁ ∧ next a s₁ = .ok b s' := by
  cases h : act s with
  | ok a s₁ =>
    rw [bind_of_ok h]
    refine ⟨fun hn => ⟨a, s₁, rfl, hn⟩, fun ⟨_, _, he, hn⟩ => ?_⟩
    cases he
    exact hn
  | error fault s₁ => simp [bind_of_error h]

theorem bind_eq_error :
    (act >>= next) s = .error fault s' ↔
      act s = .error fault s' ∨ ∃ a s₁, act s = .ok a s₁ ∧ next a s₁ = .error fault s' := by
  cases h : act s with
  | ok a s₁ =>
    rw [bind_of_ok h]
    refine ⟨fun hn => .inr ⟨a, s₁, rfl, hn⟩, ?_⟩
    rintro (he | ⟨_, _, he, hn⟩) <;> cases he
    exact hn
  | error fault s₁ => simp [bind_of_error h]

theorem ofExcept_eq_ok {x : Except Fault α} :
    (ofExcept x : Act σ α) s = .ok a s' ↔ x = .ok a ∧ s = s' := by
  cases x <;> simp

theorem ofExcept_eq_error {x : Except Fault α} :
    (ofExcept x : Act σ α) s = .error fault s' ↔ x = .error fault ∧ s = s' := by
  cases x <;> simp

end

end Act

end CrateDdl
