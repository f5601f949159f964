import CrateDdl.Act

/-!
# Requests in turn

`Act.InTurn ask requests s answers s'`: from `s` on, the requests are put one after the other, each
in the state that the one before it has left; they are all answered, and the last one leaves `s'`.
The state is the whole of what a request can see and change, so a chain from `s` to `s'` says which
requests were put on the way, in which order, and that there were no others.
-/

set_option autoImplicit false

namespace CrateDdl.Act

inductive InTurn {σ α β : Type} (ask : α → Act σ β) : List α → σ → List β → σ → Prop
  | nil (s : σ) : InTurn ask [] s [] s
  | cons {request : α} {requests : List α} {answer : β} {answers : List β} {s s₁ s' : σ} :
      ask request s = .ok answer s₁ → InTurn ask requests s₁ answers s' →
      InTurn ask (request :: requests) s (answer :: answers) s'

namespace InTurn

variable {σ α β : Type} {ask : α → Act σ β}

theorem nil_iff {answers : List β} {s s' : σ} :
    InTurn ask [] s answers s' ↔ answers = [] ∧ s = s' := by
  refine ⟨fun h => ?_, fun h => ?_⟩
  · cases h
    exact ⟨rfl, rfl⟩
  · obtain ⟨rfl, rfl⟩ := h
    exact .nil s

theorem cons_iff {request : α} {requests : List α} {answers : List β} {s s' : σ} :
    InTurn ask (request :: requests) s answers s' ↔
      ∃ answer rest s₁, ask request s = .ok answer s₁ ∧ InTurn ask requests s₁ rest s' ∧
        answers = answer :: rest := by
  refine ⟨fun h => ?_, fun h => ?_⟩
  · cases h with
    | cons ha hrest => exact ⟨_, _, _, ha, hrest, rfl⟩
  · obtain ⟨_, _, _, ha, h, rfl⟩ := h
    exact .cons ha h

theorem append_iff {bs : List α} {s' : σ} : ∀ {as : List α} {answers : List β} {s : σ},
    InTurn ask (as ++ bs) s answers s' ↔
      ∃ xs ys s₁, InTurn ask as s xs s₁ ∧ InTurn ask bs s₁ ys s' ∧ answers = xs ++ ys
  | [], answers, s => by
    refine ⟨fun h => ?_, fun h => ?_⟩
    · exact ⟨[], answers, s, .nil s, h, rfl⟩
    · obtain ⟨xs, ys, s₁, hx, hy, rfl⟩ := h
      obtain ⟨rfl, rfl⟩ := nil_iff.1 hx
      exact hy
  | a :: as, answers, s => by
    rw [List.cons_append, cons_iff]
    refine ⟨fun h => ?_, fun h => ?_⟩
    · obtain ⟨answer, _, s₁, ha, h, rfl⟩ := h
      obtain ⟨xs, ys, s₂, hx, hy, rfl⟩ := append_iff.1 h
      exact ⟨answer :: xs, ys, s₂, .cons ha hx, hy, rfl⟩
    · obtain ⟨_, ys, s₂, hc, hy, rfl⟩ := h
      obtain ⟨answer, xs, s₁, ha, hx, rfl⟩ := cons_iff.1 hc
      exact ⟨answer, xs ++ ys, s₁, ha, append_iff.2 ⟨xs, ys, s₂, hx, hy, rfl⟩, rfl⟩

theorem length {requests : List α} {answers : List β} {s s' : σ}
    (h : InTurn ask requests s answers s') : answers.length = requests.length := by
  induction h with
  | nil => rfl
  | cons _ _ ih => simp [ih]

/-- The state decides how requests are answered and what they leave. -/
theorem unique {requests : List α} {answers others : List β} {s s' s'' : σ}
    (h : InTurn ask requests s answers s') (ho : InTurn ask requests s others s'') :
    answers = others ∧ s' = s'' := by
  induction h generalizing others s'' with
  | nil s =>
    obtain ⟨rfl, rfl⟩ := nil_iff.1 ho
    exact ⟨rfl, rfl⟩
  | cons ha _ ih =>
    obtain ⟨_, rest, _, ha', hrest, rfl⟩ := cons_iff.1 ho
    cases ha.symm.trans ha'
    obtain ⟨rfl, rfl⟩ := ih hrest
    exact ⟨rfl, rfl⟩

/-- Requests that stand for others are put in the place of those. -/
theorem map_iff {γ : Type} (f : γ → α) : ∀ {as : List γ} {answers : List β} {s s' : σ},
    InTurn ask (as.map f) s answers s' ↔ InTurn (fun a => ask (f a)) as s answers s'
  | [], answers, s, s' => by rw [List.map_nil, nil_iff, nil_iff]
  | a :: as, answers, s, s' => by simp only [List.map_cons, cons_iff, map_iff f]

end InTurn

end CrateDdl.Act
