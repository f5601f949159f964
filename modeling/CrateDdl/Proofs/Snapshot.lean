import CrateDdl.Hook
import CrateDdl.Proofs.Checked
import CrateDdl.Proofs.InTurn

/-!
# A dispatch runs a snapshot

A dispatch calls the handlers that the registry holds when it begins, whatever they do to the
registry meanwhile: the state is arbitrary, and so is what a call makes of it.

* `collect_cons_eq_ok`, `collect_cons_eq_error`: what one more handler in front changes.
* `collect_eq_ok`, `collect_eq_error`: a run over a list of handlers, by induction on the list. It
  returns if every handler answers with something that can be gone through, and what it returns is
  what the answers come to (`ComesTo`); it fails with the first fault, and calls no handler
  after it.
* `dispatch_runs_snapshot`: the same of a dispatch, for the list that is registered in the state it
  begins in.
-/

set_option autoImplicit false

namespace CrateDdl.Hook

/-! ## Answers -/

/-- The answer of a handler that leaves the event alone. -/
def leavesAlone : Value → Bool
  | .null => true
  | _ => false

/-- The statements of a handler that takes the event over: a text is one statement. -/
def contribution (answer : Value) : Except Fault (List Value) :=
  if answer.asText?.isSome then .ok [answer] else answer.items

/-- What answers come to: null if all handlers leave the event alone, and otherwise the statements
of those that take it over, in order. -/
def ComesTo (answers : List Value) (result : Option (List Value)) : Prop :=
  ∃ contributions, (answers.filter (!leavesAlone ·)).mapM contribution = .ok contributions ∧
    result = if answers.all leavesAlone then none else some contributions.flatten

theorem statements?_of_leavesAlone {answer : Value} (h : leavesAlone answer = true) :
    statements? answer = .ok none := by
  cases answer <;> first | rfl | cases h

theorem statements?_of_takesOver {answer : Value} (h : leavesAlone answer = false) :
    statements? answer = (contribution answer).map some := by
  cases answer <;> first | rfl | cases h

theorem comesTo_nil {result : Option (List Value)} : ComesTo [] result ↔ result = none := by
  refine ⟨fun h => ?_, fun h => ?_⟩
  · obtain ⟨_, -, h⟩ := h
    exact h
  · subst h
    exact ⟨[], rfl, rfl⟩

/-- Statements in front of what later answers come to. -/
theorem merge_comesTo {answers : List Value} {later : List (List Value)}
    (h : (answers.filter (!leavesAlone ·)).mapM contribution = .ok later) (first : List Value) :
    (some first).merge (· ++ ·) (if answers.all leavesAlone then none else some later.flatten) =
      some (first :: later).flatten := by
  split
  · rename_i ha
    have hf : answers.filter (!leavesAlone ·) = [] := by
      simpa [List.filter_eq_nil_iff] using ha
    rw [hf] at h
    cases h
    simp
  · simp

theorem comesTo_cons {answer : Value} {answers : List Value} {result : Option (List Value)} :
    ComesTo (answer :: answers) result ↔
      ∃ first later, statements? answer = .ok first ∧ ComesTo answers later ∧
        result = first.merge (· ++ ·) later := by
  cases ha : leavesAlone answer with
  | true =>
    rw [statements?_of_leavesAlone ha]
    simp [ComesTo, ha]
  | false =>
    rw [statements?_of_takesOver ha]
    have hf : (answer :: answers).filter (!leavesAlone ·) =
        answer :: answers.filter (!leavesAlone ·) := by
      simp [ha]
    refine ⟨fun h => ?_, fun h => ?_⟩
    · obtain ⟨contributions, hm, rfl⟩ := h
      rw [hf] at hm
      obtain ⟨first, later, hc, hl, rfl⟩ := Checked.mapM_cons_eq_ok.1 hm
      refine ⟨some first, _, by rw [hc]; rfl, ⟨later, hl, rfl⟩, ?_⟩
      rw [merge_comesTo hl]
      simp [ha]
    · obtain ⟨_, _, hs, ⟨later, hl, rfl⟩, rfl⟩ := h
      obtain ⟨first, hc, rfl⟩ := Checked.map_eq_ok.1 hs
      refine ⟨first :: later, by rw [hf]; exact Checked.mapM_cons_eq_ok.2 ⟨_, _, hc, hl, rfl⟩, ?_⟩
      rw [merge_comesTo hl]
      simp [ha]

/-- An answer that is at fault is one of a handler that takes the event over. -/
theorem statements?_eq_error {answer : Value} {fault : Fault} :
    statements? answer = .error fault ↔
      leavesAlone answer = false ∧ contribution answer = .error fault := by
  cases ha : leavesAlone answer with
  | true => simp [statements?_of_leavesAlone ha]
  | false =>
    rw [statements?_of_takesOver ha]
    cases contribution answer <;> simp [Except.map]

/-! ## Handlers in turn -/

section
variable {σ H : Type} {call : H → Act σ Value}

/-- Calling a handler fails: it raises a fault, or it answers with something other than null that
cannot be gone through. -/
def CallFails (call : H → Act σ Value) (handler : H) (s : σ) (fault : Fault) (s' : σ) : Prop :=
  call handler s = .error fault s' ∨
    ∃ answer, call handler s = .ok answer s' ∧ leavesAlone answer = false ∧
      contribution answer = .error fault

theorem collect_cons (handler : H) (rest : List H) :
    collect call (handler :: rest) =
      (call handler >>= fun answer => Act.ofExcept (statements? answer) >>= fun first =>
        collect call rest >>= fun later => pure (first.merge (· ++ ·) later)) := rfl

/-- One handler more in front: it has answered with what can be gone through, and the others
return. -/
theorem collect_cons_eq_ok {handler : H} {rest : List H} {result : Option (List Value)}
    {s s' : σ} :
    collect call (handler :: rest) s = .ok result s' ↔
      ∃ answer s₁ first later, call handler s = .ok answer s₁ ∧ statements? answer = .ok first ∧
        collect call rest s₁ = .ok later s' ∧ result = first.merge (· ++ ·) later := by
  simp only [collect_cons, Act.bind_eq_ok, Act.ofExcept_eq_ok]
  refine ⟨fun h => ?_, fun h => ?_⟩
  · obtain ⟨answer, s₁, hcall, first, _, ⟨hfirst, rfl⟩, later, _, hlater, hpure⟩ := h
    cases hpure
    exact ⟨answer, s₁, first, later, hcall, hfirst, hlater, rfl⟩
  · obtain ⟨answer, s₁, first, later, hcall, hfirst, hlater, rfl⟩ := h
    exact ⟨answer, s₁, hcall, first, s₁, ⟨hfirst, rfl⟩, later, s', hlater, rfl⟩

/-- One handler more in front: its call fails, or it does not and the others fail. -/
theorem collect_cons_eq_error {handler : H} {rest : List H} {fault : Fault} {s s' : σ} :
    collect call (handler :: rest) s = .error fault s' ↔
      CallFails call handler s fault s' ∨
      ∃ answer s₁ first, call handler s = .ok answer s₁ ∧ statements? answer = .ok first ∧
        collect call rest s₁ = .error fault s' := by
  simp only [collect_cons, Act.bind_eq_error, Act.ofExcept_eq_error, Act.ofExcept_eq_ok,
    statements?_eq_error]
  refine ⟨fun h => ?_, fun h => ?_⟩
  · rcases h with hcall | ⟨answer, s₁, hcall, ⟨hfails, rfl⟩ | ⟨first, _, ⟨hfirst, rfl⟩, hrest⟩⟩
    · exact .inl (.inl hcall)
    · exact .inl (.inr ⟨answer, hcall, hfails⟩)
    · rcases hrest with hrest | ⟨_, _, -, hpure⟩
      · exact .inr ⟨answer, s₁, first, hcall, hfirst, hrest⟩
      · cases hpure
  · rcases h with (hcall | ⟨answer, hcall, hfails⟩) | ⟨answer, s₁, first, hcall, hfirst, hrest⟩
    · exact .inl hcall
    · exact .inr ⟨answer, s', hcall, .inl ⟨hfails, rfl⟩⟩
    · exact .inr ⟨answer, s₁, hcall, .inr ⟨first, s₁, ⟨hfirst, rfl⟩, .inl hrest⟩⟩

/-- A list of handlers returns if all of them have been called and have answered with what can be
gone through. -/
theorem collect_eq_ok : ∀ {handlers : List H} {result : Option (List Value)} {s s' : σ},
    collect call handlers s = .ok result s' ↔
      ∃ answers, Act.InTurn call handlers s answers s' ∧ ComesTo answers result
  | [], result, s, s' => by
    refine ⟨fun h => ?_, fun h => ?_⟩
    · cases h
      exact ⟨[], .nil s, comesTo_nil.2 rfl⟩
    · obtain ⟨answers, hturn, hcomes⟩ := h
      obtain ⟨rfl, rfl⟩ := Act.InTurn.nil_iff.1 hturn
      rw [comesTo_nil.1 hcomes]
      rfl
  | handler :: rest, result, s, s' => by
    rw [collect_cons_eq_ok]
    refine ⟨fun h => ?_, fun h => ?_⟩
    · obtain ⟨answer, s₁, first, later, hcall, hfirst, hlater, rfl⟩ := h
      obtain ⟨answers, hturn, hcomes⟩ := collect_eq_ok.1 hlater
      exact ⟨answer :: answers, .cons hcall hturn,
        comesTo_cons.2 ⟨first, later, hfirst, hcomes, rfl⟩⟩
    · obtain ⟨_, hall, hcomes⟩ := h
      obtain ⟨answer, answers, s₁, hcall, hturn, rfl⟩ := Act.InTurn.cons_iff.1 hall
      obtain ⟨first, later, hfirst, hlater, rfl⟩ := comesTo_cons.1 hcomes
      have hrest : collect call rest s₁ = .ok later s' := collect_eq_ok.2 ⟨answers, hturn, hlater⟩
      exact ⟨answer, s₁, first, later, hcall, hfirst, hrest, rfl⟩

/-- A list of handlers fails if the call of one of them does, after all calls before it have been
answered with what can be gone through. Those behind it are not called. -/
theorem collect_eq_error : ∀ {handlers : List H} {fault : Fault} {s s' : σ},
    collect call handlers s = .error fault s' ↔
      ∃ called handler rest answers result s₁, handlers = called ++ handler :: rest ∧
        Act.InTurn call called s answers s₁ ∧ ComesTo answers result ∧
        CallFails call handler s₁ fault s'
  | [], fault, s, s' => by simp [collect]
  | handler :: rest, fault, s, s' => by
    rw [collect_cons_eq_error]
    refine ⟨fun h => ?_, fun h => ?_⟩
    · rcases h with hfails | ⟨answer, s₁, first, hcall, hfirst, hrest⟩
      · exact ⟨[], handler, rest, [], none, s, rfl, .nil s, comesTo_nil.2 rfl, hfails⟩
      · obtain ⟨called, failing, behind, answers, result, s₂, rfl, hturn, hcomes, hfails⟩ :=
          collect_eq_error.1 hrest
        exact ⟨handler :: called, failing, behind, answer :: answers, _, s₂, rfl,
          .cons hcall hturn, comesTo_cons.2 ⟨first, result, hfirst, hcomes, rfl⟩, hfails⟩
    · obtain ⟨called, failing, behind, _, result, s₁, heq, hall, hcomes, hfails⟩ := h
      cases called with
      | nil =>
        obtain ⟨rfl, rfl⟩ := List.cons.inj heq
        obtain ⟨rfl, rfl⟩ := Act.InTurn.nil_iff.1 hall
        exact .inl hfails
      | cons c called =>
        obtain ⟨rfl, rfl⟩ := List.cons.inj heq
        obtain ⟨answer, answers, s₂, hcall, hturn, rfl⟩ := Act.InTurn.cons_iff.1 hall
        obtain ⟨first, later, hfirst, hlater, rfl⟩ := comesTo_cons.1 hcomes
        have hrest : collect call (called ++ failing :: behind) s₂ = .error fault s' :=
          collect_eq_error.2
            ⟨called, failing, behind, answers, later, s₁, rfl, hturn, hlater, hfails⟩
        exact .inr ⟨answer, s₂, first, hcall, hfirst, hrest⟩

end

/-- **A dispatch runs a snapshot.** It returns if the handlers that are registered for the event
when it begins have been called in turn, and what their answers come to is what it returns; it
fails with the fault of the first of them whose call fails. It is the dispatch of a registry that
does not change, however handlers change the one in the state. -/
theorem dispatch_runs_snapshot {σ C H : Type} (registry : σ → Registry H)
    (call : C → H → Act σ Value) (event : EventRef) (ctx : C) (s : σ) :
    (∀ result s', dispatch registry call event ctx s = .ok result s' ↔
      ∃ answers, Act.InTurn (call ctx) ((registry s).handlers event) s answers s' ∧
        ComesTo answers result) ∧
    (∀ fault s', dispatch registry call event ctx s = .error fault s' ↔
      ∃ called handler rest answers result s₁,
        (registry s).handlers event = called ++ handler :: rest ∧
        Act.InTurn (call ctx) called s answers s₁ ∧ ComesTo answers result ∧
        CallFails (call ctx) handler s₁ fault s') ∧
    dispatch registry call event ctx s = dispatch (fun _ => registry s) call event ctx s :=
  ⟨fun _ _ => collect_eq_ok, fun _ _ => collect_eq_error, rfl⟩

/-- A handler that registers itself is called once, and twice from the next dispatch on. -/
example :
    let call (_ : Unit) (_ : Unit) : Act (Registry Unit) Value := do
      modify (·.register (.name "e") ())
      return .text "s"
    dispatch id call (.name "e") () (Registry.empty.register (.name "e") ()) =
      .ok (some [.text "s"]) ⟨[("e", [(), ()])]⟩ := rfl

end CrateDdl.Hook
