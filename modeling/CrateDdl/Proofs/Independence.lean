import CrateDdl.Proofs.Refusal
import CrateDdl.Proofs.Renaming

/-!
# Requests that leave no trace

Creating a table, or altering one without a handler being asked, touches nothing but the journal
(`noted_of_standalone`), and there nothing but the lines and the current id. A session goes on after
such a request as it would have without it (`run_insert_standalone`).
-/

set_option autoImplicit false

namespace CrateDdl

/-- A journal that has been written to: at most, an id has been generated where there was none. -/
structure Journal.Continues (j k : Journal) : Prop where
  handlers : k.handlers = j.handlers
  level : k.level = j.level
  current : k.current = j.current ∧ k.generated = j.generated ∨
    j.current = none ∧ k.current = some (.generated k.generated) ∧ j.generated < k.generated

namespace Journal

theorem Continues.refl (j : Journal) : Continues j j := ⟨rfl, rfl, .inl ⟨rfl, rfl⟩⟩

theorem Continues.write {j k : Journal} (h : Continues j k) (level : Int)
    (logger message : String) : Continues j (k.write level logger message) := by
  unfold Journal.write
  split
  · cases hk : k.current with
    | some id =>
      simp only [readId, hk]
      exact { h with current := hk ▸ h.current }
    | none =>
      simp only [readId, hk]
      refine ⟨h.handlers, h.level, .inr ?_⟩
      rcases h.current with ⟨hj, hg⟩ | ⟨-, hj, -⟩
      · exact ⟨hj ▸ hk, rfl, by show j.generated < k.generated + 1; omega⟩
      · rw [hk] at hj
        cases hj
  · exact h

end Journal

namespace Session

open Act Platform

/-- A session in which nothing but notes has been taken. -/
def Noted (s s' : Session) : Prop :=
  ∃ journal, s' = { s with journal } ∧ s.journal.Continues journal

theorem Noted.refl (s : Session) : Noted s s := ⟨s.journal, rfl, .refl s.journal⟩

theorem Noted.write {s s' : Session} (h : Noted s s') (level : Int) (logger message : String) :
    Noted s { s' with journal := s'.journal.write level logger message } := by
  obtain ⟨journal, rfl, hj⟩ := h
  exact ⟨_, rfl, hj.write level logger message⟩

/-- Nothing but notes is taken on the way. -/
def OnlyNotes {α : Type} (x : Act Session α) : Prop :=
  ∀ s₀, Act.Alike (fun (_ : OneWorld) s t => s = t ∧ Noted s₀ s) Same x x

theorem OnlyNotes.noted {α : Type} {x : Act Session α} (h : OnlyNotes x) (s : Session) :
    Noted s (endState (x s)) :=
  Holds.endState (h s) (.refl s)

theorem note_onlyNotes (logger : String) (level : Int) (message : String) :
    OnlyNotes (note logger level message) :=
  fun _ => .modify fun _ _ _ h => h.1 ▸ ⟨rfl, h.2.write level logger message⟩

theorem builder_onlyNotes (name : String) : OnlyNotes (builder name) :=
  fun _ => builder_holds name

theorem createTable_onlyNotes (p : Platform) (table : String) (columns : List Column)
    (options : TableOptions) :
    OnlyNotes (p.createTable (note builderLogger) table columns options) :=
  fun s₀ => createTable_alike (fun level message => note_onlyNotes builderLogger level message s₀)
    p table columns options

theorem reject_onlyNotes {α : Type} (table operation : String) :
    OnlyNotes (Note.reject (note builderLogger) table operation : Act Session α) :=
  fun s₀ => Note.reject_alike (fun level message => note_onlyNotes builderLogger level message s₀)
    table operation

theorem warned_noted (table : String) (columns : List Column) (s : Session) :
    Noted s (s.warned table columns) := by
  have hwarn : OnlyNotes (Note.warnReserved (note builderLogger) table columns) :=
    fun s₀ => Note.warnReserved_alike
      (fun level message => note_onlyNotes builderLogger level message s₀) table columns
  exact hwarn.noted s

theorem Noted.conclude {α : Type} {s s' : Session} (h : Noted s s') (rendered : Except Fault α)
    (message : α → String) : Noted s (endState (conclude rendered message s')) := by
  cases rendered with
  | ok a => exact h.write Level.debug builderLogger (message a)
  | error fault => exact h

/-- Without handlers, an alteration comes to what takes nothing but notes. -/
theorem alterTable_noted (perform : Step → Act Session Reply) {b : Builder} {s : Session}
    (h : Unhooked b s) (diff : TableDiff) :
    Noted s (endState (b.platform.alterTable (host perform b) diff s)) := by
  cases hu : unsupportedChange? diff with
  | some operation =>
    rw [alterTable_of_unsupported hu]
    exact (reject_onlyNotes diff.name operation).noted s
  | none =>
    rw [alterTable_eq perform h hu]
    exact (warned_noted diff.name diff.added s).conclude _ _

/-! ## Standalone requests -/

/-- A request that asks no handler, whatever comes of it: a table is to be created, or it is to be
altered in a way that is refused, or altered without a handler for that. -/
inductive Standalone (s : Session) : Step → Prop
  | createTable (name table : String) (columns : List Column) (options : TableOptions) :
      Standalone s (.createTable name table columns options)
  | refused (name : String) (diff : TableDiff) :
      diff.removed ≠ [] ∨ diff.changed ≠ [] ∨ diff.renamed ≠ [] ∨ diff.newName ≠ none →
      Standalone s (.alterTable name diff)
  | unhooked (name : String) (diff : TableDiff) (b : Builder) :
      s.builders.get? name = some b → Unhooked b s → Standalone s (.alterTable name diff)

theorem performWith_noted (perform : Step → Act Session Reply) {s : Session} {step : Step}
    (h : Standalone s step) : Noted s (endState (performWith perform step s)) := by
  cases h with
  | createTable name table columns options =>
    have hnotes : OnlyNotes (performWith perform (.createTable name table columns options)) :=
      fun s₀ => (builder_onlyNotes name s₀).bind fun b =>
        (createTable_onlyNotes b.platform table columns options s₀).bind fun _ => .pure _
    exact hnotes.noted s
  | refused name diff hchange =>
    have hnotes : OnlyNotes (performWith perform (.alterTable name diff)) :=
      fun s₀ => (builder_onlyNotes name s₀).bind fun b => by
        rw [alterTable_of_unsupported (unsupportedChange?_eq_some hchange)]
        exact (reject_onlyNotes diff.name _ s₀).bind fun _ => .pure _
    exact hnotes.noted s
  | unhooked name diff b hb hu =>
    have hrun : performWith perform (.alterTable name diff) s =
        (b.platform.alterTable (host perform b) diff >>= fun statements =>
          pure (.statements (some statements))) s := bind_of_ok (builder_of_some hb)
    rw [hrun, endState_bind fun _ _ => rfl]
    exact alterTable_noted perform hu diff

theorem next_noted {s : Session} {step : Step} (h : Standalone s step) :
    Noted s.clean (next step s) := by
  have hclean : Standalone s.clean step := by
    cases h with
    | createTable name table columns options => exact .createTable name table columns options
    | refused name diff hchange => exact .refused name diff hchange
    | unhooked name diff b hb hu => exact .unhooked name diff b hb hu
  rw [next_eq_performWith]
  exact performWith_noted _ hclean

/-! ## Going on -/

/-- A journal that has been written to is like the one before, apart from the lines. -/
theorem journal_alike_of_continues {w : Pairing} {j k : Journal} (hj : Journal.Alike w j j)
    (h : j.Continues k) : Journal.Alike w { j with entries := [] } { k with entries := [] } where
  handlers := h.handlers.symm
  level := h.level.symm
  entries := .nil
  unique := hj.unique
  bounded m n hmn := by
    obtain ⟨hm, hn⟩ := hj.bounded m n hmn
    refine ⟨hm, ?_⟩
    show n ≤ k.generated
    rcases h.current with ⟨-, hg⟩ | ⟨-, -, hg⟩ <;> omega
  current := by
    rcases h.current with ⟨hcurrent, -⟩ | ⟨hnone, hsome, hg⟩
    · rcases hj.current with hrel | ⟨hnone, n, hsome, -⟩
      · exact .inl (hcurrent ▸ hrel)
      · rw [hnone] at hsome
        cases hsome
    · -- The id has been generated for the notes, so it is free for the one that the session
      -- without them generates next.
      refine .inr ⟨hnone, k.generated, hsome, Nat.le_refl _, fun m hm => ?_⟩
      have := (hj.bounded m k.generated hm).2
      omega

/-- After notes, a session is like before, whatever id has been generated for them. -/
theorem Noted.alike {w : Pairing} {s s' : Session} (h : Noted s.clean s')
    (hs : Alike w s.clean s.clean) : Alike w s.clean s'.clean := by
  obtain ⟨journal, rfl, hj⟩ := h
  exact { hs with journal := journal_alike_of_continues (j := s.clean.journal) hs.journal hj }

theorem initial_alike (environment : Option String) :
    Alike (fun _ _ => False) ({ environment } : Session).clean
      ({ environment } : Session).clean where
  environment := rfl
  journal :=
    { handlers := rfl, level := rfl, entries := .nil
      unique := ⟨fun _ _ _ h => h.elim, fun _ _ _ h => h.elim⟩
      bounded := fun _ _ h => h.elim
      current := .inl .none }
  registries := rfl
  dispatchers := rfl
  builders := rfl
  callCounts := rfl
  calls := .nil

/-- **Requests are independent.** A standalone request that is put in between two steps of a session
calls no handler and changes no other answer: neither its result or fault nor its lines or its calls
of handlers, up to a renaming of the ids that have been generated. -/
theorem run_insert_standalone (environment : Option String) (before rest : List Step) (step : Step)
    (h : Standalone (after { environment } before) step) :
    let s : Session := { environment }
    (∃ answer, (run s (before ++ step :: rest))[before.length]? = some answer ∧ answer.calls = []) ∧
    ∃ paired : Nat → Nat → Prop, Relator.BiUnique paired ∧
      List.Forall₂ (Answer.Alike paired) (run s (before ++ rest))
        ((run s (before ++ step :: rest)).eraseIdx before.length) := by
  intro s
  obtain ⟨w₁, -, hbefore, hafter⟩ := run_alike before (initial_alike environment)
  have hnoted : Noted (after s before).clean (next step (after s before)) := next_noted h
  obtain ⟨w₂, hw₂, hrest, hend⟩ := run_alike rest (hnoted.alike hafter)
  have hlength : (run s before).length = before.length := length_run s before
  rw [run_append, run_append, run_cons]
  refine ⟨⟨(answer step (after s before)).1, ?_, ?_⟩, w₂, hend.journal.unique, ?_⟩
  · rw [← hlength]
    simp
  · rw [answer_eq]
    obtain ⟨journal, hnext, -⟩ := hnoted
    rw [hnext]
    rfl
  · rw [← hlength, List.eraseIdx_append_of_length_le (Nat.le_refl _), Nat.sub_self]
    exact List.rel_append (hbefore.imp fun _ _ => Answer.Alike.mono hw₂) hrest

/-- An alteration that warns, and generates an id for that, in front of a step that generates
another. -/
theorem run_insert_alteration :
    let before : List Step :=
      [.newBuilder "b" none .crate, .register (.name "onOther") { id := "h" } (.builder "b")]
    let step : Step :=
      .alterTable "b" { name := "t", added := [{ name := "order", type := .standard .integer }] }
    let rest : List Step := [.setCorrelationId .null, .getCorrelationId]
    Standalone (after {} before) step ∧
    ∃ paired : Nat → Nat → Prop, Relator.BiUnique paired ∧
      List.Forall₂ (Answer.Alike paired) (run {} (before ++ rest))
        ((run {} (before ++ step :: rest)).eraseIdx before.length) := by
  intro before step rest
  have h : Standalone (after {} before) step :=
    .unhooked "b" _ ⟨⟨.crate⟩, 0⟩ rfl ⟨rfl, rfl⟩
  exact ⟨h, (run_insert_standalone none before rest step h).2⟩

end Session

end CrateDdl
