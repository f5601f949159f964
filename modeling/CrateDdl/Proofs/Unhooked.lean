import CrateDdl.Proofs.Assembly
import CrateDdl.Session.Run

/-!
# Builders without handlers

Where no handler is registered for the events of an alteration, dispatching them changes nothing,
and a builder's requests touch nothing but the journal.

* `Platform.alterTable_of_silent`: an alteration whose events come to nothing is the declaration
  of all its columns, with a line behind it.
* `Session.createTable_eq`, `Session.alterTable_eq`: the two requests of a builder are warnings, a
  rendering that touches no state, and a line behind it if the rendering returns.
-/

set_option autoImplicit false

namespace CrateDdl

variable {σ : Type}

theorem Hook.dispatch_of_no_handlers {C H : Type} {registry : σ → Registry H} {event : EventRef}
    {s : σ} (h : (registry s).hasHandlers event = false) (call : C → H → Act σ Value) (ctx : C) :
    Hook.dispatch registry call event ctx s = .ok none s := by
  have hnil : (registry s).handlers event = [] := by simpa [Registry.hasHandlers] using h
  show Hook.collect (call ctx) ((registry s).handlers event) s = _
  rw [hnil]
  rfl

namespace Platform

variable {p : Platform} {host : Host σ} {diff : TableDiff} {s s₁ : σ}

/-- Nothing comes after a refusal. -/
theorem reject_bind {α β : Type} (note : Note σ) (table operation : String) (f : α → Act σ β) :
    (note.reject table operation >>= f) = note.reject table operation := by
  unfold Note.reject
  rw [bind_assoc]
  exact bind_congr fun _ => rfl

theorem createTable_of_foreignKeys {note : Note σ} {p : Platform} {table : String}
    {columns : List Column} {options : TableOptions} (h : options.foreignKeys ≠ .null) :
    p.createTable note table columns options = note.reject table "Create Table: foreign keys" := by
  unfold createTable
  split
  · rename_i hnull
    exact absurd hnull h
  · exact reject_bind note table _ _

theorem foreignKeys_of_createTable {note : Note σ} {p : Platform} {table : String}
    {columns : List Column} {options : TableOptions} {statement : String} {s s' : σ}
    (h : p.createTable note table columns options s = .ok statement s') :
    options.foreignKeys = .null := by
  by_cases hf : options.foreignKeys = .null
  · exact hf
  · rw [createTable_of_foreignKeys hf] at h
    exact absurd h (note.reject_ne_ok _ _)

theorem addColumn_of_silent {c : Column}
    (h : host.dispatch .addColumn ⟨p, some diff, some c⟩ s = .ok none s) (draft : Draft) :
    p.addColumn host diff draft c s = Act.ofExcept (p.addByDefault diff.name draft c) s := by
  unfold addColumn
  rw [Act.bind_of_ok h]

/-- Columns that hooks leave alone, in a state that stays as it is. -/
theorem addColumns_of_silent
    (h : ∀ c, host.dispatch .addColumn ⟨p, some diff, some c⟩ s = .ok none s) :
    ∀ (columns : List Column) (draft : Draft),
      p.addColumns host diff draft columns s =
        Act.ofExcept ((columns.mapM p.declaration).map fun declarations =>
          draft.extend diff.name columns declarations []) s
  | [], draft => by simp [addColumns, Except.map, pure, Except.pure]
  | c :: rest, draft => by
    unfold addColumns
    rw [List.mapM_cons]
    cases hd : p.declaration c with
    | error fault =>
      have hc : p.addColumn host diff draft c s = .error fault s := by
        rw [addColumn_of_silent (h c), addByDefault, hd]
        rfl
      rw [Act.bind_of_error hc]
      rfl
    | ok declaration =>
      have hc : p.addColumn host diff draft c s =
          .ok (draft.extend diff.name [c] [declaration] []) s := by
        rw [addColumn_of_silent (h c), addByDefault_eq_ok.2 ⟨declaration, hd, rfl⟩]
        rfl
      rw [Act.bind_of_ok hc, addColumns_of_silent h rest]
      cases hds : rest.mapM p.declaration with
      | error fault => rfl
      | ok declarations =>
        simp [bind, Except.bind, pure, Except.pure, Except.map, Draft.extend_extend]

/-- The statements of an alteration whose columns have these declarations, and which no hook has
taken part in. -/
def plainStatements (table : String) (columns : List Column) (declarations : List String) :
    List Value :=
  declarations.map (fun declaration => .text ("ALTER TABLE " ++ table ++ " ADD " ++ declaration)) ++
    columns.filterMap fun c =>
      c.comment?.map fun comment => .text (commentOnColumn table c.name comment)

theorem alterTable_of_silent (hu : unsupportedChange? diff = none)
    (hw : host.note.warnReserved diff.name diff.added s = .ok () s₁)
    (hc : ∀ c, host.dispatch .addColumn ⟨p, some diff, some c⟩ s₁ = .ok none s₁)
    (ht : host.dispatch .alterTable ⟨p, some diff, none⟩ s₁ = .ok none s₁) :
    p.alterTable host diff s =
      (Act.ofExcept ((diff.added.mapM p.declaration).map (plainStatements diff.name diff.added)) >>=
        fun statements => host.note Level.debug ("Generated " ++ toString statements.length ++
          " statement(s) for ALTER TABLE " ++ diff.name) >>= fun _ => pure statements) s₁ := by
  unfold alterTable
  rw [hu]
  refine (Act.bind_of_ok hw).trans ?_
  cases hd : diff.added.mapM p.declaration with
  | error fault =>
    have hcolumns : p.addColumns host diff {} diff.added s₁ = .error fault s₁ := by
      rw [addColumns_of_silent hc, hd]
      rfl
    rw [Act.bind_of_error hcolumns]
    rfl
  | ok declarations =>
    have hcolumns : p.addColumns host diff {} diff.added s₁ =
        .ok (Draft.extend {} diff.name diff.added declarations []) s₁ := by
      rw [addColumns_of_silent hc, hd]
      rfl
    rw [Act.bind_of_ok hcolumns, Act.bind_of_ok ht]
    simp only [statements_extend, Option.getD_none, List.append_nil]
    rfl

end Platform

namespace Session

/-- No handler is registered with a builder for the events of an alteration. -/
def Unhooked (b : Builder) (s : Session) : Prop :=
  (registryAt b.registry s).hasHandlers (.event .addColumn) = false ∧
    (registryAt b.registry s).hasHandlers (.event .alterTable) = false

/-! ## Lines of builders -/

/-- The session with the warnings of a builder about columns. -/
def warned (table : String) (columns : List Column) (s : Session) : Session :=
  Act.endState (Note.warnReserved (note builderLogger) table columns s)

/-- What a builder's request comes to: a fault, or a result with a line about it. -/
def conclude {α : Type} (rendered : Except Fault α) (message : α → String) (s : Session) :
    EStateM.Result Fault Session α :=
  match rendered with
  | .ok a => .ok a { s with journal := s.journal.write Level.debug builderLogger (message a) }
  | .error fault => .error fault s

/-- Warnings are always written, and change the journal only. -/
theorem warnReserved_note (table : String) : ∀ (columns : List Column) (s : Session),
    ∃ journal, Note.warnReserved (note builderLogger) table columns s = .ok () { s with journal }
  | [], s => ⟨s.journal, rfl⟩
  | c :: rest, s => by
    unfold Note.warnReserved
    by_cases hc : (!c.quoted && Platform.isReservedKeyword c.name) = true
    · simp only [hc, ↓reduceIte]
      exact warnReserved_note table rest _
    · simp only [hc, Bool.false_eq_true, ↓reduceIte]
      exact warnReserved_note table rest s

theorem warnReserved_run (table : String) (columns : List Column) (s : Session) :
    Note.warnReserved (note builderLogger) table columns s = .ok () (s.warned table columns) := by
  obtain ⟨_, h⟩ := warnReserved_note table columns s
  rw [warned, h]
  rfl

theorem Unhooked.warned {b : Builder} {s : Session} (h : Unhooked b s) (table : String)
    (columns : List Column) : Unhooked b (s.warned table columns) := by
  obtain ⟨_, hw⟩ := warnReserved_note table columns s
  rw [Session.warned, hw]
  exact h

theorem conclude_eq {α : Type} (rendered : Except Fault α) (message : α → String) (s : Session) :
    (Act.ofExcept rendered >>= fun a =>
      note builderLogger Level.debug (message a) >>= fun _ => pure a) s =
      conclude rendered message s := by
  cases rendered <;> rfl

theorem conclude_eq_ok {α : Type} {rendered : Except Fault α} {message : α → String}
    {s : Session} {a : α} : (∃ s', conclude rendered message s = .ok a s') ↔ rendered = .ok a := by
  cases rendered <;> simp [conclude]

theorem conclude_eq_error {α : Type} {rendered : Except Fault α} {message : α → String}
    {s : Session} {fault : Fault} :
    (∃ s', conclude rendered message s = .error fault s') ↔ rendered = .error fault := by
  cases rendered <;> simp [conclude]

/-! ## Requests of builders -/

theorem createTable_eq (p : Platform) (table : String) (columns : List Column)
    {options : TableOptions} (hf : options.foreignKeys = .null) (s : Session) :
    p.createTable (note builderLogger) table columns options s =
      conclude (p.createStatement table columns options) ("Generated " ++ ·)
        (s.warned table columns) := by
  unfold Platform.createTable
  rw [hf, ← conclude_eq]
  exact Act.bind_of_ok (warnReserved_run table columns s)

theorem alterTable_eq (perform : Step → Act Session Reply) {b : Builder} {s : Session}
    (h : Unhooked b s) {diff : TableDiff} (hu : Platform.unsupportedChange? diff = none) :
    b.platform.alterTable (host perform b) diff s =
      conclude ((diff.added.mapM b.platform.declaration).map
          (Platform.plainStatements diff.name diff.added))
        (fun statements => "Generated " ++ toString statements.length ++
          " statement(s) for ALTER TABLE " ++ diff.name)
        (s.warned diff.name diff.added) := by
  obtain ⟨hc, ht⟩ := h.warned diff.name diff.added
  rw [← conclude_eq]
  exact Platform.alterTable_of_silent hu (warnReserved_run diff.name diff.added s)
    (fun _ => Hook.dispatch_of_no_handlers hc _ _) (Hook.dispatch_of_no_handlers ht _ _)

end Session

end CrateDdl
