import CrateDdl.Proofs.Clauses
import CrateDdl.Proofs.Lines

/-!
# What creating a table fails with

Creating a table can fail for many reasons at once, of which one is reported: the first in a fixed
order. The order is laid down here without reference to how the statement is made, for a key
(`KeyFault`), an index (`IndexFault`) and the whole (`CreationFault`), and each part of the statement
fails just so (`keyClause_eq_error`, `declareIndex_eq_error`, `createStatement_eq_error`). A table is
created if and only if none of these faults is there (`createTable_first_fault`).
-/

set_option autoImplicit false

namespace CrateDdl

/-! ## Items that are texts, and items that can be keys -/

namespace Value

/-- A text, or a logical type, which counts as one. -/
def IsText (v : Value) : Prop := ∃ s, v.asText? = some s

theorem textsFrom_cons_of_text {v : Value} {s : String} (h : v.asText? = some s) (position : Nat)
    (rest : List Value) :
    textsFrom position (v :: rest) = (textsFrom (position + 1) rest).map (s :: ·) := by
  rw [textsFrom, h]

theorem textsFrom_cons_of_no_text {v : Value} (h : ¬ v.IsText) (position : Nat)
    (rest : List Value) : textsFrom position (v :: rest) = .error (.notText position v.kind) := by
  have hnone : v.asText? = none := Option.eq_none_iff_forall_ne_some.2 fun s hs => h ⟨s, hs⟩
  rw [textsFrom, hnone]

theorem textsFrom_returns_iff {items : List Value} : ∀ {position : Nat},
    (∃ texts, textsFrom position items = .ok texts) ↔ ∀ v ∈ items, v.IsText := by
  induction items with
  | nil => simp [textsFrom]
  | cons v rest ih =>
    intro position
    rw [List.forall_mem_cons, ← ih]
    by_cases hv : v.IsText
    · obtain ⟨s, hs⟩ := id hv
      rw [textsFrom_cons_of_text hs, and_iff_right hv]
      refine ⟨fun ⟨_, h⟩ => ?_, fun ⟨texts, h⟩ => ⟨_, Checked.map_eq_ok.2 ⟨texts, h, rfl⟩⟩⟩
      obtain ⟨texts, h, -⟩ := Checked.map_eq_ok.1 h
      exact ⟨texts, h⟩
    · rw [textsFrom_cons_of_no_text hv]
      simp [hv]

theorem textsFrom_eq_error {items : List Value} {fault : Fault} : ∀ {position : Nat},
    textsFrom position items = .error fault ↔
      ∃ before v, FirstNot IsText items before v ∧
        fault = .notText (position + before.length) v.kind := by
  induction items with
  | nil => simp [textsFrom, not_firstNot_nil]
  | cons v rest ih =>
    intro position
    by_cases hv : v.IsText
    · obtain ⟨s, hs⟩ := id hv
      rw [textsFrom_cons_of_text hs, Checked.map_eq_error, ih]
      simp only [firstNot_cons, hv, not_true_eq_false, false_and, true_and, false_or]
      refine ⟨fun ⟨before, w, hfirst, h⟩ => ?_, fun ⟨_, w, ⟨before, hb, hfirst⟩, h⟩ => ?_⟩
      · refine ⟨v :: before, w, ⟨before, rfl, hfirst⟩, ?_⟩
        rw [h, List.length_cons, Nat.add_right_comm, Nat.add_assoc]
      · subst hb
        refine ⟨before, w, hfirst, ?_⟩
        rw [h, List.length_cons, Nat.add_right_comm, Nat.add_assoc]
    · rw [textsFrom_cons_of_no_text hv]
      simp only [firstNot_cons, hv, not_false_eq_true, true_and, false_and, or_false]
      refine ⟨fun h => ⟨[], v, ⟨rfl, rfl⟩, ?_⟩, fun ⟨_, _, ⟨hb, hw⟩, h⟩ => ?_⟩
      · cases h
        rfl
      · subst hb hw
        exact congrArg Except.error h.symm

theorem joined_returns_iff {items : List Value} :
    (∃ text, joined items = .ok text) ↔ ∀ v ∈ items, v.IsText :=
  Checked.map_returns_iff.trans textsFrom_returns_iff

theorem joined_eq_error {items : List Value} {fault : Fault} :
    joined items = .error fault ↔
      ∃ before v, FirstNot IsText items before v ∧ fault = .notText before.length v.kind := by
  rw [joined, Checked.map_eq_error, textsFrom_eq_error]
  simp only [Nat.zero_add]

theorem keyFaults?_eq_none {items : List Value} :
    keyFaults? items = none ↔ ∀ v ∈ items, v.keyFault? = none := by
  induction items with
  | nil => simp [keyFaults?]
  | cons v rest ih => rw [keyFaults?, Option.or_eq_none_iff, ih, List.forall_mem_cons]

theorem keyFaults?_eq_some {items : List Value} {fault : Fault} :
    keyFaults? items = some fault ↔
      ∃ before v, FirstNot (·.keyFault? = none) items before v ∧ v.keyFault? = some fault := by
  induction items with
  | nil => simp [keyFaults?, not_firstNot_nil]
  | cons v rest ih =>
    rw [keyFaults?, Option.or_eq_some_iff, ih]
    refine ⟨?_, fun ⟨before, w, hfirst, hw⟩ => ?_⟩
    · rintro (hv | ⟨hv, before, w, hfirst, hw⟩)
      · exact ⟨[], v, firstNot_cons.2 (.inl ⟨by simp [hv], rfl, rfl⟩), hv⟩
      · exact ⟨v :: before, w, firstNot_cons.2 (.inr ⟨hv, before, rfl, hfirst⟩), hw⟩
    · rcases firstNot_cons.1 hfirst with ⟨-, -, rfl⟩ | ⟨hv, before, -, hfirst⟩
      · exact .inl hw
      · exact .inr ⟨hv, before, w, hfirst, hw⟩

theorem distinct_eq_ok {items kept : List Value} :
    distinct items = .ok kept ↔
      (∀ v ∈ items, v.keyFault? = none) ∧ distinctFrom [] items = kept := by
  rw [distinct, ← keyFaults?_eq_none]
  cases keyFaults? items <;> simp

theorem distinct_eq_error {items : List Value} {fault : Fault} :
    distinct items = .error fault ↔
      ∃ before v, FirstNot (·.keyFault? = none) items before v ∧ v.keyFault? = some fault := by
  rw [distinct, ← keyFaults?_eq_some]
  cases keyFaults? items <;> simp

theorem items_eq_error {v : Value} {fault : Fault} :
    v.items = .error fault ↔ (∀ items, v.items ≠ .ok items) ∧ fault = .notIterable v.kind := by
  cases v <;> simp [items, eq_comm]

/-! ## Keys -/

/-- The value can be rendered as a key: it is not truthy, or its items can all be keys, and those
that are left without repetitions are texts. -/
def RendersAsKey (key : Value) : Prop :=
  key.truthy = false ∨
    ∃ items, key.items = .ok items ∧ (∀ v ∈ items, v.keyFault? = none) ∧
      ∀ v ∈ distinctFrom [] items, v.IsText

/-- What is at fault with a key. Of all its items, the first that cannot be a key is reported; if
there is none, the first that is no text, with its position without repetitions. -/
inductive KeyFault (key : Value) : Fault → Prop
  | notIterable : key.truthy = true → (∀ items, key.items ≠ .ok items) →
      KeyFault key (.notIterable key.kind)
  | noKey {items before : List Value} {v : Value} {fault : Fault} :
      key.truthy = true → key.items = .ok items →
      FirstNot (·.keyFault? = none) items before v → v.keyFault? = some fault →
      KeyFault key fault
  | notText {items before : List Value} {v : Value} :
      key.truthy = true → key.items = .ok items → (∀ v ∈ items, v.keyFault? = none) →
      FirstNot IsText (distinctFrom [] items) before v →
      KeyFault key (.notText before.length v.kind)

mutual

theorem keyFault?_categories {fault : Fault} (v : Value) (h : v.keyFault? = some fault) :
    fault.categories = [.type] := by
  match v with
  | .tuple items => exact keyFaults?_categories items h
  | .list _ | .record _ =>
    cases h
    rfl
  | .decimal d =>
    cases d with
    | nan negative signaling payload =>
      cases signaling <;> cases h
      rfl
    | _ => cases h

theorem keyFaults?_categories {fault : Fault} (items : List Value)
    (h : keyFaults? items = some fault) : fault.categories = [.type] := by
  match items with
  | v :: rest =>
    rcases Option.or_eq_some_iff.1 h with hv | ⟨-, hrest⟩
    · exact keyFault?_categories v hv
    · exact keyFaults?_categories rest hrest

end

/-- A key is at fault with a value of the wrong type. -/
theorem KeyFault.categories {key : Value} {fault : Fault} (h : KeyFault key fault) :
    fault.categories = [.type] := by
  cases h with
  | notIterable => rfl
  | noKey _ _ _ hfault => exact keyFault?_categories _ hfault
  | notText => rfl

end Value

theorem TableOptions.primaryKeyColumns_eq_error {options : TableOptions} {fault : Fault} :
    options.primaryKeyColumns = .error fault ↔
      options.primaryKey.truthy = true ∧
        (options.primaryKey.items = .error fault ∨
          ∃ items, options.primaryKey.items = .ok items ∧ Value.distinct items = .error fault) := by
  unfold primaryKeyColumns
  cases options.primaryKey.truthy with
  | false => simp
  | true => exact Checked.bind_eq_error.trans (and_iff_right rfl).symm

theorem TableOptions.primaryKeyColumns_eq_ok {options : TableOptions} {columns : List Value} :
    options.primaryKeyColumns = .ok columns ↔
      options.primaryKey.truthy = false ∧ columns = [] ∨
        options.primaryKey.truthy = true ∧
          ∃ items, options.primaryKey.items = .ok items ∧ Value.distinct items = .ok columns := by
  unfold primaryKeyColumns
  cases options.primaryKey.truthy with
  | false => simp [eq_comm]
  | true =>
    simp only [Bool.true_eq_false, false_and, true_and, false_or]
    exact Checked.bind_eq_ok

/-! ## Indexes -/

/-- The index has a column, and all its columns are texts. -/
def Index.Declarable (index : Index) : Prop :=
  index.columns ≠ [] ∧ ∀ v ∈ index.columns, v.IsText

/-- What is at fault with an index. -/
inductive IndexFault (index : Index) : Fault → Prop
  | noColumns : index.columns = [] →
      IndexFault index (.invalidArgument (.text "Incomplete definition. 'columns' required."))
  | notText {before : List Value} {v : Value} : FirstNot Value.IsText index.columns before v →
      IndexFault index (.notText before.length v.kind)

/-! ## Tables -/

/-- What is at fault with a table without foreign keys: a column of binary data, or else the key, or
else the first index that cannot be declared. -/
inductive CreationFault (columns : List Column) (options : TableOptions) : Fault → Prop
  | blob : (∃ c ∈ columns, c.type = .standard .blob) →
      CreationFault columns options (.unsupported (.text "blob_type_declaration"))
  | key {fault : Fault} : (∀ c ∈ columns, c.type ≠ .standard .blob) →
      Value.KeyFault options.primaryKey fault → CreationFault columns options fault
  | index {before : List Index} {index : Index} {fault : Fault} :
      (∀ c ∈ columns, c.type ≠ .standard .blob) → options.primaryKey.RendersAsKey →
      FirstNot Index.Declarable options.indexes before index → IndexFault index fault →
      CreationFault columns options fault

/-- What is at fault with a table is binary data, an index without columns, or a value of the wrong
type. -/
theorem CreationFault.categories {columns : List Column} {options : TableOptions} {fault : Fault}
    (h : CreationFault columns options fault) :
    fault = .unsupported (.text "blob_type_declaration") ∨
      fault = .invalidArgument (.text "Incomplete definition. 'columns' required.") ∨
      fault.categories = [.type] := by
  cases h with
  | blob => exact .inl rfl
  | key _ hkey => exact .inr (.inr hkey.categories)
  | index _ _ _ hindex =>
    cases hindex with
    | noColumns => exact .inr (.inl rfl)
    | notText => exact .inr (.inr rfl)

namespace Platform

variable {p : Platform} {options : TableOptions} {fault : Fault}

theorem keyClause_returns_iff :
    (∃ text, keyClause options = .ok text) ↔ options.primaryKey.RendersAsKey := by
  have hkey : (∃ text, keyClause options = .ok text) ↔
      ∃ columns, options.primaryKeyColumns = .ok columns ∧ ∀ v ∈ columns, v.IsText := by
    simp only [keyClause_eq_ok, ← Value.joined_returns_iff]
    refine ⟨fun ⟨_, columns, key, hc, hk, _⟩ => ⟨columns, hc, key, hk⟩, ?_⟩
    exact fun ⟨columns, hc, key, hk⟩ => ⟨_, columns, key, hc, hk, rfl⟩
  rw [hkey]
  simp only [TableOptions.primaryKeyColumns_eq_ok, Value.distinct_eq_ok]
  refine ⟨?_, ?_⟩
  · rintro ⟨columns, ⟨ht, -⟩ | ⟨-, items, hi, hkeys, rfl⟩, htexts⟩
    · exact .inl ht
    · exact .inr ⟨items, hi, hkeys, htexts⟩
  · intro h
    cases ht : options.primaryKey.truthy with
    | false => exact ⟨[], .inl ⟨rfl, rfl⟩, by simp⟩
    | true =>
      obtain ⟨items, hi, hkeys, htexts⟩ := h.resolve_left (by simp [ht])
      exact ⟨_, .inr ⟨rfl, items, hi, hkeys, rfl⟩, htexts⟩

theorem keyClause_eq_error :
    keyClause options = .error fault ↔ Value.KeyFault options.primaryKey fault := by
  rw [keyClause_eq, Checked.bind_eq_error, TableOptions.primaryKeyColumns_eq_error]
  simp only [Checked.map_eq_error, Value.items_eq_error, Value.distinct_eq_error,
    TableOptions.primaryKeyColumns_eq_ok, Value.distinct_eq_ok, Value.joined_eq_error]
  refine ⟨?_, fun h => ?_⟩
  · rintro (⟨ht, ⟨hi, rfl⟩ | ⟨items, hi, before, v, hfirst, hv⟩⟩ |
      ⟨columns, ⟨-, rfl⟩ | ⟨ht, items, hi, hkeys, rfl⟩, before, v, hfirst, rfl⟩)
    · exact .notIterable ht hi
    · exact .noKey ht hi hfirst hv
    · exact absurd hfirst not_firstNot_nil
    · exact .notText ht hi hkeys hfirst
  · cases h with
    | notIterable ht hi => exact .inl ⟨ht, .inl ⟨hi, rfl⟩⟩
    | noKey ht hi hfirst hv => exact .inl ⟨ht, .inr ⟨_, hi, _, _, hfirst, hv⟩⟩
    | notText ht hi hkeys hfirst =>
      exact .inr ⟨_, .inr ⟨ht, _, hi, hkeys, rfl⟩, _, _, hfirst, rfl⟩

theorem declareIndex_returns_iff {index : Index} :
    (∃ declaration, declareIndex index = .ok declaration) ↔ index.Declarable := by
  unfold declareIndex Index.Declarable
  rw [← Value.joined_returns_iff]
  by_cases hnil : index.columns = []
  · simp [hnil]
  · simp [hnil, Checked.map_returns_iff]

theorem declareIndex_eq_error {index : Index} :
    declareIndex index = .error fault ↔ IndexFault index fault := by
  unfold declareIndex
  by_cases hnil : index.columns = []
  · simp only [hnil, List.isEmpty_nil, ↓reduceIte, Except.error.injEq]
    refine ⟨fun h => h ▸ .noColumns hnil, fun h => ?_⟩
    cases h with
    | noColumns => rfl
    | notText hfirst => exact absurd (hnil ▸ hfirst) not_firstNot_nil
  · simp only [List.isEmpty_iff, hnil, ↓reduceIte, Checked.map_eq_error, Value.joined_eq_error]
    refine ⟨fun ⟨before, v, hfirst, hfault⟩ => hfault ▸ .notText hfirst, fun h => ?_⟩
    cases h with
    | noColumns h => exact absurd h hnil
    | notText hfirst => exact ⟨_, _, hfirst, rfl⟩

theorem mapM_declaration_eq_error {columns : List Column} :
    columns.mapM p.declaration = .error fault ↔
      (∃ c ∈ columns, IsBlob c) ∧ fault = .unsupportedOperation "blob_type_declaration" := by
  have hfirst {fault : Fault} (h : columns.mapM p.declaration = .error fault) :
      (∃ c ∈ columns, IsBlob c) ∧ fault = .unsupportedOperation "blob_type_declaration" := by
    obtain ⟨before, c, hfirst, hc⟩ := Checked.mapM_eq_error.1 h
    obtain ⟨hblob, hfault⟩ := declaration_eq_error.1 hc
    exact ⟨⟨c, hfirst.mem, hblob⟩, hfault⟩
  refine ⟨hfirst, fun ⟨⟨c, hc, hblob⟩, hfault⟩ => ?_⟩
  cases hd : columns.mapM p.declaration with
  | ok declarations => exact absurd hblob (mapM_declaration_returns_iff.1 ⟨_, hd⟩ c hc)
  | error fault' => rw [(hfirst hd).2, hfault]

theorem indexClauses_returns_iff {indexes : List Index} :
    (∃ text, indexClauses indexes = .ok text) ↔ ∀ index ∈ indexes, index.Declarable := by
  simp only [indexClauses_eq, Checked.map_returns_iff, Checked.mapM_returns_iff,
    declareIndex_returns_iff]

theorem indexClauses_eq_error {indexes : List Index} :
    indexClauses indexes = .error fault ↔
      ∃ before index, FirstNot Index.Declarable indexes before index ∧ IndexFault index fault := by
  rw [indexClauses_eq, Checked.map_eq_error, Checked.mapM_eq_error]
  simp only [declareIndex_returns_iff, declareIndex_eq_error]

theorem declareColumns_returns_iff {columns : List Column} :
    (∃ fields, p.declareColumns columns = .ok fields) ↔ ∀ c ∈ columns, ¬ IsBlob c :=
  Checked.map_returns_iff.trans mapM_declaration_returns_iff

section
variable {table : String} {columns : List Column}

theorem createStatement_returns_iff :
    (∃ statement, p.createStatement table columns options = .ok statement) ↔
      (∀ c ∈ columns, ¬ IsBlob c) ∧ options.primaryKey.RendersAsKey ∧
        ∀ index ∈ options.indexes, index.Declarable := by
  rw [← declareColumns_returns_iff (p := p), ← keyClause_returns_iff, ← indexClauses_returns_iff]
  unfold createStatement
  simp only [Checked.bind_eq_ok, pure, Except.pure]
  refine ⟨fun ⟨_, fields, hf, key, hk, indexes, hi, _⟩ => ⟨⟨fields, hf⟩, ⟨key, hk⟩, indexes, hi⟩, ?_⟩
  exact fun ⟨⟨fields, hf⟩, ⟨key, hk⟩, indexes, hi⟩ => ⟨_, fields, hf, key, hk, indexes, hi, rfl⟩

/-- The statement cannot be made for the first reason in the order of `CreationFault`. -/
theorem createStatement_eq_error :
    p.createStatement table columns options = .error fault ↔ CreationFault columns options fault := by
  have hparts : p.createStatement table columns options = .error fault ↔
      p.declareColumns columns = .error fault ∨ (∃ fields, p.declareColumns columns = .ok fields) ∧
        (keyClause options = .error fault ∨ (∃ key, keyClause options = .ok key) ∧
          indexClauses options.indexes = .error fault) := by
    unfold createStatement
    refine Checked.bind_eq_error_of_forall fun fields => ?_
    refine Checked.bind_eq_error_of_forall fun key => Checked.bind_eq_error.trans (or_iff_left ?_)
    rintro ⟨indexes, -, hpure⟩
    cases hpure
  rw [hparts, declareColumns_returns_iff, keyClause_returns_iff, keyClause_eq_error,
    indexClauses_eq_error, declareColumns, Checked.map_eq_error, mapM_declaration_eq_error]
  refine ⟨?_, fun h => ?_⟩
  · rintro (⟨hblob, rfl⟩ | ⟨hplain, hkey | ⟨hkey, before, index, hfirst, hindex⟩⟩)
    · exact .blob hblob
    · exact .key hplain hkey
    · exact .index hplain hkey hfirst hindex
  · cases h with
    | blob hblob => exact .inl ⟨hblob, rfl⟩
    | key hplain hkey => exact .inr ⟨hplain, .inl hkey⟩
    | index hplain hkey hfirst hindex => exact .inr ⟨hplain, .inr ⟨hkey, _, _, hfirst, hindex⟩⟩

end

end Platform

namespace Session

open Platform

/-- **What creating a table fails with.** A table is created if and only if there are no foreign
keys, no column has binary data, the key can be rendered and so can every index. Otherwise foreign
keys are refused, with at most a line about that; where there are none, the reason is the first in
the order of `CreationFault`, and all that has happened by then is that the columns with reserved
names have been warned about. -/
theorem createTable_first_fault (b : Builder) (s : Session) (table : String)
    (columns : List Column) (options : TableOptions) :
    let create := b.platform.createTable (note builderLogger) table columns options s
    ((∃ statement s', create = .ok statement s') ↔
      options.foreignKeys = .null ∧ (∀ c ∈ columns, c.type ≠ .standard .blob) ∧
        options.primaryKey.RendersAsKey ∧ ∀ index ∈ options.indexes, index.Declarable) ∧
    (options.foreignKeys ≠ .null → ∃ journal lines,
      create = .error (.unsupported (.text "Create Table: foreign keys")) { s with journal } ∧
        journal.entries = s.journal.entries ++ lines ∧ lines.length ≤ 1 ∧
        ∀ line ∈ lines, line.level = Level.debug) ∧
    (options.foreignKeys = .null → ∀ fault s',
      create = .error fault s' ↔
        CreationFault columns options fault ∧ s' = s.warned table columns) ∧
    (s.journal.installed = true →
      Wrote (Note.reservedWarnings table columns) s (s.warned table columns)) ∧
    ∀ fault, CreationFault columns options fault →
      fault = .unsupported (.text "blob_type_declaration") ∨
        fault = .invalidArgument (.text "Incomplete definition. 'columns' required.") ∨
        fault.categories = [.type] := by
  intro create
  refine ⟨?_, fun hf => ?_, fun hf fault s' => ?_, warned_wrote table columns,
    fun fault h => h.categories⟩
  · by_cases hf : options.foreignKeys = .null
    · have hreturns : (∃ statement s', create = .ok statement s') ↔
          ∃ statement, b.platform.createStatement table columns options = .ok statement := by
        simp only [create, createTable_eq b.platform table columns hf, conclude_eq_ok]
      rw [hreturns, createStatement_returns_iff, and_iff_right hf]
      rfl
    · refine ⟨fun ⟨statement, s', h⟩ => ?_, fun h => absurd h.1 hf⟩
      exact absurd (foreignKeys_of_createTable h) hf
  · obtain ⟨lines, hentries, hlength, hlines⟩ := Journal.write_entries Level.debug builderLogger
      ("Rejecting '" ++ "Create Table: foreign keys" ++ "' on table " ++ table) s.journal
    refine ⟨_, lines, ?_, hentries, hlength, fun line hline => (hlines line hline).1⟩
    show b.platform.createTable (note builderLogger) table columns options s = _
    rw [createTable_of_foreignKeys hf]
    rfl
  · show b.platform.createTable (note builderLogger) table columns options s = _ ↔ _
    rw [createTable_eq b.platform table columns hf, ← createStatement_eq_error (p := b.platform)]
    cases b.platform.createStatement table columns options with
    | ok statement => simp [conclude]
    | error fault' => simp [conclude, eq_comm]

/-- A column that is warned about, a key of which three items are the same, and an index without
columns: the second item that is left of the key is no text. -/
theorem createTable_first_fault_of_key :
    let b : Builder := ⟨{}, 0⟩
    let columns : List Column := [{ name := "order", type := .standard .date }]
    let items : List Value := [.logical .date, .text "date", .text "date", .int 1, .bool true]
    let options : TableOptions := { primaryKey := .list items, indexes := [⟨"i", [], false⟩] }
    b.platform.createTable (note builderLogger) "t" columns options {} =
      .error (.notText 1 "int") (warned "t" columns {}) := by
  intro b columns items options
  have hplain : ∀ c ∈ columns, c.type ≠ .standard .blob := by simp [columns]
  have hkeys : ∀ v ∈ items, v.keyFault? = none := by simp [items, Value.keyFault?]
  have hfirst : FirstNot Value.IsText (Value.distinctFrom [] items) [.logical .date] (.int 1) :=
    ⟨⟨[], rfl⟩, by simp [Value.IsText, Value.asText?], by simp [Value.IsText, Value.asText?]⟩
  have hkey : Value.KeyFault options.primaryKey (.notText 1 "int") :=
    .notText rfl rfl hkeys hfirst
  exact ((createTable_first_fault b {} "t" columns options).2.2.1 rfl _ _).2 ⟨.key hplain hkey, rfl⟩

end Session

end CrateDdl
