import CrateDdl.Proofs.Clauses
import CrateDdl.Proofs.Unhooked

/-!
# The fields of a table

Between its parentheses a definition lists the fields of a table: the declarations of its columns,
the key and the indexes, none of which is ever empty. The columns are joined by separators, and the
key and the indexes are put behind them with a separator in front of each, so the list is as it
should be if there is a column, or else nothing that comes behind (`commaSeparated_continued_iff`).
A table without columns that has a key or an index begins with a separator, as if an empty field
came first (`createTable_lists_fields_iff`).
-/

set_option autoImplicit false

namespace CrateDdl

namespace Text

/-- Items behind none are their list with a separator too many in front. -/
theorem continued_of_ne_nil {items : List String} (h : items ≠ []) :
    continued items = ", " ++ commaSeparated items := by
  obtain ⟨item, items, rfl⟩ := List.exists_cons_of_ne_nil h
  rw [continued_cons, commaSeparated_cons, String.append_assoc]

/-- Items put behind others are one list with them if there are others, or no such items. -/
theorem commaSeparated_continued_iff (xs ys : List String) :
    commaSeparated xs ++ continued ys = commaSeparated (xs ++ ys) ↔ xs ≠ [] ∨ ys = [] := by
  by_cases hx : xs = []
  · subst hx
    by_cases hy : ys = []
    · subst hy
      exact ⟨fun _ => .inr rfl, fun _ => rfl⟩
    · refine ⟨fun h => ?_, fun h => absurd (h.resolve_left fun hx => hx rfl) hy⟩
      have hlength := congrArg String.length h
      rw [continued_of_ne_nil hy] at hlength
      simp [commaSeparated] at hlength
  · exact ⟨fun _ => .inl hx, fun _ => (commaSeparated_append hx ys).symm⟩

/-- A text with something in the middle is not empty. -/
theorem append_ne_empty {middle : String} (h : middle ≠ "") (front back : String) :
    front ++ middle ++ back ≠ "" := by
  simp [h]

end Text

namespace Platform

open Text

/-! ## No field is empty -/

theorem declaration_ne_empty {p : Platform} {c : Column} {declaration : String}
    (h : p.declaration c = .ok declaration) : declaration ≠ "" := by
  obtain ⟨clause, -, rfl⟩ := Checked.map_eq_ok.1 h
  exact append_ne_empty (by decide) c.renderedName _

theorem declareIndex_ne_empty {index : Index} {declaration : String}
    (h : declareIndex index = .ok declaration) : declaration ≠ "" := by
  unfold declareIndex at h
  split at h
  · cases h
  · obtain ⟨columns, -, rfl⟩ := Checked.map_eq_ok.1 h
    simp

theorem keyClauses_ne_empty {columns : List Value} {key field : String}
    (h : field ∈ keyClauses columns key) : field ≠ "" := by
  unfold keyClauses at h
  split at h
  · cases h
  · rw [List.mem_singleton.1 h]
    simp

/-- The declarations of the columns, the key clause and those of the indexes. -/
theorem fields_ne_empty {p : Platform} {columns : List Column} {indexes : List Index}
    {declarations indexDeclarations : List String}
    (hd : columns.mapM p.declaration = .ok declarations)
    (hi : indexes.mapM declareIndex = .ok indexDeclarations) (keyColumns : List Value)
    (key : String) :
    ∀ field ∈ declarations ++ (keyClauses keyColumns key ++ indexDeclarations), field ≠ "" := by
  intro field hfield
  rcases List.mem_append.1 hfield with hfield | hfield
  · obtain ⟨c, -, hc⟩ := Checked.exists_of_mem_mapM hd field hfield
    exact declaration_ne_empty hc
  · rcases List.mem_append.1 hfield with hfield | hfield
    · exact keyClauses_ne_empty hfield
    · obtain ⟨index, -, hindex⟩ := Checked.exists_of_mem_mapM hi field hfield
      exact declareIndex_ne_empty hindex

theorem keyClauses_eq_nil_iff {columns : List Value} {key : String} :
    keyClauses columns key = [] ↔ columns = [] := by
  cases columns <;> simp

end Platform

namespace Session

open Platform

/-- **The fields of a table that is created.** The statement lists the declarations of the columns,
the key if it is not empty and the indexes, and none of these fields is empty. They are separated as
they should be if and only if there is a column, or neither a key nor an index; otherwise the list
begins with a separator. -/
theorem createTable_lists_fields_iff (b : Builder) (s s' : Session) (table : String)
    (columns : List Column) (options : TableOptions) (statement : String)
    (h : b.platform.createTable (note builderLogger) table columns options s = .ok statement s') :
    ∃ declarations keyColumns key indexes text,
      columns.mapM b.platform.declaration = .ok declarations ∧
      options.primaryKeyColumns = .ok keyColumns ∧ Value.joined keyColumns = .ok key ∧
      options.indexes.mapM declareIndex = .ok indexes ∧
      statement = "CREATE TABLE " ++ table ++ " (" ++ text ++ ")" ∧
      let fields := declarations ++
        ((if keyColumns.isEmpty then [] else ["PRIMARY KEY(" ++ key ++ ")"]) ++ indexes)
      (∀ field ∈ fields, field ≠ "") ∧
      (text = Text.commaSeparated fields ↔
        columns ≠ [] ∨ keyColumns = [] ∧ options.indexes = []) ∧
      (columns = [] → ¬ (keyColumns = [] ∧ options.indexes = []) →
        text = ", " ++ Text.commaSeparated fields) := by
  rw [createTable_eq b.platform table columns (foreignKeys_of_createTable h)] at h
  obtain ⟨declarations, keyColumns, key, indexes, hd, hk, hkey, hi, rfl⟩ :=
    createStatement_eq_ok.1 (conclude_eq_ok.1 ⟨s', h⟩)
  have hcolumns : declarations = [] ↔ columns = [] := Checked.eq_nil_iff_of_mapM hd
  have hindexes : indexes = [] ↔ options.indexes = [] := Checked.eq_nil_iff_of_mapM hi
  have hbehind : keyClauses keyColumns key ++ indexes = [] ↔
      keyColumns = [] ∧ options.indexes = [] := by
    rw [List.append_eq_nil_iff, keyClauses_eq_nil_iff, hindexes]
  refine ⟨declarations, keyColumns, key, indexes, _, hd, hk, hkey, hi, rfl,
    fields_ne_empty hd hi keyColumns key, ?_, fun hnone hsome => ?_⟩
  · rw [← hbehind, ne_eq, ← hcolumns]
    exact Text.commaSeparated_continued_iff _ _
  · rw [hcolumns.2 hnone, Text.continued_of_ne_nil fun hnil => hsome (hbehind.1 hnil)]
    rfl

/-- A column with a name that is empty but for its quotes, a key given twice, and an index. -/
theorem createTable_lists_fields_of_three :
    let b : Builder := ⟨{}, 0⟩
    let columns : List Column := [{ name := "", type := .custom "", quoted := true }]
    let options : TableOptions :=
      { primaryKey := .text "aa", indexes := [⟨"ft", [.text "a"], false⟩] }
    ∃ s', b.platform.createTable (note builderLogger) "t" columns options {} =
        .ok "CREATE TABLE t (\"\" , PRIMARY KEY(a), INDEX ft using fulltext (a))" s' ∧
      ∃ text, "CREATE TABLE t (\"\" , PRIMARY KEY(a), INDEX ft using fulltext (a))" =
          "CREATE TABLE " ++ "t" ++ " (" ++ text ++ ")" ∧
        text = Text.commaSeparated
          ["\"\" ", "PRIMARY KEY(a)", "INDEX ft using fulltext (a)"] := by
  intro b columns options
  have hrun : ∃ s', b.platform.createTable (note builderLogger) "t" columns options {} =
      .ok "CREATE TABLE t (\"\" , PRIMARY KEY(a), INDEX ft using fulltext (a))" s' := by
    rw [createTable_eq b.platform "t" columns rfl, conclude_eq_ok]
    exact createStatement_eq_ok.2
      ⟨_, [.text "a"], "a", ["INDEX ft using fulltext (a)"], rfl, rfl, rfl, rfl, by decide +kernel⟩
  obtain ⟨s', h⟩ := hrun
  obtain ⟨declarations, keyColumns, key, indexes, text, hd, hk, hkey, hi, hstatement, -, hiff, -⟩ :=
    createTable_lists_fields_iff b {} s' "t" columns options _ h
  refine ⟨s', h, text, hstatement, ?_⟩
  cases hd
  cases hk
  cases hkey
  cases hi
  exact hiff.2 (.inl (by simp [columns]))

/-- A table without columns that has a key: its list of fields begins with a separator. -/
theorem createTable_of_no_columns :
    let b : Builder := ⟨{}, 0⟩
    let options : TableOptions := { primaryKey := .list [.text "a"] }
    options.primaryKeyColumns = .ok [.text "a"] ∧ Value.joined [.text "a"] = .ok "a" ∧
    (∃ s', b.platform.createTable (note builderLogger) "t" [] options {} =
      .ok "CREATE TABLE t (, PRIMARY KEY(a))" s') ∧
    "CREATE TABLE t (, PRIMARY KEY(a))" ≠
      "CREATE TABLE " ++ "t" ++ " (" ++ Text.commaSeparated ["PRIMARY KEY(a)"] ++ ")" := by
  intro b options
  refine ⟨rfl, rfl, ?_, by decide +kernel⟩
  rw [createTable_eq b.platform "t" [] rfl, conclude_eq_ok]
  exact createStatement_eq_ok.2 ⟨[], [.text "a"], "a", [], rfl, rfl, rfl, rfl, by decide +kernel⟩

end Session

end CrateDdl
