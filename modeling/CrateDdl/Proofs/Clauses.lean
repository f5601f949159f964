import CrateDdl.Proofs.Checked
import CrateDdl.Table.Creation

/-!
# The clauses of a table definition

A definition has the declarations of its columns, a key clause and index clauses. The columns are
joined; the others are put behind them, each with a separator in front (`continued`). Behind at
least one column this is the same as joining all clauses (`commaSeparated_append`), which is what
`createStatement_eq_ok_of_ne_nil` says of the statement as a whole.
-/

set_option autoImplicit false

namespace CrateDdl

namespace Text

/-- Items behind others, with a separator in front of each. -/
def continued (items : List String) : String := String.join (items.map (", " ++ ·))

@[simp] theorem continued_nil : continued [] = "" := rfl

theorem continued_cons (item : String) (items : List String) :
    continued (item :: items) = ", " ++ item ++ continued items := by
  simp [continued, String.append_assoc]

theorem continued_append (xs ys : List String) :
    continued (xs ++ ys) = continued xs ++ continued ys := by
  simp [continued]

theorem commaSeparated_cons (item : String) (items : List String) :
    commaSeparated (item :: items) = item ++ continued items := by
  unfold commaSeparated
  induction items generalizing item with
  | nil => simp
  | cons next items ih =>
    rw [String.intercalate_cons_cons, ih, continued_cons]
    simp only [String.append_assoc]

theorem commaSeparated_append {xs : List String} (h : xs ≠ []) (ys : List String) :
    commaSeparated (xs ++ ys) = commaSeparated xs ++ continued ys := by
  obtain ⟨x, xs, rfl⟩ := List.exists_cons_of_ne_nil h
  rw [List.cons_append, commaSeparated_cons, commaSeparated_cons, continued_append,
    String.append_assoc]

end Text

namespace Platform

open Text

/-- The key clause; an empty key has none. -/
def keyClauses (columns : List Value) (key : String) : List String :=
  if columns.isEmpty then [] else ["PRIMARY KEY(" ++ key ++ ")"]

@[simp] theorem keyClauses_nil (key : String) : keyClauses [] key = [] := rfl

@[simp] theorem keyClauses_cons (column : Value) (columns : List Value) (key : String) :
    keyClauses (column :: columns) key = ["PRIMARY KEY(" ++ key ++ ")"] := rfl

theorem keyClause_eq (options : TableOptions) :
    keyClause options = options.primaryKeyColumns >>= fun columns =>
      (Value.joined columns).map fun key => continued (keyClauses columns key) := by
  unfold keyClause
  rcases options.primaryKeyColumns with fault | _ | ⟨column, columns⟩
  · rfl
  · rfl
  · have hclause (key : String) :
        ", PRIMARY KEY(" ++ key ++ ")" = continued (keyClauses (column :: columns) key) := by
      rw [keyClauses_cons, continued_cons, continued_nil, String.append_empty,
        show ", PRIMARY KEY(" = ", " ++ "PRIMARY KEY(" from rfl]
      simp only [String.append_assoc]
    show (Value.joined (column :: columns)).map _ = (Value.joined (column :: columns)).map _
    exact congrArg (Except.map · _) (funext hclause)

theorem keyClause_eq_ok {options : TableOptions} {text : String} :
    keyClause options = .ok text ↔
      ∃ columns key, options.primaryKeyColumns = .ok columns ∧ Value.joined columns = .ok key ∧
        text = continued (keyClauses columns key) := by
  rw [keyClause_eq, Checked.bind_eq_ok]
  refine exists_congr fun columns => ?_
  rw [Checked.map_eq_ok, ← exists_and_left]
  exact exists_congr fun key => and_congr_right fun _ => and_congr_right fun _ => eq_comm

theorem indexClauses_eq : ∀ indexes : List Index,
    indexClauses indexes = (indexes.mapM declareIndex).map continued
  | [] => rfl
  | index :: rest => by
    unfold indexClauses
    rw [indexClauses_eq rest, List.mapM_cons]
    cases declareIndex index with
    | error fault => rfl
    | ok declaration =>
      cases rest.mapM declareIndex with
      | error fault => rfl
      | ok declarations => exact congrArg Except.ok (continued_cons _ _).symm

theorem indexClauses_eq_ok {indexes : List Index} {text : String} :
    indexClauses indexes = .ok text ↔
      ∃ declarations, indexes.mapM declareIndex = .ok declarations ∧ text = continued declarations := by
  rw [indexClauses_eq, Checked.map_eq_ok]
  exact exists_congr fun declarations => and_congr_right fun _ => eq_comm

/-- The statement can be made if the columns, the key and the indexes can be declared. -/
theorem createStatement_eq_ok {p : Platform} {table : String} {columns : List Column}
    {options : TableOptions} {statement : String} :
    p.createStatement table columns options = .ok statement ↔
      ∃ declarations keyColumns key indexes,
        columns.mapM p.declaration = .ok declarations ∧
        options.primaryKeyColumns = .ok keyColumns ∧ Value.joined keyColumns = .ok key ∧
        options.indexes.mapM declareIndex = .ok indexes ∧
        statement = "CREATE TABLE " ++ table ++ " (" ++ (commaSeparated declarations ++
          continued (keyClauses keyColumns key ++ indexes)) ++ ")" := by
  unfold createStatement declareColumns
  simp only [Checked.bind_eq_ok, Checked.map_eq_ok, keyClause_eq_ok, indexClauses_eq_ok,
    continued_append]
  refine ⟨fun h => ?_, fun h => ?_⟩
  · obtain ⟨_, ⟨declarations, hd, rfl⟩, _, ⟨keyColumns, key, hk, hkey, rfl⟩, _,
      ⟨indexes, hi, rfl⟩, hpure⟩ := h
    cases hpure
    exact ⟨declarations, keyColumns, key, indexes, hd, hk, hkey, hi,
      by simp only [String.append_assoc]⟩
  · obtain ⟨declarations, keyColumns, key, indexes, hd, hk, hkey, hi, rfl⟩ := h
    refine ⟨_, ⟨declarations, hd, rfl⟩, _, ⟨keyColumns, key, hk, hkey, rfl⟩, _,
      ⟨indexes, hi, rfl⟩, ?_⟩
    simp only [pure, Except.pure, String.append_assoc]

/-- Behind at least one column, the clauses are one list. -/
theorem createStatement_eq_ok_of_ne_nil {p : Platform} {table : String} {columns : List Column}
    (hne : columns ≠ []) {options : TableOptions} {statement : String} :
    p.createStatement table columns options = .ok statement ↔
      ∃ declarations keyColumns key indexes,
        columns.mapM p.declaration = .ok declarations ∧
        options.primaryKeyColumns = .ok keyColumns ∧ Value.joined keyColumns = .ok key ∧
        options.indexes.mapM declareIndex = .ok indexes ∧
        statement = "CREATE TABLE " ++ table ++ " (" ++
          commaSeparated (declarations ++ keyClauses keyColumns key ++ indexes) ++ ")" := by
  rw [createStatement_eq_ok]
  refine exists_congr fun declarations => exists_congr fun keyColumns => exists_congr fun key =>
    exists_congr fun indexes => and_congr_right fun hd => ?_
  have hds : declarations ≠ [] := by
    rintro rfl
    exact hne (List.eq_nil_of_length_eq_zero (Checked.length_of_mapM hd).symm)
  rw [List.append_assoc, commaSeparated_append hds]

/-- Without a key and indexes, the statement lists the columns alone. -/
theorem createStatement_plain (p : Platform) (table : String) (columns : List Column) :
    p.createStatement table columns {} =
      (columns.mapM p.declaration).map fun declarations =>
        "CREATE TABLE " ++ table ++ " (" ++ commaSeparated declarations ++ ")" := by
  unfold createStatement declareColumns
  cases columns.mapM p.declaration with
  | error fault => rfl
  | ok declarations =>
    show Except.ok ("CREATE TABLE " ++ table ++ " (" ++ commaSeparated declarations ++ "" ++ "" ++
      ")") = _
    simp only [String.append_empty, Except.map]

end Platform

end CrateDdl
