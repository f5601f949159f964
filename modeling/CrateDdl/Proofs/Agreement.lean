import CrateDdl.Proofs.Clauses
import CrateDdl.Proofs.Requests
import CrateDdl.Proofs.Unhooked

/-!
# Creating a table and adding its columns

A builder without handlers creates a table with some columns if and only if it can add the same
columns to one, with the same declarations, the same fault and the same warnings
(`createTable_alterTable_agree`).
-/

set_option autoImplicit false

namespace CrateDdl.Session

/-- The warnings in the journal. -/
def warnings (s : Session) : List Entry :=
  s.journal.entries.filter fun entry => entry.level == Level.warning

/-- A line of another level is no warning. -/
theorem warnings_write {level : Int} (hl : level ≠ Level.warning) (logger message : String)
    (j : Journal) :
    (j.write level logger message).entries.filter (fun entry => entry.level == Level.warning) =
      j.entries.filter fun entry => entry.level == Level.warning := by
  unfold Journal.write
  split
  · simp [j.readId_entries, hl]
  · rfl

theorem warnings_conclude {α : Type} (rendered : Except Fault α) (message : α → String)
    (s : Session) : (Act.endState (conclude rendered message s)).warnings = s.warnings := by
  cases rendered with
  | error fault => rfl
  | ok a => exact warnings_write (by decide) _ _ _

/-- **Creating a table agrees with adding its columns.** Without handlers and options, the two fail
with the same fault and warn of the same columns; where they return, the columns are declared alike,
and the alteration has nothing else than the comments. With options, the statement lists the
columns, the key without repetitions and the indexes, provided there is a column at all. -/
theorem createTable_alterTable_agree (perform : Step → Act Session Reply) (b : Builder)
    (s : Session) (h : Unhooked b s) (table : String) (columns : List Column) :
    let create := b.platform.createTable (note builderLogger) table columns
    let alter := b.platform.alterTable (host perform b) { name := table, added := columns }
    (∀ fault, (∃ s', create {} s = .error fault s') ↔ ∃ s', alter s = .error fault s') ∧
    (Act.endState (create {} s)).warnings = (Act.endState (alter s)).warnings ∧
    (∀ statement, (∃ s', create {} s = .ok statement s') ↔
      ∃ declarations, columns.mapM b.platform.declaration = .ok declarations ∧
        statement = "CREATE TABLE " ++ table ++ " (" ++ Text.commaSeparated declarations ++ ")") ∧
    (∀ statements, (∃ s', alter s = .ok statements s') ↔
      ∃ declarations, columns.mapM b.platform.declaration = .ok declarations ∧
        declarations.length = columns.length ∧
        statements =
          declarations.map (fun declaration =>
            .text ("ALTER TABLE " ++ table ++ " ADD " ++ declaration)) ++
          columns.filterMap fun c =>
            c.comment?.map fun comment => .text (Platform.commentOnColumn table c.name comment)) ∧
    (∀ options : TableOptions, options.foreignKeys = .null → columns ≠ [] →
      ∀ statement, (∃ s', create options s = .ok statement s') ↔
        ∃ declarations keyColumns key indexes,
          columns.mapM b.platform.declaration = .ok declarations ∧
          options.primaryKeyColumns = .ok keyColumns ∧ Value.joined keyColumns = .ok key ∧
          options.indexes.mapM Platform.declareIndex = .ok indexes ∧
          statement = "CREATE TABLE " ++ table ++ " (" ++ Text.commaSeparated
            (declarations ++ (if keyColumns.isEmpty then [] else ["PRIMARY KEY(" ++ key ++ ")"]) ++
              indexes) ++ ")") := by
  intro create alter
  have hcreate : create {} s = _ := createTable_eq b.platform table columns rfl s
  have halter : alter s = _ := alterTable_eq perform h rfl
  rw [Platform.createStatement_plain] at hcreate
  refine ⟨fun fault => ?_, ?_, fun statement => ?_, fun statements => ?_, ?_⟩
  · rw [hcreate, halter, conclude_eq_error, conclude_eq_error]
    cases columns.mapM b.platform.declaration <;> simp [Except.map]
  · rw [hcreate, halter, warnings_conclude, warnings_conclude]
  · rw [hcreate, conclude_eq_ok, Checked.map_eq_ok]
    exact exists_congr fun _ => and_congr_right fun _ => eq_comm
  · rw [halter, conclude_eq_ok, Checked.map_eq_ok]
    refine exists_congr fun declarations => and_congr_right fun hd => ?_
    rw [eq_comm, and_iff_right (Checked.length_of_mapM hd)]
    rfl
  · intro options hf hne statement
    have hoptions : create options s = _ := createTable_eq b.platform table columns hf s
    rw [hoptions, conclude_eq_ok]
    exact Platform.createStatement_eq_ok_of_ne_nil hne

/-- A column that has to be quoted, a key that is given twice, and a handler of another event. -/
theorem createTable_alterTable_agree_quoted :
    let b : Builder := ⟨{}, 0⟩
    let s : Session :=
      { registries := [Registry.empty.register (.name "onOther") ⟨0, { id := "h" }⟩] }
    let columns : List Column :=
      [{ name := "order", type := .standard .integer, comment := some "c", quoted := true },
        { name := "value", type := .custom "STRING INDEX OFF" }]
    let options : TableOptions :=
      { primaryKey := .list [.text "value", .text "value"]
        indexes := [⟨"ft", [.text "value"], false⟩] }
    Unhooked b s ∧ options.foreignKeys = .null ∧ columns ≠ [] ∧
    (∃ s', b.platform.createTable (note builderLogger) "t" columns options s =
      .ok ("CREATE TABLE t (\"order\" INT COMMENT 'c', value STRING INDEX OFF, " ++
        "PRIMARY KEY(value), INDEX ft using fulltext (value))") s') ∧
    ∃ s', b.platform.alterTable (host (perform 0) b) { name := "t", added := columns } s =
      .ok [.text "ALTER TABLE t ADD \"order\" INT COMMENT 'c'",
        .text "ALTER TABLE t ADD value STRING INDEX OFF",
        .text "COMMENT ON COLUMN t.order IS 'c'"] s' := by
  intro b s columns options
  have hu : Unhooked b s := ⟨rfl, rfl⟩
  have hd : columns.mapM b.platform.declaration =
      .ok ["\"order\" INT COMMENT 'c'", "value STRING INDEX OFF"] := rfl
  obtain ⟨-, -, -, halter, hcreate⟩ :=
    createTable_alterTable_agree (perform 0) b s hu "t" columns
  refine ⟨hu, rfl, by simp [columns], ?_, ?_⟩
  · exact (hcreate options rfl (by simp [columns]) _).2
      ⟨_, [.text "value"], "value", ["INDEX ft using fulltext (value)"], hd, rfl, rfl, rfl,
        by decide +kernel⟩
  · exact (halter _).2 ⟨_, hd, rfl, rfl⟩

end CrateDdl.Session
