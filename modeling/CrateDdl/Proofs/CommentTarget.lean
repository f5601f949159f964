import CrateDdl.Proofs.Unhooked
import Mathlib.Data.List.Forall2

/-!
# The column that a comment statement names

A column is declared under its rendered name, and its comment statement names it as it was given.
The two are the same if and only if the column is not quoted (`renderedName_eq_name_iff`), so the
comment of a quoted column is set on another column, or on none (`comment_names_column_iff`).
-/

set_option autoImplicit false

namespace CrateDdl

/-- The quotes make an identifier longer than the name. -/
theorem Text.identifier_ne (s : String) : Text.identifier s ≠ s := by
  intro h
  have hlen := congrArg (fun t => t.toList.length) h
  simp only [Text.identifier, Text.Quoted.encode, String.toList_ofList, List.length_cons,
    List.length_append, List.length_nil, Text.Quoted.length_double] at hlen
  omega

theorem Column.renderedName_eq_name_iff (c : Column) :
    c.renderedName = c.name ↔ c.quoted = false := by
  unfold Column.renderedName CrateDdl.renderedName
  cases c.quoted with
  | false => simp
  | true => simpa using Text.identifier_ne c.name

theorem Checked.forall₂_of_mapM {α β : Type} {f : α → Except Fault β} :
    ∀ {as : List α} {bs : List β}, as.mapM f = .ok bs → List.Forall₂ (fun a b => f a = .ok b) as bs
  | [], _, h => by cases h; exact .nil
  | _ :: _, _, h => by
    obtain ⟨_, _, ha, has, rfl⟩ := mapM_cons_eq_ok.1 h
    exact .cons ha (forall₂_of_mapM has)

namespace Platform

/-- The statement declares the column, under its rendered name. -/
def Adds (table : String) (c : Column) (statement : String) : Prop :=
  ∃ clause, statement = "ALTER TABLE " ++ table ++ " ADD " ++ c.renderedName ++ " " ++ clause

/-- The statement sets the comment of the column, and names it by a given name. -/
def SetsComment (table name : String) (c : Column) (statement : String) : Prop :=
  ∃ comment, c.comment? = some comment ∧
    statement = "COMMENT ON COLUMN " ++ table ++ "." ++ name ++ " IS " ++
      Text.stringLiteral comment

theorem adds_declaration {p : Platform} {c : Column} {declaration : String}
    (h : p.declaration c = .ok declaration) (table : String) :
    Adds table c ("ALTER TABLE " ++ table ++ " ADD " ++ declaration) := by
  obtain ⟨clause, -, rfl⟩ := Checked.map_eq_ok.1 h
  exact ⟨clause ++ p.inlineComment c, by simp only [String.append_assoc]⟩

/-- Two names in a comment statement make the same statement if they are the same. -/
theorem SetsComment.iff_name_eq {table name other : String} {c : Column} {statement : String}
    (h : SetsComment table name c statement) :
    SetsComment table other c statement ↔ other = name := by
  obtain ⟨comment, hc, rfl⟩ := h
  refine ⟨fun h' => ?_, fun heq => heq ▸ ⟨comment, hc, rfl⟩⟩
  obtain ⟨comment', hc', heq⟩ := h'
  cases hc.symm.trans hc'
  rw [String.append_left_inj, String.append_left_inj, String.append_right_inj] at heq
  exact heq.symm

/-- The comment statements are those of the columns with a comment, in order. -/
theorem forall₂_commentStatement (table : String) : ∀ columns : List Column,
    List.Forall₂ (fun c statement => SetsComment table c.name c statement)
      (columns.filter (·.comment?.isSome)) (columns.filterMap (commentStatement? table))
  | [] => .nil
  | c :: columns => by
    have ih := forall₂_commentStatement table columns
    cases hc : c.comment? with
    | none => simpa [commentStatement?, hc] using ih
    | some comment =>
      have hs : commentStatement? table c = some (commentOnColumn table c.name comment) := by
        simp [commentStatement?, hc]
      rw [List.filter_cons_of_pos (by simp [hc]), List.filterMap_cons_some hs]
      exact .cons ⟨comment, hc, rfl⟩ ih

end Platform

namespace Session

open Platform

/-- **Which column a comment is set on.** Without handlers, an alteration that returns has one
statement for each column, which declares its rendered name, and then one for each comment, which
names the column as it was given; that is the rendered name if and only if it is not quoted. -/
theorem comment_names_column_iff (perform : Step → Act Session Reply) (b : Builder) (s s' : Session)
    (h : Unhooked b s) (diff : TableDiff) (hu : unsupportedChange? diff = none)
    (statements : List Value)
    (hrun : b.platform.alterTable (host perform b) diff s = .ok statements s') :
    ∃ additions comments : List String,
      statements = additions.map .text ++ comments.map .text ∧
      List.Forall₂ (Adds diff.name) diff.added additions ∧
      List.Forall₂ (fun c statement => SetsComment diff.name c.name c statement ∧
          (SetsComment diff.name c.renderedName c statement ↔ c.quoted = false))
        (diff.added.filter (·.comment?.isSome)) comments := by
  rw [alterTable_eq perform h hu] at hrun
  obtain ⟨declarations, hd, rfl⟩ := Checked.map_eq_ok.1 (conclude_eq_ok.1 ⟨s', hrun⟩)
  refine ⟨declarations.map ("ALTER TABLE " ++ diff.name ++ " ADD " ++ ·),
    diff.added.filterMap (commentStatement? diff.name), ?_, ?_, ?_⟩
  · rw [map_text_commentStatement, List.map_map]
    rfl
  · rw [List.forall₂_map_right_iff]
    exact (Checked.forall₂_of_mapM hd).imp fun _ _ hc => adds_declaration hc diff.name
  · refine (forall₂_commentStatement diff.name diff.added).imp fun c statement hc => ⟨hc, ?_⟩
    rw [hc.iff_name_eq, c.renderedName_eq_name_iff]

/-- A quoted column and one that is not, each with a comment. -/
theorem comment_names_column_of_two :
    let b : Builder := ⟨{}, 0⟩
    let s : Session := { registries := [Registry.empty] }
    let order : Column :=
      { name := "order", type := .standard .integer, comment := some "c", quoted := true }
    let value : Column := { name := "value", type := .custom "STRING", comment := some "it's" }
    let diff : TableDiff := { name := "t", added := [order, value] }
    let statements : List Value :=
      [.text "ALTER TABLE t ADD \"order\" INT COMMENT 'c'",
        .text "ALTER TABLE t ADD value STRING COMMENT 'it's'",
        .text "COMMENT ON COLUMN t.order IS 'c'",
        .text "COMMENT ON COLUMN t.value IS 'it''s'"]
    Unhooked b s ∧ unsupportedChange? diff = none ∧
    (∃ s', b.platform.alterTable (host (perform 0) b) diff s = .ok statements s') ∧
    ∃ additions comments : List String,
      statements = additions.map .text ++ comments.map .text ∧
      List.Forall₂ (Adds "t") [order, value] additions ∧
      List.Forall₂ (fun c statement => SetsComment "t" c.name c statement ∧
          (SetsComment "t" c.renderedName c statement ↔ c.quoted = false))
        [order, value] comments := by
  intro b s order value diff statements
  have hu : Unhooked b s := ⟨rfl, rfl⟩
  have hd : [order, value].mapM b.platform.declaration =
      .ok ["\"order\" INT COMMENT 'c'", "value STRING COMMENT 'it's'"] := by
    dsimp only [order, value, b]
    rfl
  have hrun : ∃ s', b.platform.alterTable (host (perform 0) b) diff s = .ok statements s' := by
    rw [alterTable_eq (perform 0) hu rfl, conclude_eq_ok]
    exact Checked.map_eq_ok.2 ⟨_, hd, rfl⟩
  obtain ⟨s', h⟩ := hrun
  exact ⟨hu, rfl, ⟨s', h⟩, comment_names_column_iff (perform 0) b s s' hu diff rfl statements h⟩

/-- The comment of a column that has to be quoted is set on a column without quotes. -/
theorem comment_of_quoted_names_other :
    let b : Builder := ⟨{}, 0⟩
    let s : Session := { registries := [Registry.empty] }
    let order : Column :=
      { name := "order", type := .standard .integer, comment := some "c", quoted := true }
    let diff : TableDiff := { name := "t", added := [order] }
    Unhooked b s ∧ unsupportedChange? diff = none ∧
    (∃ s', b.platform.alterTable (host (perform 0) b) diff s =
      .ok [.text "ALTER TABLE t ADD \"order\" INT COMMENT 'c'",
        .text "COMMENT ON COLUMN t.order IS 'c'"] s') ∧
    order.renderedName = "\"order\"" ∧
    SetsComment "t" "order" order "COMMENT ON COLUMN t.order IS 'c'" ∧
    ¬ SetsComment "t" order.renderedName order "COMMENT ON COLUMN t.order IS 'c'" := by
  intro b s order diff
  have hu : Unhooked b s := ⟨rfl, rfl⟩
  have hd : [order].mapM b.platform.declaration = .ok ["\"order\" INT COMMENT 'c'"] := by
    dsimp only [order, b]
    rfl
  have hname : SetsComment "t" "order" order "COMMENT ON COLUMN t.order IS 'c'" :=
    ⟨"c", rfl, by decide +kernel⟩
  refine ⟨hu, rfl, ?_, by decide +kernel, hname, fun h => ?_⟩
  · rw [alterTable_eq (perform 0) hu rfl, conclude_eq_ok]
    exact Checked.map_eq_ok.2 ⟨_, hd, rfl⟩
  · have hplain : order.quoted = false := order.renderedName_eq_name_iff.1 (hname.iff_name_eq.1 h)
    cases hplain

end Session

end CrateDdl
