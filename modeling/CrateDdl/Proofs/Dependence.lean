import CrateDdl.Proofs.Refusal
import Mathlib.Data.List.Forall2

/-!
# What the statements depend on

Of a column, the statements show the name, whether it is quoted, the comment and the type clause;
of the capabilities, whether comments stand in declarations. Two lists of columns that are alike in
these (`ShownAlike`) have the same statements, faults and lines (`requests_eq_of_shownAlike`).
-/

set_option autoImplicit false

namespace CrateDdl

/-- The values by which a host can ask for a standard type: the logical type, and the column type
that is made from it or from its name. -/
inductive ColumnType.AskedBy (t : LogicalType) : Value → Prop
  | logical : AskedBy t (.logical t)
  | standard (given : Value) (t' : LogicalType) (hgiven : given = .logical t ∨ given = .text t.name)
      (ht' : LogicalType.ofValue given = .ok t') : AskedBy t (.columnType (.standard t'))

/-- Two columns are alike in all that a statement shows of them. -/
structure Column.ShownAlike (a b : Column) : Prop where
  name : a.name = b.name
  quoted : a.quoted = b.quoted
  comment : a.comment? = b.comment?
  clause : Platform.typeClause a.type = Platform.typeClause b.type

namespace Column

theorem ShownAlike.refl (c : Column) : ShownAlike c c := ⟨rfl, rfl, rfl, rfl⟩

/-- Equal columns have the same type, name, comment and quotes. -/
theorem eq_parts_of_equal {a b : Column} (h : a.equal b = .ok true) :
    a.name = b.name ∧ a.type = b.type ∧ a.comment = b.comment ∧ a.quoted = b.quoted := by
  unfold equal at h
  by_cases hd : (a.name != b.name || a.type != b.type) = true
  · simp [hd, pure, Except.pure] at h
  · simp only [hd] at h
    obtain ⟨length, hl, h⟩ := Checked.bind_eq_ok.1 h
    cases length with
    | false => simp [pure, Except.pure] at h
    | true =>
      obtain ⟨default, hdef, h⟩ := Checked.bind_eq_ok.1 h
      cases default with
      | false => simp [pure, Except.pure] at h
      | true =>
        simp [pure, Except.pure] at h hd
        exact ⟨hd.1, hd.2, h⟩

theorem ShownAlike.of_equal {a b : Column} (h : a.equal b = .ok true) : ShownAlike a b := by
  obtain ⟨hname, htype, hcomment, hquoted⟩ := eq_parts_of_equal h
  exact ⟨hname, hquoted, by rw [comment?, comment?, hcomment], by rw [htype]⟩

/-- A comment that is not there counts as an empty one. -/
theorem comment?_eq_of_getD {a b : Column} (h : a.comment.getD "" = b.comment.getD "") :
    a.comment? = b.comment? := by
  have hcomment? (c : Column) : c.comment? = (some (c.comment.getD "")).filter (!·.isEmpty) := by
    cases hc : c.comment <;> simp [comment?, hc, Option.filter]
  rw [hcomment? a, hcomment? b, h]

/-- A column has the standard type that was asked for, in whichever way. -/
theorem ofParts_of_askedBy {t : LogicalType} {v : Value} (h : ColumnType.AskedBy t v)
    (name : String) (length default : Value) (comment : Option String) (quoted : Bool) :
    ofParts name v length default comment quoted =
      .ok { name, type := .standard t, length, default, comment, quoted } := by
  cases h with
  | logical => rfl
  | standard given t' hgiven ht' =>
    have ht : LogicalType.ofValue given = .ok t := by
      rcases hgiven with rfl | rfl <;>
        simp [LogicalType.ofValue, LogicalType.ofValue?, Value.asText?]
    cases ht.symm.trans ht'
    rfl

theorem forall₂_shownAlike_refl : ∀ columns : List Column, List.Forall₂ ShownAlike columns columns
  | [] => .nil
  | c :: rest => .cons (.refl c) (forall₂_shownAlike_refl rest)

theorem forall₂_shownAlike_replace {c c' : Column} (h : ShownAlike c c') (after : List Column) :
    ∀ before : List Column,
      List.Forall₂ ShownAlike (before ++ c :: after) (before ++ c' :: after)
  | [] => .cons h (forall₂_shownAlike_refl after)
  | d :: before => .cons (.refl d) (forall₂_shownAlike_replace h after before)

end Column

open Column

/-! ## Warnings -/

theorem Note.warnReserved_eq {σ : Type} (note : Note σ) (table : String)
    {columns columns' : List Column} (h : List.Forall₂ ShownAlike columns columns') :
    note.warnReserved table columns = note.warnReserved table columns' := by
  induction h with
  | nil => rfl
  | cons hc _ ih => rw [warnReserved, warnReserved, hc.name, hc.quoted, ih]

namespace Platform

/-! ## Declarations -/

section
variable {p p' : Platform}
  (hp : p.capabilities.inlineColumnComments = p'.capabilities.inlineColumnComments)
include hp

theorem declaration_eq {c c' : Column} (h : ShownAlike c c') :
    p.declaration c = p'.declaration c' := by
  have hname : c.renderedName = c'.renderedName := by
    rw [Column.renderedName, Column.renderedName, h.name, h.quoted]
  have hcomment : p.inlineComment c = p'.inlineComment c' := by
    rw [inlineComment, inlineComment, hp, h.comment]
  rw [declaration, declaration, declareColumn, declareColumn, h.clause, hname, hcomment]

theorem mapM_declaration_eq {columns columns' : List Column}
    (h : List.Forall₂ ShownAlike columns columns') :
    columns.mapM p.declaration = columns'.mapM p'.declaration := by
  induction h with
  | nil => rfl
  | cons hc _ ih => rw [List.mapM_cons, List.mapM_cons, declaration_eq hp hc, ih]

/-! ## Requests -/

theorem createTable_eq_of_shownAlike {σ : Type} (note : Note σ) (table : String)
    {columns columns' : List Column} (h : List.Forall₂ ShownAlike columns columns')
    (options : TableOptions) :
    p.createTable note table columns options = p'.createTable note table columns' options := by
  unfold createTable createStatement declareColumns
  rw [mapM_declaration_eq hp h, note.warnReserved_eq table h]

end

theorem plainStatements_eq (table : String) {columns columns' : List Column}
    (h : List.Forall₂ ShownAlike columns columns') (declarations : List String) :
    plainStatements table columns declarations = plainStatements table columns' declarations := by
  have hcomments : columns.filterMap (commentStatement? table) =
      columns'.filterMap (commentStatement? table) := by
    induction h with
    | nil => rfl
    | cons hc _ ih =>
      rw [List.filterMap_cons, List.filterMap_cons, ih, commentStatement?, commentStatement?,
        hc.comment, hc.name]
  rw [plainStatements, plainStatements, ← map_text_commentStatement, ← map_text_commentStatement,
    hcomments]

end Platform

namespace Session

open Platform

/-- Requests about two lists of columns, by two builders, come to the same: they return the same
statements or fail with the same fault, and leave the same session, with the same lines in it. -/
def RequestsAgree (perform : Step → Act Session Reply) (b b' : Builder) (s : Session)
    (columns columns' : List Column) : Prop :=
  (∀ table options,
    b.platform.createTable (note builderLogger) table columns options s =
      b'.platform.createTable (note builderLogger) table columns' options s) ∧
  (Unhooked b s → Unhooked b' s → ∀ diff : TableDiff,
    b.platform.alterTable (host perform b) { diff with added := columns } s =
      b'.platform.alterTable (host perform b') { diff with added := columns' } s)

theorem requestsAgree_of_shownAlike (perform : Step → Act Session Reply) {b b' : Builder}
    (hp : b.platform.capabilities.inlineColumnComments =
      b'.platform.capabilities.inlineColumnComments)
    {columns columns' : List Column} (h : List.Forall₂ ShownAlike columns columns') (s : Session) :
    RequestsAgree perform b b' s columns columns' := by
  refine ⟨fun table options => ?_, fun hb hb' diff => ?_⟩
  · rw [createTable_eq_of_shownAlike hp (note builderLogger) table h options]
  · cases hu : unsupportedChange? { diff with added := columns } with
    | some operation =>
      have hu' : unsupportedChange? { diff with added := columns' } = some operation := hu
      rw [alterTable_of_unsupported hu, alterTable_of_unsupported hu']
      rfl
    | none =>
      have hu' : unsupportedChange? { diff with added := columns' } = none := hu
      have hstatements : plainStatements diff.name columns = plainStatements diff.name columns' :=
        funext (plainStatements_eq diff.name h)
      rw [alterTable_eq perform hb hu, alterTable_eq perform hb' hu']
      simp only [warned, mapM_declaration_eq hp h, hstatements,
        Note.warnReserved_eq (note builderLogger) diff.name h]

/-- **What the statements depend on.** Builders that agree on whether comments stand in
declarations do the same for columns that agree in name, quotes, comment and type clause, whatever
their lengths and defaults; it makes no difference how a standard type was asked for, and putting an
equal column in the place of another changes nothing. -/
theorem requests_eq_of_shownAlike (perform : Step → Act Session Reply) (b b' : Builder)
    (hp : b.platform.capabilities.inlineColumnComments =
      b'.platform.capabilities.inlineColumnComments) (s : Session) :
    (∀ columns columns',
      List.Forall₂ (fun c c' : Column => c.name = c'.name ∧ c.quoted = c'.quoted ∧
        c.comment.getD "" = c'.comment.getD "" ∧ typeClause c.type = typeClause c'.type)
        columns columns' →
      RequestsAgree perform b b' s columns columns') ∧
    (∀ t v v', ColumnType.AskedBy t v → ColumnType.AskedBy t v' →
      ∀ name length length' default default' comment quoted, ∃ c c',
        Column.ofParts name v length default comment quoted = .ok c ∧
        Column.ofParts name v' length' default' comment quoted = .ok c' ∧
        ∀ before after,
          RequestsAgree perform b b' s (before ++ c :: after) (before ++ c' :: after)) ∧
    (∀ before after c c', c.equal c' = .ok true →
      RequestsAgree perform b b' s (before ++ c :: after) (before ++ c' :: after)) := by
  refine ⟨fun columns columns' h => ?_, ?_, fun before after c c' h => ?_⟩
  · refine requestsAgree_of_shownAlike perform hp (h.imp fun c c' hc => ?_) s
    obtain ⟨hname, hquoted, hcomment, hclause⟩ := hc
    exact ⟨hname, hquoted, comment?_eq_of_getD hcomment, hclause⟩
  · intro t v v' hv hv' name length length' default default' comment quoted
    let column (length default : Value) : Column :=
      { name, type := .standard t, length, default, comment, quoted }
    have halike : ShownAlike (column length default) (column length' default') :=
      ⟨rfl, rfl, rfl, rfl⟩
    exact ⟨_, _, ofParts_of_askedBy hv name length default comment quoted,
      ofParts_of_askedBy hv' name length' default' comment quoted, fun before after =>
        requestsAgree_of_shownAlike perform hp
          (forall₂_shownAlike_replace halike after before) s⟩
  · exact requestsAgree_of_shownAlike perform hp
      (forall₂_shownAlike_replace (.of_equal h) after before) s

/-- Two types with the same keyword, an empty comment and none, and different capabilities. -/
theorem requests_eq_of_same_keyword :
    let b : Builder := ⟨{}, 0⟩
    let b' : Builder := ⟨{ capabilities := { inlineColumnComments := true, sequences := true } }, 1⟩
    let s : Session := { registries := [Registry.empty, Registry.empty] }
    let c : Column :=
      { name := "n", type := .standard .bigint, length := .int 20, comment := some "" }
    let c' : Column := { name := "n", type := .standard .double, default := .text "x" }
    b.platform.capabilities.inlineColumnComments =
      b'.platform.capabilities.inlineColumnComments ∧
    (c.comment.getD "" = c'.comment.getD "" ∧ typeClause c.type = typeClause c'.type) ∧
    RequestsAgree (perform 0) b b' s [c] [c'] := by
  intro b b' s c c'
  have hp : b.platform.capabilities.inlineColumnComments =
      b'.platform.capabilities.inlineColumnComments := rfl
  have hc : c.comment.getD "" = c'.comment.getD "" ∧ typeClause c.type = typeClause c'.type :=
    ⟨rfl, rfl⟩
  exact ⟨hp, hc, (requests_eq_of_shownAlike (perform 0) b b' hp s).1 [c] [c']
    (.cons ⟨rfl, rfl, hc.1, hc.2⟩ .nil)⟩

end Session

end CrateDdl
