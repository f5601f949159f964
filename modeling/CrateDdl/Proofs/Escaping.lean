import CrateDdl.Proofs.Refusal

/-!
# Escaping

A quoted identifier and the literal of a comment statement read back as the text they were made of,
whatever characters it has and whatever comes behind (`escaped_reads_back`): what the scan reads is
what the encoder writes (`Text.Quoted.scan_eq_some_iff`), so nothing in a text can end its token.

The comment inside a declaration is not escaped. It is the same literal as that of the statement,
and it reads back, for the comments without a quote and for no others (`inlineComment_sound_iff`).
-/

set_option autoImplicit false

namespace CrateDdl

open Text.Quoted (scan encode)

namespace Text

/-- The text between single quotes, as it is. -/
def bareLiteral (s : String) : String := "'" ++ s ++ "'"

theorem toList_identifier (s : String) : (identifier s).toList = encode '"' s.toList := by
  simp [identifier]

theorem toList_stringLiteral (s : String) :
    (stringLiteral s).toList = encode '\x27' s.toList := by
  simp [stringLiteral]

theorem identifier_inj {s t : String} : identifier s = identifier t ↔ s = t := by
  rw [← String.toList_inj, toList_identifier, toList_identifier, Quoted.encode_inj,
    String.toList_inj]

theorem stringLiteral_inj {s t : String} : stringLiteral s = stringLiteral t ↔ s = t := by
  rw [← String.toList_inj, toList_stringLiteral, toList_stringLiteral, Quoted.encode_inj,
    String.toList_inj]

theorem scan_identifier {s rest : String} (h : rest.toList.head? ≠ some '"') :
    scan '"' (identifier s ++ rest).toList = some (s.toList, rest.toList) := by
  rw [String.toList_append, toList_identifier]
  exact Quoted.scan_encode '"' s.toList rest.toList h

theorem scan_eq_whole_iff (literal s : String) :
    scan '\x27' literal.toList = some (s.toList, []) ↔ literal = stringLiteral s := by
  rw [Quoted.scan_eq_some_iff, List.append_nil, ← toList_stringLiteral, String.toList_inj]
  simp

/-- A text between quotes is its literal if and only if it has no quote. -/
theorem bareLiteral_eq_iff (s : String) :
    bareLiteral s = stringLiteral s ↔ '\x27' ∉ s.toList := by
  have hbare : (bareLiteral s).toList = '\x27' :: (s.toList ++ ['\x27']) := by
    rw [bareLiteral, String.toList_append, String.toList_append]
    rfl
  rw [← String.toList_inj, hbare, toList_stringLiteral, encode, List.cons_inj_right,
    List.append_cancel_right_eq, eq_comm, Quoted.double_eq_self_iff]

end Text

namespace Platform

/-! ## Escaped texts -/

/-- **Escaping loses nothing and cannot be broken out of.** A quoted name reads back, and the scan
stops in front of whatever follows it; what stands behind the prefix of a comment statement is one
literal, which reads back as the comment. So different texts are escaped differently. -/
theorem escaped_reads_back (name table column comment : String) :
    (∀ rest : String, rest.toList.head? ≠ some '"' →
      scan '"' (quoteIdentifier name ++ rest).toList = some (name.toList, rest.toList)) ∧
    (∃ literal, commentOnColumn table column comment =
        "COMMENT ON COLUMN " ++ table ++ "." ++ column ++ " IS " ++ literal ∧
      scan '\x27' literal.toList = some (comment.toList, [])) ∧
    (∀ other, quoteIdentifier name = quoteIdentifier other → name = other) ∧
    (∀ other, commentOnColumn table column comment = commentOnColumn table column other →
      comment = other) := by
  refine ⟨fun rest hrest => Text.scan_identifier hrest, ?_, fun other h => ?_, fun other h => ?_⟩
  · exact ⟨Text.stringLiteral comment, rfl, (Text.scan_eq_whole_iff _ comment).2 rfl⟩
  · exact Text.identifier_inj.1 h
  · exact Text.stringLiteral_inj.1 ((String.append_right_inj _).1 h)

/-- A name and a comment with runs of quotes at their ends. -/
theorem escaped_reads_back_of_runs :
    ".x".toList.head? ≠ some '"' ∧
    scan '"' "\"\"\"\"\"a\"\"\".x".toList = some ("\"\"a\"".toList, ".x".toList) ∧
    ∃ literal, "COMMENT ON COLUMN t.c IS ''''''" = "COMMENT ON COLUMN t.c IS " ++ literal ∧
      scan '\x27' literal.toList = some ("''".toList, []) := by
  have hrest : ".x".toList.head? ≠ some '"' := by decide
  obtain ⟨hname, ⟨literal, hstatement, hscan⟩, -, -⟩ := escaped_reads_back "\"\"a\"" "t" "c" "''"
  exact ⟨hrest, hname ".x" hrest, literal, hstatement, hscan⟩

/-! ## Comments inside declarations -/

variable {p : Platform} {c : Column} {comment : String}

theorem typeClause_returns (h : ¬ IsBlob c) : ∃ clause, typeClause c.type = .ok clause := by
  cases hclause : typeClause c.type with
  | error fault => exact absurd (typeClause_eq_error.1 hclause).1 h
  | ok clause => exact ⟨clause, rfl⟩

theorem comment?_of_ne_empty (hc : c.comment = some comment) (hne : comment ≠ "") :
    c.comment? = some comment := by
  simp [Column.comment?, hc, hne]

theorem declareColumn_of_comment (hp : p.capabilities.inlineColumnComments = true)
    (hc : c.comment? = some comment) {clause : String} (hclause : typeClause c.type = .ok clause)
    (name : String) :
    p.declareColumn name c =
      .ok (name ++ " " ++ clause ++ " COMMENT " ++ Text.bareLiteral comment) := by
  have hinline : p.inlineComment c = " COMMENT " ++ Text.bareLiteral comment := by
    have hmark : " COMMENT '" = " COMMENT " ++ "'" := rfl
    simp only [inlineComment, hp, hc, ↓reduceIte, hmark, Text.bareLiteral, String.append_assoc]
  simp only [declareColumn, hclause, hinline, Except.map, String.append_assoc]

/-- In an alteration whose table no hook takes over, a column that no hook takes over has its
declaration and its comment among the statements. -/
theorem mem_statements_of_leftAlone {σ : Type} {host : Host σ} {diff : TableDiff}
    {outcomes : List (Option (List Value))} {s s₁ s₂ s' : σ} {statements : List Value}
    (hwarn : host.note.warnReserved diff.name diff.added s = .ok () s₁)
    (hevents : Act.InTurn (fun event => host.dispatch event.1 event.2) (p.events diff) s₁
      (outcomes ++ [none]) s₂)
    (hrun : p.alterTable host diff s = .ok statements s')
    (halone : c ∈ leftAlone diff.added outcomes)
    {declaration : String} (hd : p.declaration c = .ok declaration)
    (hc : c.comment? = some comment) :
    .text ("ALTER TABLE " ++ diff.name ++ " ADD " ++ declaration) ∈ statements ∧
      .text (commentOnColumn diff.name c.name comment) ∈ statements := by
  obtain ⟨-, outcomes', outcome, declarations, t₁, t₂, hwarn', hevents', hds, rfl, -⟩ :=
    alterTable_eq_ok.1 hrun
  -- the run has the outcomes of the given events: the hooks answer each of them in one way only
  cases hwarn.symm.trans hwarn'
  obtain ⟨houtcomes, -⟩ := hevents.unique hevents'
  obtain ⟨rfl, hnone⟩ := List.append_inj' houtcomes rfl
  cases hnone
  have hmem : declaration ∈ declarations := Checked.mem_of_mem_mapM hd hds halone
  rw [statements_extend]
  refine ⟨?_, ?_⟩
  · refine List.mem_append_left _ (List.mem_append_left _ ?_)
    exact List.mem_map_of_mem hmem
  · refine List.mem_append_left _ (List.mem_append_right _ ?_)
    exact List.mem_filterMap.2 ⟨c, halone, by rw [hc]; rfl⟩

/-- **When an inline comment is sound.** A declaration has its comment between quotes. That is the
literal of the comment statement, and it reads back as the comment, if and only if the comment has
no quote. Both stand in the answer of an alteration in which no hook takes over the column or the
table. -/
theorem inlineComment_sound_iff (hp : p.capabilities.inlineColumnComments = true)
    (hblob : ¬ IsBlob c) (hc : c.comment = some comment) (hne : comment ≠ "") :
    ∃ clause shown literal : String, typeClause c.type = .ok clause ∧
      (∀ name, p.declareColumn name c = .ok (name ++ " " ++ clause ++ " COMMENT " ++ shown)) ∧
      (∀ table column, commentOnColumn table column comment =
        "COMMENT ON COLUMN " ++ table ++ "." ++ column ++ " IS " ++ literal) ∧
      (shown = literal ↔ '\x27' ∉ comment.toList) ∧
      (scan '\x27' shown.toList = some (comment.toList, []) ↔ '\x27' ∉ comment.toList) ∧
      ∀ (σ : Type) (host : Host σ) (diff : TableDiff) (outcomes : List (Option (List Value)))
        (s s₁ s₂ s' : σ) (statements : List Value),
        host.note.warnReserved diff.name diff.added s = .ok () s₁ →
        Act.InTurn (fun event => host.dispatch event.1 event.2) (p.events diff) s₁
          (outcomes ++ [none]) s₂ →
        p.alterTable host diff s = .ok statements s' → c ∈ leftAlone diff.added outcomes →
        .text ("ALTER TABLE " ++ diff.name ++ " ADD " ++
          (c.renderedName ++ " " ++ clause ++ " COMMENT " ++ shown)) ∈ statements ∧
        .text ("COMMENT ON COLUMN " ++ diff.name ++ "." ++ c.name ++ " IS " ++ literal) ∈
          statements := by
  obtain ⟨clause, hclause⟩ := typeClause_returns hblob
  have hcomment := comment?_of_ne_empty hc hne
  have hdeclared := declareColumn_of_comment hp hcomment hclause
  refine ⟨clause, Text.bareLiteral comment, Text.stringLiteral comment, hclause, hdeclared,
    fun _ _ => rfl, Text.bareLiteral_eq_iff comment, ?_, ?_⟩
  · rw [Text.scan_eq_whole_iff, Text.bareLiteral_eq_iff]
  · intro σ host diff outcomes s s₁ s₂ s' statements hwarn hevents hrun halone
    exact mem_statements_of_leftAlone hwarn hevents hrun halone (hdeclared c.renderedName) hcomment

/-- A comment in which a quote is written twice already: between quotes it is a literal, but that of
another text. -/
theorem inlineComment_sound_iff_of_doubled :
    let p : Platform := {}
    let c : Column := { name := "note", type := .standard .text, comment := some "it''s" }
    let diff : TableDiff := { name := "t", added := [c] }
    let host : Host Unit := ⟨fun _ _ => pure (), fun _ _ => pure none⟩
    let statements : List Value :=
      [.text "ALTER TABLE t ADD note STRING COMMENT 'it''s'",
        .text "COMMENT ON COLUMN t.note IS 'it''''s'"]
    p.capabilities.inlineColumnComments = true ∧ ¬ IsBlob c ∧ "it''s" ≠ "" ∧
    host.note.warnReserved "t" [c] () = .ok () () ∧
    Act.InTurn (fun event => host.dispatch event.1 event.2) (p.events diff) () [none, none] () ∧
    p.alterTable host diff () = .ok statements () ∧
    scan '\x27' "'it''s'".toList = some ("it's".toList, []) ∧
    scan '\x27' "'it''s'".toList ≠ some ("it''s".toList, []) ∧
    ∃ shown literal,
      .text ("ALTER TABLE t ADD note STRING COMMENT " ++ shown) ∈ statements ∧
      .text ("COMMENT ON COLUMN t.note IS " ++ literal) ∈ statements ∧ shown ≠ literal := by
  intro p c diff host statements
  have hp : p.capabilities.inlineColumnComments = true := rfl
  have hblob : ¬ IsBlob c := fun h => by cases h
  have hne : "it''s" ≠ "" := by decide
  have hquote : ¬ '\x27' ∉ "it''s".toList := by decide
  have hwarn : host.note.warnReserved "t" [c] () = .ok () () := by
    unfold Note.warnReserved
    split <;> rfl
  have hevents : Act.InTurn (fun event => host.dispatch event.1 event.2) (p.events diff) ()
      ([none] ++ [none]) () := .cons rfl (.cons rfl (.nil ()))
  have hrun : p.alterTable host diff () = .ok statements () :=
    alterTable_eq_ok.2 ⟨rfl, [none], none, ["note STRING COMMENT 'it''s'"], (), (), hwarn, hevents,
      rfl, rfl, rfl⟩
  obtain ⟨clause, shown, literal, hclause, hdeclared, -, hsame, hscan, halter⟩ :=
    inlineComment_sound_iff hp hblob (rfl : c.comment = some "it''s") hne
  cases hclause
  have hshown : shown = "'it''s'" := by
    have hdeclaration : p.declareColumn "x" c = .ok ("x STRING COMMENT " ++ "'it''s'") := rfl
    exact (String.append_right_inj "x STRING COMMENT ").1
      (Except.ok.inj ((hdeclared "x").symm.trans hdeclaration))
  subst hshown
  obtain ⟨hadd, hcomment⟩ :=
    halter Unit host diff [none] () () () () statements hwarn hevents hrun List.mem_cons_self
  refine ⟨hp, hblob, hne, hwarn, hevents, hrun, by decide, fun h => hquote (hscan.1 h),
    _, literal, hadd, hcomment, fun h => hquote (hsame.1 h)⟩

end Platform

end CrateDdl
