import CrateDdl.Proofs.Clauses
import Mathlib.Data.List.Basic

/-!
# Reading declarations back

A list of declarations can be read back if the names in it are quoted, the types are keywords and no
comment has a quote in it (`Column.Readable`): `Declared.ofText?` scans a name up to its closing
quote, then a keyword up to the first character that is no capital letter, then a comment up to its
closing quote, and what follows a declaration is a comma or nothing. So whatever names and comments
imitate, a list of declarations tells the names, the keywords and the comments of the columns
(`declareColumns_readable`).
-/

set_option autoImplicit false

namespace CrateDdl

theorem Text.Quoted.length_of_scan {q : Char} {s t r : List Char} (h : scan q s = some (t, r)) :
    r.length < s.length := by
  obtain ⟨rfl, -⟩ := scan_eq_some_iff.1 h
  simp [encode]
  omega

/-! ## The reader -/

open Text (Quoted.scan Quoted.encode)

/-- What a declaration says of a column. -/
structure Declared where
  name : String
  keyword : String
  comment : Option String
deriving DecidableEq, Repr

namespace Declared

/-- What the declaration of a column has to say. -/
def ofColumn (c : Column) : Except Fault Declared :=
  (Platform.typeClause c.type).map fun keyword => ⟨c.name, keyword, c.comment?⟩

/-- What stands between a keyword and the literal of a comment. -/
def commentMark : List Char := " COMMENT ".toList

/-- Reads a comment, if one comes next. -/
def readComment (text : List Char) : Option (Option String × List Char) :=
  match text.dropPrefix? commentMark with
  | some rest => (Quoted.scan '\x27' rest).map fun (comment, rest) => (some (.ofList comment), rest)
  | none => some (none, text)

/-- Reads one declaration: what it says, and what follows it. -/
def read? (text : List Char) : Option (Declared × List Char) := do
  let (name, rest) ← Quoted.scan '"' text
  let rest ← rest.dropPrefix? [' ']
  let (comment, behind) ← readComment (rest.dropWhile Char.isUpper)
  return (⟨.ofList name, .ofList (rest.takeWhile Char.isUpper), comment⟩, behind)

theorem length_of_readComment {text rest : List Char} {comment : Option String}
    (h : readComment text = some (comment, rest)) : rest.length ≤ text.length := by
  unfold readComment at h
  cases hmark : text.dropPrefix? commentMark with
  | none =>
    rw [hmark] at h
    cases h
    exact Nat.le_refl _
  | some behind =>
    rw [hmark] at h
    obtain ⟨⟨literal, rest'⟩, hscan, he⟩ := Option.map_eq_some_iff.1 h
    cases he
    obtain ⟨mark, rfl, -⟩ := List.dropPrefix?_eq_some_iff.1 hmark
    have := Text.Quoted.length_of_scan hscan
    rw [List.length_append]
    omega

/-- Reading a declaration leaves less to be read. -/
theorem length_of_read? {text rest : List Char} {d : Declared} (h : read? text = some (d, rest)) :
    rest.length < text.length := by
  obtain ⟨⟨name, behind⟩, hname, h⟩ := Option.bind_eq_some_iff.1 h
  obtain ⟨clause, hspace, h⟩ := Option.bind_eq_some_iff.1 h
  obtain ⟨⟨comment, later⟩, hcomment, he⟩ := Option.bind_eq_some_iff.1 h
  cases he
  obtain ⟨space, rfl, -⟩ := List.dropPrefix?_eq_some_iff.1 hspace
  have hscan := Text.Quoted.length_of_scan hname
  have hrest := length_of_readComment hcomment
  have hclause := (List.dropWhile_suffix Char.isUpper (l := clause)).length_le
  rw [List.length_append] at hscan
  omega

/-- Reads declarations with a comma and a space between each two. -/
def readAll (text : List Char) : Option (List Declared) :=
  match _hfirst : read? text with
  | none => none
  | some (first, rest) =>
    if rest = [] then some [first]
    else
      match _hcomma : rest.dropPrefix? [',', ' '] with
      | none => none
      | some later => (readAll later).map (first :: ·)
termination_by text.length
decreasing_by
  have hfirst := length_of_read? _hfirst
  obtain ⟨comma, rfl, -⟩ := List.dropPrefix?_eq_some_iff.1 _hcomma
  rw [List.length_append] at hfirst
  omega

/-- What a list of declarations says of its columns. -/
def ofText? (text : String) : Option (List Declared) :=
  if text.isEmpty then some [] else readAll text.toList

/-! ## What the reader makes of a text that was written -/

/-- A comment behind a keyword. -/
def writtenComment : Option String → List Char
  | none => []
  | some comment => commentMark ++ Quoted.encode '\x27' comment.toList

/-- The declaration that says all this. -/
def written (d : Declared) : List Char :=
  Quoted.encode '"' d.name.toList ++ ' ' :: (d.keyword.toList ++ writtenComment d.comment)

/-- Declarations, each behind a comma. -/
def following (ds : List Declared) : List Char := ds.flatMap fun d => ',' :: ' ' :: d.written

/-- What may come behind a declaration: a comma or nothing. -/
def Ends (rest : List Char) : Prop := ∀ c ∈ rest.head?, c = ','

theorem ends_nil : Ends [] := by simp [Ends]

theorem ends_cons (rest : List Char) : Ends (',' :: rest) := by simp [Ends]

theorem ends_following : ∀ ds : List Declared, Ends (following ds)
  | [] => ends_nil
  | d :: ds => ends_cons (' ' :: d.written ++ following ds)

variable {rest : List Char}

theorem Ends.head?_ne (h : Ends rest) {c : Char} (hc : c ≠ ',') : rest.head? ≠ some c :=
  fun hrest => hc (h c hrest)

theorem dropPrefix?_self (mark rest : List Char) : (mark ++ rest).dropPrefix? mark = some rest :=
  List.dropPrefix?_append_of_beq rest (beq_self_eq_true mark)

theorem readComment_written (h : Ends rest) (comment : Option String) :
    readComment (writtenComment comment ++ rest) = some (comment, rest) := by
  unfold readComment
  cases comment with
  | some comment =>
    rw [writtenComment, List.append_assoc, dropPrefix?_self]
    show (Quoted.scan '\x27' _).map _ = _
    rw [Text.Quoted.scan_encode _ _ _ (h.head?_ne (by decide))]
    simp
  | none =>
    have hmark : rest.dropPrefix? commentMark = none := by
      cases rest with
      | nil => rfl
      | cons c rest =>
        obtain rfl := h c rfl
        rfl
    rw [writtenComment, List.nil_append, hmark]

/-- No keyword goes on into a comment, or into what comes behind a declaration. -/
theorem keyword_ends (h : Ends rest) (comment : Option String) :
    (writtenComment comment ++ rest).takeWhile Char.isUpper = [] ∧
      (writtenComment comment ++ rest).dropWhile Char.isUpper = writtenComment comment ++ rest := by
  cases comment with
  | some comment => exact ⟨rfl, rfl⟩
  | none =>
    cases rest with
    | nil => exact ⟨rfl, rfl⟩
    | cons c rest =>
      obtain rfl := h c rfl
      exact ⟨rfl, rfl⟩

/-- A declaration reads back, and the reader stops right behind it. -/
theorem read?_written {d : Declared} (hd : ∀ c ∈ d.keyword.toList, c.isUpper) (h : Ends rest) :
    read? (d.written ++ rest) = some (d, rest) := by
  have hname : Quoted.scan '"' (d.written ++ rest) = some (d.name.toList,
      [' '] ++ (d.keyword.toList ++ (writtenComment d.comment ++ rest))) := by
    rw [written, List.append_assoc, Text.Quoted.scan_encode _ _ _ (by simp)]
    simp
  obtain ⟨htake, hdrop⟩ := keyword_ends h d.comment
  unfold read?
  rw [hname]
  simp only [Option.bind_eq_bind, Option.bind_some, dropPrefix?_self,
    List.takeWhile_append_of_pos hd, List.dropWhile_append_of_pos hd, htake, hdrop,
    readComment_written h, List.append_nil, String.ofList_toList]
  rfl

theorem readAll_last {text : List Char} {d : Declared} (h : read? text = some (d, [])) :
    readAll text = some [d] := by
  rw [readAll]
  split
  next hnone =>
    rw [h] at hnone
    cases hnone
  next hfirst =>
    rw [h] at hfirst
    cases hfirst
    rfl

theorem readAll_more {text rest later : List Char} {d : Declared}
    (h : read? text = some (d, rest)) (hcomma : rest.dropPrefix? [',', ' '] = some later) :
    readAll text = (readAll later).map (d :: ·) := by
  have hne : rest ≠ [] := by
    rintro rfl
    cases hcomma
  rw [readAll]
  split
  next hnone =>
    rw [h] at hnone
    cases hnone
  next hfirst =>
    rw [h] at hfirst
    cases hfirst
    rw [if_neg hne]
    split
    next hnone =>
      rw [hcomma] at hnone
      cases hnone
    next hsome =>
      rw [hcomma] at hsome
      cases hsome
      rfl

theorem readAll_written : ∀ {ds : List Declared} {d : Declared},
    (∀ e ∈ d :: ds, ∀ c ∈ e.keyword.toList, c.isUpper) →
      readAll (d.written ++ following ds) = some (d :: ds)
  | [], d, h => readAll_last (read?_written (h d List.mem_cons_self) ends_nil)
  | e :: ds, d, h => by
    obtain ⟨hd, hds⟩ := List.forall_mem_cons.1 h
    have hcomma : (following (e :: ds)).dropPrefix? [',', ' '] = some (e.written ++ following ds) :=
      dropPrefix?_self [',', ' '] _
    rw [readAll_more (read?_written hd (ends_following (e :: ds))) hcomma, readAll_written hds]
    rfl

theorem continued_toList (ds : List Declared) :
    (Text.continued (ds.map fun d => .ofList d.written)).toList = following ds := by
  induction ds with
  | nil => rfl
  | cons d ds ih =>
    rw [List.map_cons, Text.continued_cons, String.toList_append, ih]
    simp [following]

/-- A list of declarations whose keywords are capital letters reads back as it is. -/
theorem ofText?_commaSeparated {ds : List Declared}
    (h : ∀ d ∈ ds, ∀ c ∈ d.keyword.toList, c.isUpper) :
    ofText? (Text.commaSeparated (ds.map fun d => .ofList d.written)) = some ds := by
  cases ds with
  | nil => rfl
  | cons d ds =>
    have htext : (Text.commaSeparated ((d :: ds).map fun d => .ofList d.written)).toList =
        d.written ++ following ds := by
      rw [List.map_cons, Text.commaSeparated_cons, String.toList_append, String.toList_ofList,
        continued_toList]
    have hne : ¬ (Text.commaSeparated ((d :: ds).map fun d => .ofList d.written)).isEmpty := by
      rw [String.isEmpty_iff, ← String.toList_eq_nil_iff, htext]
      simp [written, Quoted.encode]
    rw [ofText?, if_neg hne, htext, readAll_written h]

end Declared

/-! ## Columns -/

/-- A quoted column of a logical type that can be declared, without a quote in its comment. -/
structure Column.Readable (c : Column) : Prop where
  quoted : c.quoted = true
  standard : ∃ t, c.type = .standard t ∧ t ≠ .blob
  comment : ∀ comment, c.comment = some comment → '\x27' ∉ comment.toList

namespace Declared

variable {c : Column} {d : Declared}

theorem ofColumn_eq_ok :
    ofColumn c = .ok d ↔
      Platform.typeClause c.type = .ok d.keyword ∧ c.name = d.name ∧ c.comment? = d.comment := by
  rw [ofColumn, Checked.map_eq_ok]
  refine ⟨?_, fun ⟨hkeyword, hname, hcomment⟩ => ⟨d.keyword, hkeyword, ?_⟩⟩
  · rintro ⟨keyword, hkeyword, rfl⟩
    exact ⟨hkeyword, rfl, rfl⟩
  · rw [hname, hcomment]

theorem isUpper_of_typeDeclaration {t : LogicalType} {keyword : String}
    (h : Platform.typeDeclaration t = .ok keyword) : ∀ c ∈ keyword.toList, c.isUpper := by
  have hall : keyword.toList.all Char.isUpper = true := by
    cases t <;> cases h <;> rfl
  exact List.all_eq_true.1 hall

theorem isUpper_of_ofColumn (hc : c.Readable) (h : ofColumn c = .ok d) :
    ∀ x ∈ d.keyword.toList, x.isUpper := by
  obtain ⟨t, ht, -⟩ := hc.standard
  have hkeyword := (ofColumn_eq_ok.1 h).1
  rw [ht] at hkeyword
  exact isUpper_of_typeDeclaration hkeyword

theorem ofColumn_returns (hc : c.Readable) : ∃ d, ofColumn c = .ok d := by
  obtain ⟨t, ht, hblob⟩ := hc.standard
  rw [ofColumn, ht]
  cases t with
  | blob => exact absurd rfl hblob
  | _ => exact ⟨_, rfl⟩

end Declared

namespace Platform

variable {p : Platform} {c : Column}

theorem inlineComment_toList (hp : p.capabilities.inlineColumnComments = true)
    (hc : c.Readable) : (p.inlineComment c).toList = Declared.writtenComment c.comment? := by
  unfold inlineComment
  rw [if_pos hp]
  cases hcomment : c.comment? with
  | none => rfl
  | some comment =>
    unfold Column.comment? at hcomment
    have hquote := hc.comment comment (Option.filter_eq_some_iff.1 hcomment).1
    have hopening : " COMMENT '".toList = Declared.commentMark ++ ['\x27'] := rfl
    rw [Declared.writtenComment, Quoted.encode, Text.Quoted.double_eq_self_iff.2 hquote,
      String.toList_append, String.toList_append, hopening]
    simp only [List.append_assoc, List.singleton_append]
    rfl

/-- The declaration of a column says what is to be said of it. -/
theorem declaration_of_readable (hp : p.capabilities.inlineColumnComments = true)
    (hc : c.Readable) :
    p.declaration c = (Declared.ofColumn c).map fun d => .ofList d.written := by
  have hname : c.renderedName = Text.identifier c.name := if_pos hc.quoted
  unfold declaration declareColumn Declared.ofColumn
  cases typeClause c.type with
  | error fault => rfl
  | ok keyword =>
    refine congrArg Except.ok (String.toList_inj.1 ?_)
    rw [hname, Text.identifier, String.toList_ofList, String.toList_append, String.toList_append,
      String.toList_append, inlineComment_toList hp hc, String.toList_ofList]
    exact List.append_assoc _ [' '] _

theorem declareColumns_of_readable (hp : p.capabilities.inlineColumnComments = true)
    {columns : List Column} (h : ∀ c ∈ columns, c.Readable) :
    ∃ parts, columns.mapM Declared.ofColumn = .ok parts ∧
      ∃ text, p.declareColumns columns = .ok text ∧ Declared.ofText? text = some parts := by
  obtain ⟨parts, hparts⟩ := Checked.mapM_returns_iff.2 fun c hc => Declared.ofColumn_returns (h c hc)
  have hupper : ∀ d ∈ parts, ∀ x ∈ d.keyword.toList, x.isUpper := by
    intro d hd
    obtain ⟨c, hc, hcd⟩ := Checked.exists_of_mem_mapM hparts d hd
    exact Declared.isUpper_of_ofColumn (h c hc) hcd
  refine ⟨parts, hparts, _, ?_, Declared.ofText?_commaSeparated hupper⟩
  rw [declareColumns, Checked.mapM_eq_map_mapM fun c hc => declaration_of_readable hp (h c hc),
    hparts]
  rfl

/-- **Declarations can be read back.** What was declared is a function of the text: the names, the
keywords and the comments that are not empty, in order. So no other columns have that text. -/
theorem declareColumns_readable (hp : p.capabilities.inlineColumnComments = true)
    {columns : List Column} (h : ∀ c ∈ columns, c.Readable) :
    ∃ text parts, p.declareColumns columns = .ok text ∧
      columns.mapM Declared.ofColumn = .ok parts ∧ Declared.ofText? text = some parts ∧
      ∀ others : List Column, (∀ c ∈ others, c.Readable) → p.declareColumns others = .ok text →
        others.length = columns.length ∧ others.map (·.name) = columns.map (·.name) ∧
        others.map (typeClause ·.type) = columns.map (typeClause ·.type) ∧
        others.map (·.comment?) = columns.map (·.comment?) := by
  obtain ⟨parts, hparts, text, htext, hread⟩ := declareColumns_of_readable hp h
  refine ⟨text, parts, htext, hparts, hread, fun others hothers hsame => ?_⟩
  obtain ⟨parts', hparts', text', htext', hread'⟩ := declareColumns_of_readable hp hothers
  obtain rfl : text = text' := Except.ok.inj (hsame.symm.trans htext')
  obtain rfl : parts = parts' := Option.some.inj (hread.symm.trans hread')
  have hname (c d) (hcd : Declared.ofColumn c = .ok d) := (Declared.ofColumn_eq_ok.1 hcd).2.1
  have hclause (c d) (hcd : Declared.ofColumn c = .ok d) := (Declared.ofColumn_eq_ok.1 hcd).1
  have hcomment (c d) (hcd : Declared.ofColumn c = .ok d) := (Declared.ofColumn_eq_ok.1 hcd).2.2
  refine ⟨?_, ?_, ?_, ?_⟩
  · rw [← Checked.length_of_mapM hparts', Checked.length_of_mapM hparts]
  · exact (Checked.map_eq_of_mapM hname hparts').trans (Checked.map_eq_of_mapM hname hparts).symm
  · exact (Checked.map_eq_of_mapM hclause hparts').trans
      (Checked.map_eq_of_mapM hclause hparts).symm
  · exact (Checked.map_eq_of_mapM hcomment hparts').trans
      (Checked.map_eq_of_mapM hcomment hparts).symm

/-- Names and a comment that imitate declarations; the second name is empty. -/
def imitations : List Column :=
  [{ name := "a\" INT, \"b", type := .standard .text, comment := some ", \"x\" INT", quoted := true },
   { name := "", type := .standard .date, comment := some "", quoted := true }]

theorem declareColumns_readable_of_imitations :
    (∀ c ∈ imitations, c.Readable) ∧
      Declared.ofText? "\"a\"\" INT, \"\"b\" STRING COMMENT ', \"x\" INT', \"\" TIMESTAMP" =
        some [⟨"a\" INT, \"b", "STRING", some ", \"x\" INT"⟩, ⟨"", "TIMESTAMP", none⟩] := by
  have hreadable : ∀ c ∈ imitations, c.Readable := by
    refine List.forall_mem_cons.2 ⟨?_, List.forall_mem_cons.2 ⟨?_, by simp⟩⟩
    · refine ⟨rfl, ⟨.text, rfl, by decide⟩, fun comment hcomment => ?_⟩
      cases hcomment
      decide
    · refine ⟨rfl, ⟨.date, rfl, by decide⟩, fun comment hcomment => ?_⟩
      cases hcomment
      decide
  obtain ⟨text, parts, htext, hparts, hread, -⟩ :=
    declareColumns_readable (p := {}) rfl hreadable
  cases htext
  cases hparts
  exact ⟨hreadable, hread⟩

end Platform

end CrateDdl
