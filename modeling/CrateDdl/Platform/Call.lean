import CrateDdl.Platform.Basic

/-!
# Calls with any values

Operations of the platform as a host may call them: with any number of arguments, and with values
of any kind where the platform needs a text. What does not fit is a fault.
-/

set_option autoImplicit false

namespace CrateDdl.Platform

/-! ## Arguments -/

/-- The parameters of an operation. -/
structure Signature where
  operation : String
  required : List String
  optional : List String
deriving DecidableEq, Repr

namespace Signature

/-- An operation needs its required arguments and takes no more than the optional ones besides. -/
def check (s : Signature) (given : Nat) : Except Fault Unit :=
  let least := s.required.length
  let most := least + s.optional.length
  if given < least then .error (.missingArguments s.operation (s.required.drop given))
  else if most < given then .error (.surplusArguments s.operation least most given)
  else .ok ()

theorem check_eq_ok_iff {s : Signature} {given : Nat} :
    s.check given = .ok () ↔
      s.required.length ≤ given ∧ given ≤ s.required.length + s.optional.length := by
  simp only [check]
  split
  · simp; omega
  · split
    · simp; omega
    · simp; omega

end Signature

/-- The operations that can be called. -/
def signatures : List Signature :=
  [⟨"type_declaration", ["logical_type"], []⟩,
   ⟨"declare_column", ["name", "column"], []⟩,
   ⟨"declare_columns", ["columns"], []⟩,
   ⟨"declare_index", ["index"], []⟩,
   ⟨"comment_on_column_sql", ["table_name", "column_name", "comment"], []⟩,
   ⟨"quote_identifier", ["identifier"], []⟩,
   ⟨"is_reserved_keyword", ["word"], []⟩,
   ⟨"sql_result_casing", ["column"], []⟩,
   ⟨"logical_type_for", ["native_type"], ["default"]⟩,
   ⟨"substring_expression", ["value", "start"], ["length"]⟩,
   ⟨"supports_sequences", [], []⟩,
   ⟨"supports_schemas", [], []⟩,
   ⟨"supports_identity_columns", [], []⟩,
   ⟨"supports_comment_on_statement", [], []⟩,
   ⟨"supports_inline_column_comments", [], []⟩,
   ⟨"prefers_sequences", [], []⟩,
   ⟨"regexp_expression", [], []⟩,
   ⟨"date_diff_expression", ["date1", "date2"], []⟩,
   ⟨"convert_booleans", ["item"], []⟩,
   ⟨"common_integer_type_declaration", [], []⟩,
   ⟨"blob_type_declaration", [], []⟩,
   ⟨"now_expression", [], []⟩,
   ⟨"read_lock_sql", [], []⟩,
   ⟨"truncate_table_sql", ["table_name"], ["cascade"]⟩,
   ⟨"list_databases_sql", [], []⟩,
   ⟨"list_tables_sql", [], []⟩,
   ⟨"list_table_columns_sql", ["table"], ["database"]⟩]

/-- Checks the number of arguments of an operation. -/
def checkCall (operation : String) (given : Nat) : Except Fault Unit :=
  match signatures.find? (·.operation == operation) with
  | some s => s.check given
  | none => .error (.missingOperation "CratePlatform" operation)

/-! ## Operations on any value -/

/-- The text that a value is, for an operation that only texts have. -/
def textFor (operation : String) (v : Value) : Except Fault String :=
  match v.asText? with
  | some s => .ok s
  | none => .error (.missingOperation v.kind operation)

/-- The text that a value is, for replacing quotes in it. -/
def textForReplacing : Value → Except Fault String
  | .bytes _ => .error .bytesWanted
  | v => textFor "replace" v

/-- The keyword of a type given by any value. A name finds its type, except that binary data is
known only as a type and not by name. -/
def typeDeclarationOf (v : Value) : Except Fault String :=
  match v with
  | .logical t => typeDeclaration t
  | _ =>
    match v.keyFault?, LogicalType.ofValue? v with
    | some fault, _ => .error fault
    | none, some .blob => .error (.unknownKey v)
    | none, some t => typeDeclaration t
    | none, none => .error (.unknownKey v)

def quoteIdentifierOf (v : Value) : Except Fault String :=
  (textForReplacing v).map quoteIdentifier

/-- No byte string is a keyword. -/
def isReservedKeywordOf : Value → Except Fault Bool
  | .bytes _ => .ok false
  | v => (textFor "upper" v).map isReservedKeyword

/-- Byte strings have ASCII letters in lower case. -/
def resultCasingOf : Value → Except Fault Value
  | .bytes data => .ok (.bytes (data.map fun b => if 65 ≤ b && b ≤ 90 then b + 32 else b))
  | v => (textFor "lower" v).map fun s => .text (resultCasing s)

/-- No byte string is a native name. -/
def logicalTypeOf (native default : Value) : Except Fault Value :=
  match native with
  | .bytes _ => .ok default
  | v => (textFor "strip" v).map fun s => nativeTypes.logicalTypeFor s default

def commentOnColumnOf (table column comment : Value) : Except Fault String := do
  let comment ← textForReplacing comment
  return commentOnColumn (← table.written) (← column.written) comment

/-- Declares a column under a name given by any value. -/
def declareColumnOf (p : Platform) (name : Value) (c : Column) : Except Fault String := do
  let clause ← typeClause c.type
  return (← name.written) ++ " " ++ (clause ++ p.inlineComment c)

end CrateDdl.Platform
