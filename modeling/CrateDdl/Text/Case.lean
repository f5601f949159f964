import CrateDdl.Text.Case.Context
import CrateDdl.Text.Case.LowerTable
import CrateDdl.Text.Case.UpperTable

/-!
# Upper and lower case

Full case mapping of a text. Upper case goes character by character; so does lower case, except
that a capital sigma takes its final form at the end of a word.
-/

set_option autoImplicit false

namespace CrateDdl.Text

/-- The upper-case form of a character. -/
def upperChar (c : Char) : List Char := counterpart upperRuns upperExpansions c

/-- The lower-case form of a character away from the end of a word. -/
def lowerChar (c : Char) : List Char := counterpart lowerRuns lowerExpansions c

def upperChars (s : List Char) : List Char := s.flatMap upperChar

/-- Whether the last character that is not case-ignorable was a cased one, after one more. -/
def afterCased (cased : Bool) (c : Char) : Bool :=
  if isCaseIgnorable c then cased else isCased c

/-- The first character that is not case-ignorable is a cased one. -/
def beforeCased : List Char → Bool
  | [] => false
  | c :: rest => if isCaseIgnorable c then beforeCased rest else isCased c

/-- A capital sigma after a cased letter and before none is final. -/
def lowerFrom (cased : Bool) : List Char → List Char
  | [] => []
  | c :: rest =>
    (if c = 'Σ' && cased && !beforeCased rest then ['ς'] else lowerChar c) ++
      lowerFrom (afterCased cased c) rest

def lowerChars (s : List Char) : List Char := lowerFrom false s

/-- The text in upper case. -/
def upper (s : String) : String := String.ofList (upperChars s.toList)

/-- The text in lower case. -/
def lower (s : String) : String := String.ofList (lowerChars s.toList)

@[simp] theorem upperChars_append (s t : List Char) :
    upperChars (s ++ t) = upperChars s ++ upperChars t := by
  simp [upperChars]

@[simp] theorem toList_upper (s : String) : (upper s).toList = upperChars s.toList := by
  simp [upper]

@[simp] theorem toList_lower (s : String) : (lower s).toList = lowerChars s.toList := by
  simp [lower]

end CrateDdl.Text
