import CrateDdl.Text.Range

/-!
# Blank characters

Spaces, line ends and separators, and the text without those at its two ends.
-/

set_option autoImplicit false

namespace CrateDdl.Text

/-- The blank code points, in increasing order. -/
def blankRanges : List CodeRange :=
  [⟨9, 13⟩, ⟨28, 32⟩, ⟨133, 133⟩, ⟨160, 160⟩, ⟨5760, 5760⟩, ⟨8192, 8202⟩, ⟨8232, 8233⟩,
   ⟨8239, 8239⟩, ⟨8287, 8287⟩, ⟨12288, 12288⟩]

/-- A character that is dropped at the ends of a text. -/
def isBlank (c : Char) : Bool := inRanges blankRanges c

/-- The information separators, which end a field or a record in a stream of characters. -/
def isSeparator (c : Char) : Bool := 28 ≤ c.toNat && c.toNat ≤ 31

/-- A blank that is no separator. -/
def isGap (c : Char) : Bool := isBlank c && !isSeparator c

/-- The characters from the first to the last that are kept. -/
def trimChars (dropped : Char → Bool) (s : List Char) : List Char :=
  ((s.dropWhile dropped).reverse.dropWhile dropped).reverse

def stripChars (s : List Char) : List Char := trimChars isBlank s

/-- The text without the blanks at its two ends. -/
def strip (s : String) : String := String.ofList (stripChars s.toList)

@[simp] theorem toList_strip (s : String) : (strip s).toList = stripChars s.toList := by
  simp [strip]

end CrateDdl.Text
