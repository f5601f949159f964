/-!
# Placeholders

Filling in a statement template: every occurrence of a mark, found from left to right without
overlaps, is replaced by a text.
-/

set_option autoImplicit false

namespace CrateDdl.Text

/-- The mark begins the text somewhere. -/
def occursIn (mark : List Char) : List Char → Bool
  | [] => mark.isEmpty
  | c :: rest => mark.isPrefixOf (c :: rest) || occursIn mark rest

/-- Replaces every mark, after passing over `skip` characters of one replaced before. -/
def fillFrom (mark filling : List Char) : Nat → List Char → List Char
  | _, [] => []
  | skip + 1, _ :: rest => fillFrom mark filling skip rest
  | 0, c :: rest =>
    if mark.isPrefixOf (c :: rest) then filling ++ fillFrom mark filling (mark.length - 1) rest
    else c :: fillFrom mark filling 0 rest

/-- The template has the mark. -/
def hasMark (mark template : String) : Bool := occursIn mark.toList template.toList

/-- The template with every mark replaced. -/
def fill (mark filling template : String) : String :=
  String.ofList (fillFrom mark.toList filling.toList 0 template.toList)

end CrateDdl.Text
