/-!
# Separated lists

Lists in a text: the items with a comma and a space between each two.
-/

set_option autoImplicit false

namespace CrateDdl.Text

def commaSeparated (items : List String) : String := String.intercalate ", " items

end CrateDdl.Text
