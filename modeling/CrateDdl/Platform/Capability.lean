/-!
# Capabilities

What a database can express. The defaults are those of CrateDB; a capability that is not named is
one that the database does not have.
-/

set_option autoImplicit false

namespace CrateDdl

structure Capabilities where
  sequences : Bool := false
  schemas : Bool := false
  identityColumns : Bool := false
  commentOnStatement : Bool := false
  inlineColumnComments : Bool := false
  prefersSequences : Bool := false
deriving DecidableEq, Repr

namespace Capabilities

/-- CrateDB has schemas, identity columns and both kinds of comments, and no sequences. -/
def crate : Capabilities where
  schemas := true
  identityColumns := true
  commentOnStatement := true
  inlineColumnComments := true

end Capabilities

end CrateDdl
