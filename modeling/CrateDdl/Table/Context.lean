import CrateDdl.Platform.Basic

/-!
# The context of an event

What handlers are told when an event is dispatched: the platform, and the difference and the
column that the event is about.
-/

set_option autoImplicit false

namespace CrateDdl

structure Context where
  platform : Platform
  diff : Option TableDiff := none
  column : Option Column := none
deriving Repr

end CrateDdl
