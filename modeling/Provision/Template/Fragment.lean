/-!
# Fragments
-/

namespace Provision

/-- A named piece of template text. -/
structure Fragment where
  name : String
  source : String
deriving DecidableEq, Repr

end Provision
