import PascalCheck.Types.Basic

/-!
The types that a check has recorded for tree nodes and names, by number. A later record of a node
takes the place of an earlier one.
-/

namespace PascalCheck

structure Record where
  id : Nat
  type : Ty

/-- Records, newest first. -/
abbrev Records := List Record

def Records.type? (records : Records) (id : Nat) : Option Ty :=
  (records.find? (·.id == id)).map (·.type)

end PascalCheck
