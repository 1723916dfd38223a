import PascalCheck.Source

/-!
Requests that cannot be carried out. They are misuses of the library, not errors in a checked
program: those are diagnostics.
-/

namespace PascalCheck

inductive Fault where
  | outermostScope
  | emptyOverload
  | unknownType
  | unknownNode (className : String) (position : Position)
  | unknownLeaf (className : String) (position : Position)
  deriving DecidableEq

def Fault.message : Fault → String
  | .outermostScope => "cannot pop the outermost scope"
  | .emptyOverload => "assertion failed: !alternatives.is_empty()"
  | .unknownType => "no entry found for key"
  | .unknownNode className position => s!"Unhandled node |{className}| at {position.text}"
  | .unknownLeaf className position => s!"Unhandled leaf node |{className}| at {position.text}"

end PascalCheck
