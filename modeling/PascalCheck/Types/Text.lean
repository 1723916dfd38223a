import PascalCheck.Types.Basic

/-!
How types are written in messages and outlines.
-/

namespace PascalCheck.Ty

def paramsText (params : List String) : String :=
  if params.isEmpty then "" else "(" ++ "; ".intercalate params ++ ")"

mutual

def text : Ty → String
  | .primitive p => p.text
  | .sentinel .undefined => "<undefined>"
  | .sentinel .error => "<error>"
  | .sentinel .invalidConstant => "<invalid constant>"
  | .file _ component => "file of " ++ component.text
  | .parameter _ _ .value type => type.text
  | .parameter _ _ .var type => "var " ++ type.text
  | .procedure _ params => "procedure" ++ paramsText (texts params)
  | .function _ params result => "function" ++ paramsText (texts params) ++ ": " ++ result.text
  | .overload _ alternatives => " | ".intercalate (texts alternatives)

def texts : List Ty → List String
  | [] => []
  | t :: ts => t.text :: texts ts

end

end PascalCheck.Ty
