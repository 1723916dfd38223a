import PascalCheck.Scope

/-!
The routines that every program may use without declaring them. Their types are written here without
tags: every check makes them anew.
-/

namespace PascalCheck

abbrev Predefined := List Attempt

namespace Required

def maxint : Attempt :=
  ⟨"maxint", .integer, none⟩

/-- These take any arguments, so they have no parameters to compare them with. -/
def procedures : List String :=
  ["write", "writeln", "read", "readln", "page", "rewrite", "reset", "put", "get"]

def function (params : List Primitive) (result : Primitive) : Ty :=
  .function 0 (params.map fun p => .parameter 0 .formal .value (.primitive p)) (.primitive result)

def functions : List (String × List (List Primitive × Primitive)) :=
  [("abs", [([.integer], .integer), ([.real], .real)]),
   ("sqr", [([.integer], .integer), ([.real], .real)]),
   ("sin", [([.real], .real), ([.integer], .real)]),
   ("cos", [([.real], .real), ([.integer], .real)]),
   ("exp", [([.real], .real), ([.integer], .real)]),
   ("ln", [([.real], .real), ([.integer], .real)]),
   ("sqrt", [([.real], .real), ([.integer], .real)]),
   ("arctan", [([.real], .real), ([.integer], .real)]),
   ("trunc", [([.real], .integer)]),
   ("round", [([.real], .integer)]),
   ("ord", [([.integer], .integer), ([.char], .integer), ([.boolean], .integer)]),
   ("chr", [([.integer], .char)]),
   ("succ", [([.integer], .integer), ([.char], .char), ([.boolean], .boolean)]),
   ("pred", [([.integer], .integer), ([.char], .char), ([.boolean], .boolean)]),
   ("odd", [([.integer], .boolean)]),
   ("eof", [([], .boolean)]),
   ("eoln", [([], .boolean)])]

def functionType (alternatives : List (List Primitive × Primitive)) : Ty :=
  match alternatives.map fun (params, result) => function params result with
  | [type] => type
  | types => .overload 0 types

def table : Predefined :=
  procedures.map (⟨·, .procedure 0 [], none⟩) ++
    functions.map fun (name, alternatives) => ⟨name, functionType alternatives, none⟩

end Required

end PascalCheck
