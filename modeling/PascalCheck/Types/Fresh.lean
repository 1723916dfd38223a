import PascalCheck.Fault
import PascalCheck.Types.Basic

/-!
Making types. A type drawn from a supply gets a tag that no earlier type has, and the types inside
it are made before it.
-/

namespace PascalCheck.Ty

abbrev Making := StateT Nat (Except Fault)

def nextTag : Making Nat := fun tag =>
  .ok (tag, tag + 1)

mutual

/--
A new type of the same form, with new tags throughout. An overload set without alternatives cannot
be made.
-/
def fresh : Ty → Making Ty
  | .primitive p => return .primitive p
  | .sentinel s => return .sentinel s
  | .file _ component => do
    let component ← component.fresh
    return .file (← nextTag) component
  | .parameter _ role mode type => do
    let type ← type.fresh
    return .parameter (← nextTag) role mode type
  | .procedure _ params => do
    let params ← freshAll params
    return .procedure (← nextTag) params
  | .function _ params result => do
    let params ← freshAll params
    let result ← result.fresh
    return .function (← nextTag) params result
  | .overload _ alternatives => do
    let alternatives ← freshAll alternatives
    if alternatives.isEmpty then
      throw .emptyOverload
    return .overload (← nextTag) alternatives

def freshAll : List Ty → Making (List Ty)
  | [] => return []
  | t :: ts => do
    let t ← t.fresh
    return t :: (← freshAll ts)

end

end PascalCheck.Ty
