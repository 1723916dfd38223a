import PascalCheck.Numeral.Integer
import PascalCheck.Syntax.Operator

/-!
Types, as the checker sees them. Besides the primitive types there are files, parameters, routines
and sets of overloaded routines, and three sentinels for what has no type.

Every type that is made rather than built in carries a tag. Two types made at different times have
different tags even if they look alike, which is how the checker tells the function that is being
checked from any other function with the same parameters.
-/

namespace PascalCheck

inductive Sentinel where
  | undefined
  | error
  | invalidConstant
  deriving DecidableEq

inductive Role where
  | formal
  | actual
  deriving DecidableEq

inductive Ty where
  | primitive (primitive : Primitive)
  | sentinel (sentinel : Sentinel)
  | file (tag : Nat) (component : Ty)
  | parameter (tag : Nat) (role : Role) (mode : Mode) (type : Ty)
  | procedure (tag : Nat) (params : List Ty)
  | function (tag : Nat) (params : List Ty) (result : Ty)
  | overload (tag : Nat) (alternatives : List Ty)

namespace Ty

abbrev integer : Ty := .primitive .integer
abbrev real : Ty := .primitive .real
abbrev char : Ty := .primitive .char
abbrev boolean : Ty := .primitive .boolean
abbrev string : Ty := .primitive .string
abbrev undefined : Ty := .sentinel .undefined
abbrev error : Ty := .sentinel .error
abbrev invalidConstant : Ty := .sentinel .invalidConstant

/-- What tells a type from every other one: its tag, or for a built-in type what it is. -/
inductive Identity where
  | primitive (primitive : Primitive)
  | sentinel (sentinel : Sentinel)
  | made (tag : Nat)
  deriving DecidableEq

def identity : Ty → Identity
  | .primitive p => .primitive p
  | .sentinel s => .sentinel s
  | .file tag _ | .parameter tag _ _ _ | .procedure tag _ | .function tag _ _ | .overload tag _ =>
    .made tag

def same (a b : Ty) : Bool :=
  a.identity == b.identity

def isError : Ty → Bool
  | .sentinel .undefined | .sentinel .error => true
  | _ => false

def isUndefined : Ty → Bool
  | .sentinel .undefined => true
  | _ => false

def isInvalidConstant : Ty → Bool
  | .sentinel .invalidConstant => true
  | _ => false

def isProcedure : Ty → Bool
  | .procedure _ _ => true
  | _ => false

def isFunction : Ty → Bool
  | .function _ _ _ => true
  | _ => false

def isFile : Ty → Bool
  | .file _ _ => true
  | _ => false

def parameter? : Ty → Option (Mode × Ty)
  | .parameter _ _ mode type => some (mode, type)
  | _ => none

def params : Ty → List Ty
  | .procedure _ params | .function _ params _ => params
  | _ => []

def result? : Ty → Option Ty
  | .function _ _ result => some result
  | _ => none

def alternatives? : Ty → Option (List Ty)
  | .overload _ alternatives => some alternatives
  | _ => none

def bounds? : Ty → Option Numeral.Bounds
  | .primitive .integer => some .integer
  | _ => none

def routineKind? : Ty → Option RoutineKind
  | .procedure _ _ => some .procedure
  | .function _ _ _ => some .function
  | .overload _ (.procedure _ _ :: _) => some .procedure
  | .overload _ (.function _ _ _ :: _) => some .function
  | _ => none

end Ty

end PascalCheck
