import PascalCheck.Types.Basic

/-!
Equivalence of types, and the classes of types that operators ask for.

The relation is directed: a parameter is looked through where it stands on the left, and is
equivalent to nothing where it stands on the right. So a class is tested with the operand on the
left.
-/

namespace PascalCheck.Ty

mutual

/-- Whether `b` is equivalent to `a`, seen from `a`. Results of functions are not compared. -/
def equiv : (a b : Ty) → Bool
  | .parameter _ _ _ type, b => type.equiv b
  | .primitive p, .primitive q => p == q
  | .sentinel s, .sentinel t => s == t
  | .file _ c, .file _ d => c.equiv d
  | .procedure _ ps, .procedure _ qs => equivParams ps qs
  | .function _ ps _, .function _ qs _ => equivParams ps qs
  | _, _ => false

def equivParams : List Ty → List Ty → Bool
  | [], [] => true
  | .parameter _ _ m a :: ps, .parameter _ _ n b :: qs => m == n && a.equiv b && equivParams ps qs
  | _, _ => false

end

def isInteger (t : Ty) : Bool :=
  t.equiv .integer

def isReal (t : Ty) : Bool :=
  t.equiv .real

def isChar (t : Ty) : Bool :=
  t.equiv .char

def isBoolean (t : Ty) : Bool :=
  t.equiv .boolean

def isString (t : Ty) : Bool :=
  t.equiv .string

def isOrdinal (t : Ty) : Bool :=
  t.isInteger || t.isChar || t.isBoolean

def isSimple (t : Ty) : Bool :=
  t.isOrdinal || t.isReal

def isNumeric (t : Ty) : Bool :=
  t.isInteger || t.isReal

end PascalCheck.Ty
