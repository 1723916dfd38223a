/-!
Integers as they are written, and the range that they have to stay in.

An integer is read into 32 bits. Main definition: `isInteger`, which decides whether the lexeme of
an integer constant stands for an integer at all.
-/

namespace PascalCheck.Numeral

structure Bounds where
  least : Int
  greatest : Int
  deriving DecidableEq

def Bounds.integer : Bounds :=
  ⟨-2147483648, 2147483647⟩

def Bounds.contains (b : Bounds) (n : Int) : Bool :=
  b.least ≤ n && n ≤ b.greatest

def digitsValue? (cs : List Char) : Option Nat :=
  go cs 0
where
  go : List Char → Nat → Option Nat
    | [], acc => some acc
    | c :: cs, acc => if c.isDigit then go cs (10 * acc + (c.toNat - 48)) else none

def splitSign : List Char → Bool × List Char
  | '-' :: cs => (true, cs)
  | '+' :: cs => (false, cs)
  | cs => (false, cs)

def readInteger? (s : String) : Option Int :=
  let (negative, digits) := splitSign s.toList
  if digits.isEmpty then
    none
  else
    match digitsValue? digits with
    | none => none
    | some n =>
      let value : Int := if negative then -n else n
      if Bounds.integer.contains value then some value else none

/--
Whether a lexeme is an integer constant. A lexeme that cannot be read counts as zero, and zero takes
exactly one byte: a longer one was too large or malformed.
-/
def isInteger (lexeme : String) : Bool :=
  (readInteger? lexeme).getD 0 != 0 || lexeme.utf8ByteSize == 1

end PascalCheck.Numeral
