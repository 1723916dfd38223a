import PascalCheck.Numeral.Integer

/-!
Decimal numbers as they are written, and whether the nearest double lies within integer bounds.

Main definition: `withinBounds`. No double is ever built. The bounds are integers that a double
holds exactly, so the double nearest to `x` is at most `b` exactly when `x` is at most the midpoint
of `b` and the next double above it; the midpoint itself goes to `b`, whose last significant bit is
zero.
-/

namespace PascalCheck.Numeral

/-- What a decimal numeral stands for; a finite one is `digits * 10 ^ exponent` with its sign. -/
inductive Decimal where
  | finite (negative : Bool) (digits : Nat) (exponent : Int)
  | infinite (negative : Bool)
  | nan
  deriving DecidableEq

namespace Decimal

/-- The value of the digits of an exponent; once it has reached `2 ^ 16` no further digit counts. -/
def exponentValue (digits : List Char) : Nat :=
  digits.foldl (fun n c => if n < 0x10000 then 10 * n + (c.toNat - 48) else n) 0

def readExponent? (cs : List Char) : Option Int :=
  let (negative, digits) := splitSign cs
  if digits.isEmpty || !digits.all Char.isDigit then
    none
  else
    some (if negative then -exponentValue digits else exponentValue digits)

def readMagnitude? (negative : Bool) (cs : List Char) : Option Decimal :=
  let whole := cs.takeWhile Char.isDigit
  let rest := cs.dropWhile Char.isDigit
  let (fraction, rest) :=
    match rest with
    | '.' :: rest => (rest.takeWhile Char.isDigit, rest.dropWhile Char.isDigit)
    | rest => ([], rest)
  if whole.isEmpty && fraction.isEmpty then
    none
  else
    match digitsValue? (whole ++ fraction), rest with
    | some digits, [] => some (.finite negative digits (-fraction.length))
    | some digits, e :: rest =>
      if e = 'e' ∨ e = 'E' then
        (readExponent? rest).map fun exponent =>
          .finite negative digits (exponent - fraction.length)
      else
        none
    | none, _ => none

def read? (s : String) : Option Decimal :=
  let (negative, cs) := splitSign s.toList
  let word := cs.map Char.toLower
  if word = "inf".toList ∨ word = "infinity".toList then
    some (.infinite negative)
  else if word = "nan".toList then
    some .nan
  else
    readMagnitude? negative cs

/--
Whether the double nearest to `digits * 10 ^ exponent` is at most `b`, where `0 < b < 2 ^ 52`.
Doubles next to `b` are `2 ^ (log2 b - 52)` apart, so this compares with `b + 2 ^ (log2 b - 53)`.
The first two tests keep the powers of ten small: the value is above `2 * b` or below one there.
-/
def roundsToAtMost (digits : Nat) (exponent : Int) (b : Nat) : Bool :=
  let unit := Nat.pow 2 53
  let highest := b * unit + Nat.pow 2 b.log2
  match exponent with
  | .ofNat e =>
    digits == 0 || (e ≤ b.log2 + 1 && digits * Nat.pow 10 e * unit ≤ highest)
  | .negSucc e =>
    digits.log2 ≤ e || digits * unit ≤ highest * Nat.pow 10 (e + 1)

end Decimal

def Bounds.admits (bounds : Bounds) : Decimal → Bool
  | .finite false digits exponent => Decimal.roundsToAtMost digits exponent bounds.greatest.toNat
  | .finite true digits exponent => Decimal.roundsToAtMost digits exponent (-bounds.least).toNat
  | .infinite _ => false
  | .nan => false

def withinBounds (bounds : Bounds) (lexeme : String) : Bool :=
  ((Decimal.read? lexeme).map bounds.admits).getD false

end PascalCheck.Numeral
