import PascalCheck.Diagnostic.Problem
import PascalCheck.Types.Equiv

/-!
The types of operators: which operands an operator takes, what type it gives, and which operand is
to blame if it does not take them.
-/

namespace PascalCheck

def UnaryOp.accepts (op : UnaryOp) (operand : Ty) : Bool :=
  match op with
  | .plus | .negate => operand.isNumeric
  | .not => operand.isBoolean

inductive OperandFault where
  | logical (side : Side)
  | relational (side : Side)
  | arithmetic (side : Side)
  | notComparable
  | notIntegers
  deriving DecidableEq

structure Judgement where
  type : Ty
  faults : List OperandFault

namespace BinaryOp

def judgeLogical (left right : Ty) : Judgement :=
  let faults :=
    (if left.isBoolean then [] else [.logical .left]) ++
      if right.isBoolean then [] else [.logical .right]
  ⟨if faults.isEmpty then .boolean else .error, faults⟩

def comparesWith (operand other : Ty) : Bool :=
  operand.isSimple || (operand.isString && other.isChar)

def comparable (left right : Ty) : Bool :=
  left.equiv right ||
    (left.isReal && right.isInteger || left.isInteger && right.isReal) ||
    (left.isChar && right.isString || left.isString && right.isChar)

def judgeRelational (left right : Ty) : Judgement :=
  if !comparesWith left right then ⟨.error, [.relational .left]⟩
  else if !comparesWith right left then ⟨.error, [.relational .right]⟩
  else if comparable left right then ⟨.boolean, []⟩
  else ⟨.error, [.notComparable]⟩

/--
Only the first operand that is not numeric is to blame. `div` and `mod` give an integer even where
they are used with a real.
-/
def judgeArithmetic (op : BinaryOp) (left right : Ty) : Judgement :=
  if !left.isNumeric then ⟨.error, [.arithmetic .left]⟩
  else if !right.isNumeric then ⟨.error, [.arithmetic .right]⟩
  else
    match op with
    | .div | .mod =>
      ⟨.integer, if left.isInteger && right.isInteger then [] else [.notIntegers]⟩
    | .divide => ⟨.real, []⟩
    | _ => ⟨if left.isReal || right.isReal then .real else .integer, []⟩

def judge (op : BinaryOp) (left right : Ty) : Judgement :=
  if left.isInvalidConstant || right.isInvalidConstant then ⟨.invalidConstant, []⟩
  else if left.isError || right.isError then ⟨.error, []⟩
  else
    match op with
    | .or | .and => judgeLogical left right
    | op =>
      match op.precedence with
      | .relational => judgeRelational left right
      | .additive | .multiplicative => judgeArithmetic op left right

end BinaryOp

end PascalCheck
