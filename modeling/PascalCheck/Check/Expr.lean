import PascalCheck.Check.Call
import PascalCheck.Check.Const
import PascalCheck.Check.Operator

/-!
Types of expressions. The type of every expression that is looked at is recorded, also where it is
faulty.
-/

namespace PascalCheck

variable [Naming]

def Side.pick {α : Type} (side : Side) (left right : α) : α :=
  match side with
  | .left => left
  | .right => right

namespace Expr

def applyUnary (place : Span) (op : UnaryOp) (operand : Expr) (t : Typing) : Typing :=
  if t.type.isError || t.type.isInvalidConstant || op.accepts t.type then
    t
  else
    t.reject place (.unaryOperand op operand.text t.type.text) .error

def faultDiagnostic (place : Span) (op : BinaryOp) (left right : Expr) (leftType rightType : Ty) :
    OperandFault → Diagnostic
  | .logical side =>
    let operand := side.pick left right
    .error operand.span
      (.logicalOperand op side operand.text (side.pick leftType rightType).text)
  | .relational side =>
    .error place
      (.relationalOperand op side (side.pick left right).text (side.pick leftType rightType).text)
  | .arithmetic side =>
    .error place
      (.arithmeticOperand op side (side.pick left right).text (side.pick leftType rightType).text)
  | .notComparable => .error place (.notComparable op leftType.text rightType.text)
  | .notIntegers => .error place (.notIntegers op leftType.text rightType.text)

def applyBinary (place : Span) (op : BinaryOp) (left right : Expr) (l r : Typing) : Typing :=
  let judgement := op.judge l.type r.type
  let diagnostics := judgement.faults.map (faultDiagnostic place op left right l.type r.type)
  ⟨judgement.type, l.findings ++ r.findings ++ .reports diagnostics⟩

def applyCall (resolution : Resolution) : Typing :=
  ⟨(resolution.routine?.bind Ty.result?).getD .error, resolution.findings⟩

mutual

def check (scope : Scope) : Expr → Typing
  | .const info c => (c.check scope).record info
  | .var info name => (Name.check scope name).record info
  | .call info callee args =>
    let call := ⟨.function, callee, checkAll scope args, info.span⟩
    (applyCall (Call.check scope call)).record info
  | .paren info inner => (inner.check scope).record info
  | .unary info op operand =>
    (applyUnary info.span op.value operand (operand.check scope)).record info
  | .binary info op left right =>
    (applyBinary info.span op.value left right (left.check scope) (right.check scope)).record info

def checkAll (scope : Scope) : List Expr → List Argument
  | [] => []
  | e :: es => ⟨e, e.check scope⟩ :: checkAll scope es

end

end Expr

end PascalCheck
