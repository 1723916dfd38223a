import PascalCheck.Check.Expr

/-!
Assignments. Besides equivalent types, an integer may be assigned to a real and a string literal of
one character to a char. A function is assigned to in order to give its result, and may be assigned
from as its result would be.
-/

namespace PascalCheck

variable [Naming]

def converts (target value : Ty) (charLiteral : Bool) : Bool :=
  (target.isReal && value.isInteger) || (target.isChar && value.isString && charLiteral)

def assignable (target value : Ty) (charLiteral : Bool) : Bool :=
  target.equiv value || converts target value charLiteral

inductive AssignmentFault where
  | invalidConstant
  | procedureTarget
  | resultMismatch (result : Ty)
  | functionValueMismatch (result : Ty)
  | mismatch

structure AssignmentVerdict where
  fault? : Option AssignmentFault
  givesResult : Bool

/--
An assignment to a function gives its result even if the value is faulty, but not if the value is
itself a function with equivalent parameters.
-/
def judgeAssignment (target value : Ty) (charLiteral : Bool) : AssignmentVerdict :=
  if value.isInvalidConstant then ⟨some .invalidConstant, target.isFunction⟩
  else if target.isError || value.isError then ⟨none, target.isFunction⟩
  else if assignable target value charLiteral then ⟨none, false⟩
  else
    match target, value with
    | .procedure _ _, _ => ⟨some .procedureTarget, false⟩
    | .function _ _ result, _ =>
      if value.equiv result || converts result value charLiteral then ⟨none, true⟩
      else ⟨some (.resultMismatch result), true⟩
    | _, .function _ _ result =>
      if assignable target result charLiteral then ⟨none, false⟩
      else ⟨some (.functionValueMismatch result), false⟩
    | _, _ => ⟨some .mismatch, false⟩

def AssignmentFault.problem (scope : Scope) (target : Target) (value : Expr)
    (targetType valueType : Ty) : AssignmentFault → Problem
  | .invalidConstant => .invalidConstant (assignmentText target value) scope.bounds
  | .procedureTarget => .procedureTarget target.name.value (assignmentText target value)
  | .resultMismatch result =>
    .resultMismatch (assignmentText target value) valueType.text target.name.value result.text
  | .functionValueMismatch result =>
    .functionValueMismatch value.text result.text target.name.value targetType.text
  | .mismatch =>
    .assignmentMismatch (assignmentText target value) targetType.text valueType.text

def checkAssignment (scope : Scope) (info : Info) (target : Target) (value : Expr) : Findings :=
  let v := value.check scope
  let t := (Name.check scope target.name).record target.info
  let verdict := judgeAssignment t.type v.type value.isCharLiteral
  let report := match verdict.fault? with
    | none => .none
    | some fault => .error info.span (fault.problem scope target value t.type v.type)
  let result := if verdict.givesResult then .record info.id t.type else .none
  v.findings ++ t.findings ++ report ++ result

end PascalCheck
