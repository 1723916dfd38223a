import PascalCheck.Check.Assignment

/-!
Statements. All parts of a statement are checked, whatever is wrong with the others, except the
limits of a for-statement that has no usable control variable.
-/

namespace PascalCheck

variable [Naming]

def checkCondition (scope : Scope) (stmt : Conditional) (condition : Expr) : Findings :=
  let t := condition.check scope
  t.findings ++
    if t.type.isInvalidConstant then .invalidConstant scope condition.span condition.text
    else if t.type.isError || t.type.isBoolean then .none
    else .error condition.span (.notCondition stmt condition.text t.type.text)

def checkLimit (scope : Scope) (limit : Limit) (control : Name) (controlType : Ty) (value : Expr) :
    Findings :=
  let t := value.check scope
  t.findings ++
    if t.type.isInvalidConstant then .invalidConstant scope value.span value.text
    else if t.type.isError || t.type.equiv controlType then .none
    else
      .error value.span
        (.limitMismatch limit value.text t.type.text control.value controlType.text)

def checkControl (scope : Scope) (control : Target) (initial final : Expr) : Findings :=
  let t := (Name.check scope control.name).record control.info
  t.findings ++
    if t.type.isError then .none
    else if t.type.isOrdinal then
      checkLimit scope .initial control.name t.type initial ++
        checkLimit scope .final control.name t.type final
    else .error control.info.span (.controlNotOrdinal control.name.value t.type.text)

def checkProcedureCall (scope : Scope) (place : Span) (callee : Name)
    (args : Option (List Expr)) : Findings :=
  (Call.check scope ⟨.procedure, callee, Expr.checkAll scope (args.getD []), place⟩).findings

namespace Stmt

mutual

def check (scope : Scope) : Stmt → Findings
  | .assign info target value => checkAssignment scope info target value
  | .call info callee args => checkProcedureCall scope info.span callee args
  | .compound _ stmts => checkAll scope stmts
  | .ifThen _ condition thenStmt =>
    checkCondition scope .ifStmt condition ++ thenStmt.check scope
  | .ifThenElse _ condition thenStmt elseStmt =>
    checkCondition scope .ifStmt condition ++ thenStmt.check scope ++ elseStmt.check scope
  | .repeatUntil _ stmts condition =>
    checkAll scope stmts ++ checkCondition scope .repeatStmt condition
  | .whileDo _ condition body =>
    checkCondition scope .whileStmt condition ++ body.check scope
  | .forDo _ _ control initial final body =>
    checkControl scope control initial final ++ body.check scope
  | .empty _ => .none

def checkAll (scope : Scope) : List Stmt → Findings
  | [] => .none
  | s :: ss => s.check scope ++ checkAll scope ss

end

end Stmt

end PascalCheck
