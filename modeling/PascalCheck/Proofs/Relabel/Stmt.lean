import PascalCheck.Proofs.Clean
import PascalCheck.Proofs.Relabel.Check

/-!
Expressions and statements in a scope with other tags.
-/

namespace PascalCheck

variable (f : Nat → Nat)

@[simp]
theorem UnaryOp.accepts_relabel (op : UnaryOp) (t : Ty) :
    op.accepts (t.relabel f) = op.accepts t := by
  cases op <;> simp [UnaryOp.accepts]

namespace BinaryOp

@[simp]
theorem comparesWith_relabel (a b : Ty) :
    comparesWith (a.relabel f) (b.relabel f) = comparesWith a b := by
  simp [comparesWith]

@[simp]
theorem comparable_relabel (a b : Ty) :
    comparable (a.relabel f) (b.relabel f) = comparable a b := by
  simp [comparable]

@[simp]
theorem judge_relabel (op : BinaryOp) (a b : Ty) :
    op.judge (a.relabel f) (b.relabel f) = op.judge a b := by
  simp only [judge, judgeLogical, judgeRelational, judgeArithmetic, Ty.isInvalidConstant_relabel,
    Ty.isError_relabel, Ty.isBoolean_relabel, Ty.isNumeric_relabel, Ty.isInteger_relabel,
    Ty.isReal_relabel, comparesWith_relabel, comparable_relabel]

theorem relabel_judge (op : BinaryOp) (a b : Ty) :
    (op.judge a b).type.relabel f = (op.judge a b).type := by
  have h := op.judge_isBuiltIn a b
  cases ht : (op.judge a b).type with
  | primitive p => rfl
  | sentinel s => rfl
  | _ => simp [ht, Ty.isBuiltIn] at h

end BinaryOp

variable [Naming]

namespace Expr

theorem applyUnary_relabel (place : Span) (op : UnaryOp) (operand : Expr) (t : Typing) :
    applyUnary place op operand (t.relabel f) = (applyUnary place op operand t).relabel f := by
  simp only [applyUnary, Typing.type_relabel, Ty.isError_relabel, Ty.isInvalidConstant_relabel,
    UnaryOp.accepts_relabel, Ty.text_relabel]
  split
  . rfl
  . simp [Typing.reject, Typing.relabel]

@[simp]
theorem faultDiagnostic_relabel (place : Span) (op : BinaryOp) (left right : Expr) (a b : Ty)
    (fault : OperandFault) :
    faultDiagnostic place op left right (a.relabel f) (b.relabel f) fault =
      faultDiagnostic place op left right a b fault := by
  cases fault with
  | logical side => cases side <;> simp [faultDiagnostic, Side.pick]
  | relational side => cases side <;> simp [faultDiagnostic, Side.pick]
  | arithmetic side => cases side <;> simp [faultDiagnostic, Side.pick]
  | notComparable => simp [faultDiagnostic]
  | notIntegers => simp [faultDiagnostic]

theorem applyBinary_relabel (place : Span) (op : BinaryOp) (left right : Expr) (l r : Typing) :
    applyBinary place op left right (l.relabel f) (r.relabel f) =
      (applyBinary place op left right l r).relabel f := by
  have hfaults : faultDiagnostic place op left right (l.type.relabel f) (r.type.relabel f) =
      faultDiagnostic place op left right l.type r.type := by
    funext fault
    apply faultDiagnostic_relabel
  simp only [applyBinary, Typing.relabel, BinaryOp.judge_relabel, BinaryOp.relabel_judge, hfaults,
    Findings.relabel_append]
  rfl

theorem applyCall_relabel (r : Resolution) :
    applyCall (r.relabel f) = (applyCall r).relabel f := by
  rcases r with ⟨_ | routine, found⟩
  . rfl
  . simp only [applyCall, Resolution.relabel, Typing.relabel, Option.map_some, Option.bind_some,
      Ty.result?_relabel]
    cases routine.result? <;> rfl

theorem checkAll_relabel (scope : Scope) {es : List Expr}
    (h : ∀ e ∈ es, e.check (scope.relabel f) = (e.check scope).relabel f) :
    checkAll (scope.relabel f) es = (checkAll scope es).map (Argument.relabel f) := by
  rw [checkAll_eq_map, checkAll_eq_map, List.map_map]
  apply List.map_congr_left
  intro e he
  rw [h e he]
  rfl

theorem check_relabel (scope : Scope) (e : Expr) :
    e.check (scope.relabel f) = (e.check scope).relabel f := by
  induction e using Expr.induction with
  | const info c => rw [check, check, Const.check_relabel, Typing.record_relabel]
  | var info name => rw [check, check, Name.check_relabel, Typing.record_relabel]
  | call info callee args ih =>
    have hcall := Call.check_relabel f scope ⟨.function, callee, checkAll scope args, info.span⟩
    rw [check, check, checkAll_relabel f scope ih, ← Typing.record_relabel, ← applyCall_relabel,
      ← hcall]
    rfl
  | paren info inner ih => rw [check, check, ih, Typing.record_relabel]
  | unary info op operand ih =>
    rw [check, check, ih, applyUnary_relabel, Typing.record_relabel]
  | binary info op left right ihleft ihright =>
    rw [check, check, ihleft, ihright, applyBinary_relabel, Typing.record_relabel]

end Expr

@[simp]
theorem converts_relabel (target value : Ty) (charLiteral : Bool) :
    converts (target.relabel f) (value.relabel f) charLiteral =
      converts target value charLiteral := by
  simp [converts]

@[simp]
theorem assignable_relabel (target value : Ty) (charLiteral : Bool) :
    assignable (target.relabel f) (value.relabel f) charLiteral =
      assignable target value charLiteral := by
  simp [assignable]

def AssignmentFault.relabel : AssignmentFault → AssignmentFault
  | .resultMismatch result => .resultMismatch (result.relabel f)
  | .functionValueMismatch result => .functionValueMismatch (result.relabel f)
  | fault => fault

theorem AssignmentFault.problem_relabel (scope : Scope) (target : Target) (value : Expr)
    (targetType valueType : Ty) (fault : AssignmentFault) :
    (fault.relabel f).problem (scope.relabel f) target value (targetType.relabel f)
        (valueType.relabel f) =
      fault.problem scope target value targetType valueType := by
  cases fault <;> simp [problem, relabel]

theorem judgeAssignment_relabel (target value : Ty) (charLiteral : Bool) :
    judgeAssignment (target.relabel f) (value.relabel f) charLiteral =
      let verdict := judgeAssignment target value charLiteral
      ⟨verdict.fault?.map (AssignmentFault.relabel f), verdict.givesResult⟩ := by
  simp only [judgeAssignment, Ty.isInvalidConstant_relabel, Ty.isFunction_relabel,
    Ty.isError_relabel, assignable_relabel]
  split
  . rfl
  . split
    . rfl
    . split
      . rfl
      -- Stated before the cases: they turn `target.relabel f` into a constructor.
      . have hresult (result : Ty) := assignable_relabel f target result charLiteral
        cases target with
        | procedure tag params => rfl
        | function tag params result =>
          simp only [Ty.relabel, Ty.equiv_relabel, converts_relabel]
          split <;> rfl
        | _ =>
          cases value with
          | function tag params result =>
            simp only [Ty.relabel] at hresult ⊢
            simp only [hresult]
            split <;> rfl
          | _ => rfl

theorem checkAssignment_relabel (scope : Scope) (info : Info) (target : Target) (value : Expr) :
    checkAssignment (scope.relabel f) info target value =
      (checkAssignment scope info target value).relabel f := by
  simp only [checkAssignment, Expr.check_relabel, Name.check_relabel, Typing.record_relabel,
    Typing.type_relabel, Typing.findings_relabel, judgeAssignment_relabel,
    Findings.relabel_append]
  congr 1
  . congr 1
    cases (judgeAssignment ((Name.check scope target.name).record target.info).type
        (value.check scope).type value.isCharLiteral).fault? with
    | none => rfl
    | some fault =>
      simp only [Option.map_some, AssignmentFault.problem_relabel, Findings.relabel_error]
  . split <;> rfl

theorem checkCondition_relabel (scope : Scope) (stmt : Conditional) (condition : Expr) :
    checkCondition (scope.relabel f) stmt condition =
      (checkCondition scope stmt condition).relabel f := by
  simp only [checkCondition, Expr.check_relabel, Typing.type_relabel, Typing.findings_relabel,
    Ty.isInvalidConstant_relabel, Ty.isError_relabel, Ty.isBoolean_relabel, Ty.text_relabel,
    Findings.relabel_append, Findings.invalidConstant_relabel]
  congr 1
  split
  . rfl
  . split <;> rfl

theorem checkLimit_relabel (scope : Scope) (limit : Limit) (control : Name) (controlType : Ty)
    (value : Expr) :
    checkLimit (scope.relabel f) limit control (controlType.relabel f) value =
      (checkLimit scope limit control controlType value).relabel f := by
  simp only [checkLimit, Expr.check_relabel, Typing.type_relabel, Typing.findings_relabel,
    Ty.isInvalidConstant_relabel, Ty.isError_relabel, Ty.equiv_relabel, Ty.text_relabel,
    Findings.relabel_append, Findings.invalidConstant_relabel]
  congr 1
  split
  . rfl
  . split <;> rfl

theorem checkControl_relabel (scope : Scope) (control : Target) (initial final : Expr) :
    checkControl (scope.relabel f) control initial final =
      (checkControl scope control initial final).relabel f := by
  simp only [checkControl, Name.check_relabel, Typing.record_relabel, Typing.type_relabel,
    Typing.findings_relabel, Ty.isError_relabel, Ty.isOrdinal_relabel, Ty.text_relabel,
    checkLimit_relabel, Findings.relabel_append]
  congr 1
  split
  . rfl
  . split
    . rw [Findings.relabel_append]
    . rfl

theorem checkProcedureCall_relabel (scope : Scope) (place : Span) (callee : Name)
    (args : Option (List Expr)) :
    checkProcedureCall (scope.relabel f) place callee args =
      (checkProcedureCall scope place callee args).relabel f := by
  have hcall := Call.check_relabel f scope
    ⟨.procedure, callee, Expr.checkAll scope (args.getD []), place⟩
  rw [checkProcedureCall, Expr.checkAll_relabel f scope fun e _ => Expr.check_relabel f scope e]
  exact congrArg Resolution.findings hcall

namespace Stmt

theorem checkAll_relabel (scope : Scope) {ss : List Stmt}
    (h : ∀ s ∈ ss, s.check (scope.relabel f) = (s.check scope).relabel f) :
    checkAll (scope.relabel f) ss = (checkAll scope ss).relabel f := by
  induction ss with
  | nil => rfl
  | cons s ss ih =>
    rw [List.forall_mem_cons] at h
    rw [checkAll, checkAll, h.1, ih h.2, Findings.relabel_append]

theorem check_relabel (scope : Scope) (s : Stmt) :
    s.check (scope.relabel f) = (s.check scope).relabel f := by
  induction s using Stmt.induction with
  | assign info target value => apply checkAssignment_relabel
  | call info callee args => apply checkProcedureCall_relabel
  | compound info stmts ih => rw [check, check, checkAll_relabel f scope ih]
  | ifThen info condition thenStmt ih =>
    rw [check, check, ih, checkCondition_relabel, Findings.relabel_append]
  | ifThenElse info condition thenStmt elseStmt ihthen ihelse =>
    rw [check, check, ihthen, ihelse, checkCondition_relabel, Findings.relabel_append,
      Findings.relabel_append]
  | repeatUntil info stmts condition ih =>
    rw [check, check, checkAll_relabel f scope ih, checkCondition_relabel, Findings.relabel_append]
  | whileDo info condition body ih =>
    rw [check, check, ih, checkCondition_relabel, Findings.relabel_append]
  | forDo info direction control initial final body ih =>
    rw [check, check, ih, checkControl_relabel, Findings.relabel_append]
  | empty info => rfl

end Stmt

end PascalCheck
