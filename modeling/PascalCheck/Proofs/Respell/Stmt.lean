import PascalCheck.Check.Stmt
import PascalCheck.Proofs.Respell.Check

/-!
Expressions and statements with other spellings.
-/

namespace PascalCheck

variable [Naming]

variable {f : String → String}

namespace Expr

@[simp]
theorem info_respell (e : Expr) : (e.respell f).info = e.info := by
  cases e <;> rw [respell] <;> rfl

@[simp]
theorem span_respell (e : Expr) : (e.respell f).span = e.span := by
  rw [span, info_respell, span]

@[simp]
theorem isCharLiteral_respell (e : Expr) : (e.respell f).isCharLiteral = e.isCharLiteral := by
  induction e using Expr.induction with
  | const info c => cases c <;> rfl
  | paren info inner ih => rw [respell, isCharLiteral, ih, isCharLiteral]
  | _ => rfl

theorem applyUnary_alike (place : Span) (op : UnaryOp) (operand operand' : Expr) {a b : Typing}
    (h : a.Alike b) : (applyUnary place op operand a).Alike (applyUnary place op operand' b) := by
  simp only [applyUnary, h.type]
  split
  . exact h
  . apply h.reject
    rfl

theorem faultDiagnostic_respell (place : Span) (op : BinaryOp) (left right : Expr) (a b : Ty)
    (fault : OperandFault) :
    (faultDiagnostic place op (left.respell f) (right.respell f) a b fault).unworded =
      (faultDiagnostic place op left right a b fault).unworded := by
  cases fault with
  | logical side =>
    have hspan : (side.pick (left.respell f) (right.respell f)).span =
        (side.pick left right).span := by
      cases side <;> apply span_respell
    rw [faultDiagnostic, hspan]
    rfl
  | _ => rfl

theorem applyBinary_alike (place : Span) (op : BinaryOp) (left right : Expr)
    {l r l' r' : Typing} (hl : l.Alike l') (hr : r.Alike r') :
    (applyBinary place op (left.respell f) (right.respell f) l r).Alike
      (applyBinary place op left right l' r') := by
  simp only [applyBinary, hl.type, hr.type]
  refine ⟨rfl, (hl.findings.append hr.findings).append ⟨?_, rfl, rfl⟩⟩
  rw [Findings.diagnostics_reports, Findings.diagnostics_reports, List.map_map, List.map_map]
  apply List.map_congr_left
  intro fault _
  apply faultDiagnostic_respell

theorem applyCall_alike {a b : Resolution} (h : a.Alike b) : (applyCall a).Alike (applyCall b) := by
  refine ⟨?_, h.findings⟩
  rw [applyCall, h.routine, applyCall]

theorem checkAll_respell (scope : Scope) {es : List Expr}
    (h : ∀ e ∈ es, ((e.respell f).check scope).Alike (e.check scope)) :
    List.Forall₂ Argument.Alike (checkAll scope (respellAll f es)) (checkAll scope es) := by
  rw [checkAll_eq_map, checkAll_eq_map, respellAll_eq_map, List.map_map, List.forall₂_map_left_iff,
    List.forall₂_map_right_iff, List.forall₂_same]
  intro e he
  refine ⟨h e he, ?_, e.span_respell⟩
  cases e <;> rfl

theorem check_respell (hf : KeepsNames f) (scope : Scope) (e : Expr) :
    ((e.respell f).check scope).Alike (e.check scope) := by
  induction e using Expr.induction with
  | const info c => exact (c.check_respell hf scope).record info
  | var info name => exact ((Name.respell_alike hf name).check scope).record info
  | call info callee args ih =>
    have hcall : Call.Alike
        ⟨.function, Name.respell f callee, checkAll scope (respellAll f args), info.span⟩
        ⟨.function, callee, checkAll scope args, info.span⟩ :=
      ⟨rfl, Name.respell_alike hf callee, checkAll_respell scope ih, rfl⟩
    exact (applyCall_alike (hcall.check scope)).record info
  | paren info inner ih => exact ih.record info
  | unary info op operand ih =>
    exact (applyUnary_alike info.span op.value _ operand ih).record info
  | binary info op left right ihleft ihright =>
    exact (applyBinary_alike info.span op.value left right ihleft ihright).record info

end Expr

theorem AssignmentFault.problem_respell (scope : Scope) (target : Target) (value : Expr)
    (targetType valueType : Ty) (fault : AssignmentFault) :
    (fault.problem scope (target.respell f) (value.respell f) targetType valueType).unworded =
      (fault.problem scope target value targetType valueType).unworded := by
  cases fault <;> rfl

section Stmt

variable (hf : KeepsNames f) (scope : Scope)

theorem Stmt.checkAll_respell {ss : List Stmt}
    (h : ∀ s ∈ ss, ((s.respell f).check scope).Alike (s.check scope)) :
    (checkAll scope (respellAll f ss)).Alike (checkAll scope ss) := by
  induction ss with
  | nil => exact .refl _
  | cons s ss ih =>
    rw [List.forall_mem_cons] at h
    exact h.1.append (ih h.2)

include hf

theorem checkAssignment_respell (info : Info) (target : Target) (value : Expr) :
    (checkAssignment scope info (target.respell f) (value.respell f)).Alike
      (checkAssignment scope info target value) := by
  have hvalue := value.check_respell hf scope
  have htarget := ((Name.respell_alike hf target.name).check scope).record target.info
  have htype : ((Name.check scope (target.respell f).name).record (target.respell f).info).type =
      ((Name.check scope target.name).record target.info).type := htarget.type
  simp only [checkAssignment, hvalue.type, htype, Expr.isCharLiteral_respell]
  refine ((hvalue.findings.append htarget.findings).append ?_).append (.refl _)
  split
  . exact .refl _
  next fault _ =>
    apply Findings.Alike.error
    apply fault.problem_respell

theorem checkCondition_respell (stmt : Conditional) (condition : Expr) :
    (checkCondition scope stmt (condition.respell f)).Alike
      (checkCondition scope stmt condition) := by
  have h := condition.check_respell hf scope
  simp only [checkCondition, h.type, Expr.span_respell]
  apply h.findings.append
  split
  . apply Findings.Alike.invalidConstant
  . split
    . exact .refl _
    . exact .error condition.span rfl

theorem checkLimit_respell (limit : Limit) (control control' : Name) (controlType : Ty)
    (value : Expr) :
    (checkLimit scope limit control controlType (value.respell f)).Alike
      (checkLimit scope limit control' controlType value) := by
  have h := value.check_respell hf scope
  simp only [checkLimit, h.type, Expr.span_respell]
  apply h.findings.append
  split
  . apply Findings.Alike.invalidConstant
  . split
    . exact .refl _
    . exact .error value.span rfl

theorem checkControl_respell (control : Target) (initial final : Expr) :
    (checkControl scope (control.respell f) (initial.respell f) (final.respell f)).Alike
      (checkControl scope control initial final) := by
  have h := ((Name.respell_alike hf control.name).check scope).record control.info
  have htype : ((Name.check scope (control.respell f).name).record (control.respell f).info).type =
      ((Name.check scope control.name).record control.info).type := h.type
  simp only [checkControl, htype]
  apply h.findings.append
  split
  . exact .refl _
  . split
    . apply Findings.Alike.append
      . apply checkLimit_respell hf
      . apply checkLimit_respell hf
    . exact .error control.info.span rfl

theorem checkProcedureCall_respell (place : Span) (callee : Name) (args : Option (List Expr)) :
    (checkProcedureCall scope place (Name.respell f callee) (args.map (Expr.respellAll f))).Alike
      (checkProcedureCall scope place callee args) := by
  have hargs : (args.map (Expr.respellAll f)).getD [] = Expr.respellAll f (args.getD []) := by
    cases args <;> rfl
  rw [checkProcedureCall, hargs]
  have hcall : Call.Alike
      ⟨.procedure, Name.respell f callee,
        Expr.checkAll scope (Expr.respellAll f (args.getD [])), place⟩
      ⟨.procedure, callee, Expr.checkAll scope (args.getD []), place⟩ :=
    ⟨rfl, Name.respell_alike hf callee,
      Expr.checkAll_respell scope fun e _ => e.check_respell hf scope, rfl⟩
  exact (hcall.check scope).findings

theorem Stmt.check_respell (s : Stmt) : ((s.respell f).check scope).Alike (s.check scope) := by
  induction s using Stmt.induction with
  | assign info target value => exact checkAssignment_respell hf scope info target value
  | call info callee args => exact checkProcedureCall_respell hf scope info.span callee args
  | compound info stmts ih => exact checkAll_respell scope ih
  | ifThen info condition thenStmt ih =>
    exact (checkCondition_respell hf scope .ifStmt condition).append ih
  | ifThenElse info condition thenStmt elseStmt ihthen ihelse =>
    exact ((checkCondition_respell hf scope .ifStmt condition).append ihthen).append ihelse
  | repeatUntil info stmts condition ih =>
    exact (checkAll_respell scope ih).append (checkCondition_respell hf scope .repeatStmt condition)
  | whileDo info condition body ih =>
    exact (checkCondition_respell hf scope .whileStmt condition).append ih
  | forDo info direction control initial final body ih =>
    exact (checkControl_respell hf scope control initial final).append ih
  | empty info => exact .refl _

end Stmt

end PascalCheck
