import PascalCheck.Proofs.Parentheses.Expr

/-!
Parentheses around an expression of a statement.
-/

namespace PascalCheck

variable {old new : Nat}

section Syntax

variable (old new : Nat)

mutual

def Stmt.enclose : Stmt → Stmt
  | .assign info target value => .assign info target (value.enclose old new)
  | .call info callee args => .call info callee (args.map (Expr.encloseAll old new))
  | .compound info stmts => .compound info (Stmt.encloseAll stmts)
  | .ifThen info condition thenStmt => .ifThen info (condition.enclose old new) thenStmt.enclose
  | .ifThenElse info condition thenStmt elseStmt =>
    .ifThenElse info (condition.enclose old new) thenStmt.enclose elseStmt.enclose
  | .repeatUntil info stmts condition =>
    .repeatUntil info (Stmt.encloseAll stmts) (condition.enclose old new)
  | .whileDo info condition body => .whileDo info (condition.enclose old new) body.enclose
  | .forDo info direction control initial final body =>
    .forDo info direction control (initial.enclose old new) (final.enclose old new) body.enclose
  | .empty info => .empty info

def Stmt.encloseAll : List Stmt → List Stmt
  | [] => []
  | s :: ss => s.enclose :: Stmt.encloseAll ss

end

end Syntax

namespace Stmt

def passed : Stmt → List Expr
  | .call _ _ args => (args.getD []).filter Expr.isVar
  | _ => []

structure Allows (old new : Nat) (s : Stmt) : Prop where
  info : s.info.id ≠ old ∧ s.info.id ≠ new
  targets : ∀ t ∈ s.targets, t.info.id ≠ old ∧ t.info.id ≠ new
  nodes : ∀ e ∈ s.nodes, e.Allows old new
  passed : ∀ a ∈ s.passed, a.info.id ≠ old

theorem Allows.expr {s : Stmt} (h : s.Allows old new) {e : Expr} (he : e ∈ s.exprs) :
    ∀ x ∈ e.all, x.Allows old new :=
  fun x hx => h.nodes x (List.mem_flatMap.mpr ⟨e, he, hx⟩)

theorem allows {s : Stmt} (h : ∀ t ∈ s.all, t.Allows old new) : s.Allows old new := by
  apply h
  rw [all_eq]
  exact List.mem_cons_self

theorem forall_mem_all_child {P : Stmt → Prop} {s c : Stmt} (h : ∀ t ∈ s.all, P t)
    (hc : c ∈ s.children) : ∀ t ∈ c.all, P t := by
  intro t ht
  apply h
  rw [all_eq]
  exact List.mem_cons_of_mem _ (List.mem_flatMap.mpr ⟨c, hc, ht⟩)

theorem encloseAll_eq_map (old new : Nat) (ss : List Stmt) :
    encloseAll old new ss = ss.map (enclose old new) := by
  induction ss with
  | nil => rfl
  | cons s ss ih => rw [encloseAll, ih, List.map_cons]

theorem info_enclose (s : Stmt) : (s.enclose old new).info = s.info := by
  cases s <;> rw [enclose] <;> rfl

end Stmt

section

variable (scope : Scope)

theorem checkAssignment_enclose (info : Info) (target : Target) (value : Expr)
    (h : (Stmt.assign info target value).Allows old new) :
    (checkAssignment scope info target (value.enclose old new)).Twinned old new
      (checkAssignment scope info target value) := by
  have hvalue := Expr.check_enclose scope (h.expr List.mem_cons_self)
  obtain ⟨hold, hnew⟩ := h.targets target List.mem_cons_self
  have htarget : ((Name.check scope target.name).record target.info).findings.Twinned old new
      ((Name.check scope target.name).record target.info).findings :=
    .refl (by simpa using hold.symm) (by simpa using hnew.symm)
  simp only [checkAssignment, hvalue.type, Expr.isCharLiteral_enclose]
  refine ((hvalue.findings.append htarget).append ?_).append ?_
  . split
    . exact .none
    next fault _ =>
      apply Findings.Twinned.error
      cases fault <;> rfl
  . split
    . exact .record h.info.1 h.info.2 _
    . exact .none

theorem checkCondition_enclose (stmt : Conditional) {condition : Expr}
    (h : ∀ x ∈ condition.all, x.Allows old new) :
    (checkCondition scope stmt (condition.enclose old new)).Twinned old new
      (checkCondition scope stmt condition) := by
  have hcondition := Expr.check_enclose scope h
  simp only [checkCondition, hcondition.type, Expr.span_enclose]
  apply hcondition.findings.append
  split
  . exact .invalidConstant scope _ _ _
  . split
    . exact .none
    . exact .error condition.span rfl

theorem checkLimit_enclose (limit : Limit) (control : Name) (controlType : Ty) {value : Expr}
    (h : ∀ x ∈ value.all, x.Allows old new) :
    (checkLimit scope limit control controlType (value.enclose old new)).Twinned old new
      (checkLimit scope limit control controlType value) := by
  have hvalue := Expr.check_enclose scope h
  simp only [checkLimit, hvalue.type, Expr.span_enclose]
  apply hvalue.findings.append
  split
  . exact .invalidConstant scope _ _ _
  . split
    . exact .none
    . exact .error value.span rfl

theorem checkControl_enclose {control : Target} {initial final : Expr}
    (hcontrol : control.info.id ≠ old ∧ control.info.id ≠ new)
    (hinitial : ∀ x ∈ initial.all, x.Allows old new) (hfinal : ∀ x ∈ final.all, x.Allows old new) :
    (checkControl scope control (initial.enclose old new) (final.enclose old new)).Twinned old new
      (checkControl scope control initial final) := by
  simp only [checkControl]
  refine Findings.Twinned.append ?_ ?_
  . exact .refl (by simpa using hcontrol.1.symm) (by simpa using hcontrol.2.symm)
  . split
    . exact .none
    . split
      . exact (checkLimit_enclose scope _ _ _ hinitial).append (checkLimit_enclose scope _ _ _ hfinal)
      . exact .error control.info.span rfl

theorem checkProcedureCall_enclose (info : Info) (callee : Name) (args : Option (List Expr))
    (h : (Stmt.call info callee args).Allows old new) :
    (checkProcedureCall scope info.span callee (args.map (Expr.encloseAll old new))).Twinned old new
      (checkProcedureCall scope info.span callee args) := by
  have hgetD : (args.map (Expr.encloseAll old new)).getD [] =
      Expr.encloseAll old new (args.getD []) := by
    cases args <;> rfl
  have hpassed (a : Expr) (ha : a ∈ args.getD []) (hvar : a.isVar = true) : a.info.id ≠ old :=
    h.passed a (List.mem_filter.mpr ⟨ha, hvar⟩)
  have hargs := Expr.checkAll_enclose hpassed fun a ha => Expr.check_enclose scope (h.expr ha)
  rw [checkProcedureCall, hgetD]
  exact (Call.check_twinned scope .procedure callee info.span hargs).findings

theorem Stmt.checkAll_enclose {ss : List Stmt}
    (h : ∀ s ∈ ss, ((s.enclose old new).check scope).Twinned old new (s.check scope)) :
    (checkAll scope (encloseAll old new ss)).Twinned old new (checkAll scope ss) := by
  induction ss with
  | nil => exact .none
  | cons s ss ih =>
    rw [List.forall_mem_cons] at h
    exact h.1.append (ih h.2)

theorem Stmt.check_enclose {s : Stmt} (h : ∀ t ∈ s.all, t.Allows old new) :
    ((s.enclose old new).check scope).Twinned old new (s.check scope) := by
  induction s using Stmt.induction with
  | assign info target value => exact checkAssignment_enclose scope info target value (allows h)
  | call info callee args => exact checkProcedureCall_enclose scope info callee args (allows h)
  | compound info stmts ih =>
    exact checkAll_enclose scope fun s hs => ih s hs (forall_mem_all_child h hs)
  | ifThen info condition thenStmt ih =>
    have hcondition := checkCondition_enclose scope .ifStmt ((allows h).expr List.mem_cons_self)
    exact hcondition.append (ih (forall_mem_all_child h List.mem_cons_self))
  | ifThenElse info condition thenStmt elseStmt ihthen ihelse =>
    have hcondition := checkCondition_enclose scope .ifStmt ((allows h).expr List.mem_cons_self)
    have hthen := ihthen (forall_mem_all_child h List.mem_cons_self)
    have helse := ihelse (forall_mem_all_child h (List.mem_cons_of_mem _ List.mem_cons_self))
    exact (hcondition.append hthen).append helse
  | repeatUntil info stmts condition ih =>
    have hstmts := checkAll_enclose scope fun s hs => ih s hs (forall_mem_all_child h hs)
    exact hstmts.append
      (checkCondition_enclose scope .repeatStmt ((allows h).expr List.mem_cons_self))
  | whileDo info condition body ih =>
    have hcondition := checkCondition_enclose scope .whileStmt ((allows h).expr List.mem_cons_self)
    exact hcondition.append (ih (forall_mem_all_child h List.mem_cons_self))
  | forDo info direction control initial final body ih =>
    have hcontrol := checkControl_enclose scope ((allows h).targets control List.mem_cons_self)
      ((allows h).expr List.mem_cons_self)
      ((allows h).expr (List.mem_cons_of_mem _ List.mem_cons_self))
    exact hcontrol.append (ih (forall_mem_all_child h List.mem_cons_self))
  | empty info => exact .none

end

end PascalCheck
