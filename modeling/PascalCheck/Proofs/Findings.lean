import PascalCheck.Check.Stmt
import PascalCheck.Proofs.Clean

/-!
What a check can find: it reports nothing but errors, none of them about a name that was declared
before, and the types that it gives and records come out of the scope or are built in.
-/

namespace PascalCheck

variable [Naming]

@[simp]
def Problem.isRedeclaration : Problem → Bool
  | .redeclared _ => true
  | _ => false

def Diagnostic.isRedeclaration (d : Diagnostic) : Bool :=
  match d.message with
  | .problem problem => problem.isRedeclaration
  | _ => false

/-- A class of types that holds what a check can take out of them. -/
structure Ty.Closed (Q : Ty → Prop) : Prop where
  builtIn : ∀ t : Ty, t.isBuiltIn = true → Q t
  result : ∀ t r : Ty, Q t → t.result? = some r → Q r
  alternative : ∀ (t : Ty) (ts : List Ty), Q t → t.alternatives? = some ts → ∀ r ∈ ts, Q r

def Scope.Within (Q : Ty → Prop) (scope : Scope) : Prop :=
  ∀ e ∈ scope.entries, Q e.type

structure Findings.Within (Q : Ty → Prop) (found : Findings) : Prop where
  errors : ∀ d ∈ found.diagnostics, d.severity = .error ∧ d.isRedeclaration = false
  types : ∀ r ∈ found.records, Q r.type
  actuals : ∀ a ∈ found.actuals, Q a.type

structure Typing.Within (Q : Ty → Prop) (t : Typing) : Prop where
  type : Q t.type
  findings : t.findings.Within Q

variable {Q : Ty → Prop}

namespace Findings

@[simp]
theorem within_none : Findings.none.Within Q := by
  constructor <;> simp

@[simp]
theorem within_record (id : Nat) (t : Ty) : (Findings.record id t).Within Q ↔ Q t := by
  constructor
  . intro h
    exact h.types ⟨id, t⟩ (List.mem_singleton_self _)
  . intro h
    constructor <;> simp [Findings.record, h]

@[simp]
theorem within_pass (mode : Mode) (t : Ty) : (Findings.pass mode t).Within Q ↔ Q t := by
  constructor
  . intro h
    exact h.actuals ⟨mode, t⟩ (List.mem_singleton_self _)
  . intro h
    constructor <;> simp [Findings.pass, h]

@[simp]
theorem within_error (place : Span) (problem : Problem) :
    (Findings.error place problem).Within Q ↔ problem.isRedeclaration = false := by
  constructor
  . intro h
    exact (h.errors _ (List.mem_singleton_self _)).2
  . intro h
    refine ⟨?_, by simp [Findings.error], by simp [Findings.error]⟩
    intro d hd
    rw [List.mem_singleton.mp hd]
    exact ⟨rfl, h⟩

@[simp]
theorem within_invalidConstant (scope : Scope) (place : Span) (context : String) :
    (Findings.invalidConstant scope place context).Within Q := by
  simp [Findings.invalidConstant]

@[simp]
theorem within_append (a b : Findings) : (a ++ b).Within Q ↔ a.Within Q ∧ b.Within Q := by
  constructor
  . intro h
    have herrors := h.errors
    have htypes := h.types
    have hactuals := h.actuals
    rw [diagnostics_append, List.forall_mem_append] at herrors
    rw [records_append, List.forall_mem_append] at htypes
    rw [actuals_append, List.forall_mem_append] at hactuals
    exact ⟨⟨herrors.1, htypes.2, hactuals.1⟩, ⟨herrors.2, htypes.1, hactuals.2⟩⟩
  . rintro ⟨ha, hb⟩
    constructor
    . rw [diagnostics_append, List.forall_mem_append]
      exact ⟨ha.errors, hb.errors⟩
    . rw [records_append, List.forall_mem_append]
      exact ⟨hb.types, ha.types⟩
    . rw [actuals_append, List.forall_mem_append]
      exact ⟨ha.actuals, hb.actuals⟩

end Findings

namespace Typing

@[simp]
theorem within_findings_record (t : Typing) (info : Info) :
    (t.record info).findings.Within Q ↔ t.findings.Within Q ∧ Q t.type := by
  simp [Typing.record]

@[simp]
theorem within_findings_reject (t : Typing) (place : Span) (problem : Problem) (type : Ty) :
    (t.reject place problem type).findings.Within Q ↔
      t.findings.Within Q ∧ problem.isRedeclaration = false := by
  simp [Typing.reject]

theorem Within.record {t : Typing} (info : Info) (h : t.Within Q) : (t.record info).Within Q :=
  ⟨h.type, (within_findings_record t info).mpr ⟨h.findings, h.type⟩⟩

end Typing

variable {scope : Scope}

theorem Name.check_within (hQ : ∀ t : Ty, t.isBuiltIn = true → Q t) (hscope : scope.Within Q)
    (name : Name) : (Name.check scope name).Within Q := by
  unfold Name.check
  split
  next t h =>
    obtain ⟨e, he, rfl⟩ := Scope.exists_entry_of_lookup? h
    exact ⟨hscope e he, Findings.within_none⟩
  . exact ⟨hQ .undefined rfl, by simp⟩

theorem Name.actuals_check (scope : Scope) (name : Name) :
    (Name.check scope name).findings.actuals = [] := by
  unfold Name.check
  split <;> rfl

theorem Name.check_isInvalidConstant (hscope : scope.Within (·.isSentinel = false)) (name : Name) :
    (Name.check scope name).type.isInvalidConstant = false := by
  unfold Name.check
  split
  next t ht =>
    obtain ⟨e, he, rfl⟩ := Scope.exists_entry_of_lookup? ht
    exact Ty.isInvalidConstant_eq_false (hscope e he)
  . rfl

namespace Const

theorem applySign_findings_within (place : Span) (sign : Sign) (operand : Const) {t : Typing}
    (h : t.findings.Within Q) : (applySign scope place sign operand t).findings.Within Q := by
  unfold applySign
  split
  . split <;> simp [h]
  . split <;> simp [h]

theorem applySign_type_within (hQ : ∀ t : Ty, t.isBuiltIn = true → Q t) (place : Span)
    (sign : Sign) (operand : Const) {t : Typing} (h : Q t.type) :
    Q (applySign scope place sign operand t).type := by
  unfold applySign
  split
  . split
    . exact h
    . exact hQ .invalidConstant rfl
  . split
    . exact h
    . exact hQ .error rfl

theorem applySignToName_findings_within (place : Span) (sign : Sign) (name : Name) {t : Typing}
    (h : t.findings.Within Q) : (applySignToName place sign name t).findings.Within Q := by
  unfold applySignToName
  split <;> simp [h]

theorem applySignToName_type_within (hQ : ∀ t : Ty, t.isBuiltIn = true → Q t) (place : Span)
    (sign : Sign) (name : Name) {t : Typing} (h : Q t.type) :
    Q (applySignToName place sign name t).type := by
  unfold applySignToName
  split
  . exact h
  . exact hQ .error rfl

theorem lexeme_within (hQ : ∀ t : Ty, t.isBuiltIn = true → Q t) (lexeme : String) (p : Primitive) :
    (Typing.silent (lexemeType lexeme (.primitive p))).Within Q := by
  refine ⟨hQ _ ?_, Findings.within_none⟩
  unfold lexemeType
  split <;> rfl

theorem check_within (hQ : ∀ t : Ty, t.isBuiltIn = true → Q t) (hscope : scope.Within Q)
    (c : Const) : (c.check scope).Within Q := by
  induction c with
  | integer info lexeme => exact (lexeme_within hQ lexeme.value .integer).record info
  | chr info lexeme => exact (lexeme_within hQ lexeme.value .char).record info
  | signed info sign operand ih =>
    exact Typing.Within.record info ⟨applySign_type_within hQ _ _ _ ih.type,
      applySign_findings_within _ _ _ ih.findings⟩
  | named info name => exact (Name.check_within hQ hscope name).record info
  | signedNamed info sign name =>
    have hname := Name.check_within hQ hscope name
    exact Typing.Within.record info ⟨applySignToName_type_within hQ _ _ _ hname.type,
      applySignToName_findings_within _ _ _ hname.findings⟩
  | _ => exact Typing.Within.record _ ⟨hQ _ rfl, Findings.within_none⟩

theorem actuals_check (scope : Scope) (c : Const) : (c.check scope).findings.actuals = [] := by
  -- There are no calls in constants.
  induction c with
  | signed info sign operand ih =>
    simp only [check, applySign, Typing.record, Findings.actuals_append]
    split <;> split <;> simp [Typing.reject, Findings.record, Findings.error, ih]
  | named info name => simp [check, Typing.record, Findings.record, Name.actuals_check]
  | signedNamed info sign name =>
    simp only [check, applySignToName, Typing.record, Findings.actuals_append]
    split <;> simp [Typing.reject, Findings.record, Findings.error, Name.actuals_check]
  | _ => rfl

end Const

namespace Call

theorem findings_within {a : Argument} (h : a.typing.Within Q) : (a.findings scope).Within Q := by
  have htype : Q a.type := h.type
  unfold Argument.findings
  split <;> simp [h.findings, htype]

theorem argumentFindings_within {args : List Argument}
    (h : ∀ a ∈ args, a.typing.Within Q) : (argumentFindings scope args).Within Q := by
  induction args with
  | nil => simp [argumentFindings]
  | cons a args ih =>
    rw [List.forall_mem_cons] at h
    simp [argumentFindings, findings_within h.1, ih h.2]

theorem passArgument_within (c : Call) (position : Nat) (formal : Ty) {a : Argument}
    (h : a.typing.Within Q) : (c.passArgument scope position formal a).Within Q := by
  unfold passArgument
  rw [Findings.within_append]
  refine ⟨findings_within h, ?_⟩
  split
  . split
    . simp
    next mismatch _ => cases mismatch <;> simp [mismatchProblem]
  . simp

theorem passArguments_within (c : Call) (position : Nat) (formals : List Ty)
    {args : List Argument} (h : ∀ a ∈ args, a.typing.Within Q) :
    (c.passArguments scope position formals args).Within Q := by
  induction formals generalizing position args with
  | nil => exact argumentFindings_within h
  | cons formal formals ih =>
    cases args with
    | nil => exact argumentFindings_within h
    | cons a args =>
      rw [List.forall_mem_cons] at h
      simp [passArguments, passArgument_within c position formal h.1, ih _ h.2]

theorem resolve_findings_within (c : Call) (type : Ty)
    (h : ∀ a ∈ c.args, a.typing.Within Q) : (c.resolve scope type).findings.Within Q := by
  unfold resolve
  split
  . simp only [resolveOverloaded]
    split
    . split <;> simp [argumentFindings_within h]
    . exact argumentFindings_within h
  . simp only [resolveSingle]
    split
    . simp
    . exact passArguments_within c 1 type.params h

theorem check_findings_within (c : Call) (hcallee : (Name.check scope c.callee).findings.Within Q)
    (h : ∀ a ∈ c.args, a.typing.Within Q) : (c.check scope).findings.Within Q := by
  simp only [check]
  split
  . exact hcallee
  . split
    . simp [hcallee, resolve_findings_within c _ h]
    . simp [hcallee]

theorem check_checkAll_within (kind : RoutineKind) {callee : Name} {args : List Expr}
    (place : Span) (hcallee : (Name.check scope callee).findings.Within Q)
    (h : ∀ e ∈ args, (e.check scope).Within Q) :
    (Call.check scope ⟨kind, callee, Expr.checkAll scope args, place⟩).findings.Within Q := by
  apply check_findings_within
  . exact hcallee
  . rw [Expr.checkAll_eq_map, List.forall_mem_map]
    exact h

theorem check_routine_within (hQ : Ty.Closed Q) (hscope : scope.Within Q) (c : Call) {routine : Ty}
    (h : (c.check scope).routine? = some routine) : Q routine := by
  have hcallee := (Name.check_within hQ.builtIn hscope c.callee).type
  simp only [check] at h
  split at h
  . cases h
  . split at h
    -- A call refers to what its callee is bound to or, in an overload set, to an alternative of it.
    . unfold resolve at h
      split at h
      next alternatives halternatives =>
        apply hQ.alternative _ _ hcallee halternatives
        simp only [resolveOverloaded] at h
        split at h
        . split at h
          next hfind =>
            cases h
            exact List.mem_of_find?_eq_some hfind
          . cases h
        . cases h
      . simp only [resolveSingle] at h
        split at h
        . cases h
          exact hcallee
        . cases h
          exact hcallee
    . cases h

end Call

namespace Expr

theorem applyUnary_findings_within (place : Span) (op : UnaryOp) (operand : Expr) {t : Typing}
    (h : t.findings.Within Q) : (applyUnary place op operand t).findings.Within Q := by
  unfold applyUnary
  split <;> simp [h]

theorem applyUnary_type_within (hQ : Ty.Closed Q) (place : Span) (op : UnaryOp) (operand : Expr)
    {t : Typing} (h : Q t.type) : Q (applyUnary place op operand t).type := by
  unfold applyUnary
  split
  . exact h
  . exact hQ.builtIn .error rfl

theorem faultDiagnostic_error (place : Span) (op : BinaryOp) (left right : Expr) (l r : Ty)
    (fault : OperandFault) :
    (faultDiagnostic place op left right l r fault).severity = .error ∧
      (faultDiagnostic place op left right l r fault).isRedeclaration = false := by
  cases fault <;> exact ⟨rfl, rfl⟩

theorem applyBinary_findings_within (place : Span) (op : BinaryOp) (left right : Expr)
    {l r : Typing} (hl : l.findings.Within Q) (hr : r.findings.Within Q) :
    (applyBinary place op left right l r).findings.Within Q := by
  have hfaults : Findings.Within Q (.reports ((op.judge l.type r.type).faults.map
      (faultDiagnostic place op left right l.type r.type))) := by
    constructor
    . intro d hd
      obtain ⟨fault, -, rfl⟩ := List.mem_map.mp hd
      apply faultDiagnostic_error
    . simp [Findings.reports]
    . simp [Findings.reports]
  simp [applyBinary, hl, hr, hfaults]

theorem applyCall_type_within (hQ : Ty.Closed Q) (hscope : scope.Within Q) (c : Call) :
    Q (applyCall (c.check scope)).type := by
  unfold applyCall
  cases hresult : (c.check scope).routine?.bind Ty.result? with
  | none => exact hQ.builtIn .error rfl
  | some result =>
    obtain ⟨routine, hroutine, hresult⟩ := Option.bind_eq_some_iff.mp hresult
    exact hQ.result routine result (c.check_routine_within hQ hscope hroutine) hresult

theorem check_within (hQ : Ty.Closed Q) (hscope : scope.Within Q) (e : Expr) :
    (e.check scope).Within Q := by
  induction e using Expr.induction with
  | const info c => exact (c.check_within hQ.builtIn hscope).record info
  | var info name => exact (Name.check_within hQ.builtIn hscope name).record info
  | call info callee args ih =>
    have hfindings := Call.check_checkAll_within .function info.span
      (Name.check_within hQ.builtIn hscope callee).findings ih
    exact Typing.Within.record info ⟨applyCall_type_within hQ hscope _, hfindings⟩
  | paren info inner ih => exact ih.record info
  | unary info op operand ih =>
    exact Typing.Within.record info ⟨applyUnary_type_within hQ _ _ _ ih.type,
      applyUnary_findings_within _ _ _ ih.findings⟩
  | binary info op left right ihl ihr =>
    exact Typing.Within.record info ⟨hQ.builtIn _ (op.value.judge_isBuiltIn _ _),
      applyBinary_findings_within _ _ _ _ ihl.findings ihr.findings⟩

end Expr

theorem checkAssignment_within (info : Info) {target : Target} {value : Expr}
    (htarget : (Name.check scope target.name).Within Q)
    (hvalue : (value.check scope).findings.Within Q) :
    (checkAssignment scope info target value).Within Q := by
  have htarget := htarget.record target.info
  unfold checkAssignment
  simp only [Findings.within_append]
  refine ⟨⟨⟨hvalue, htarget.findings⟩, ?_⟩, ?_⟩
  . split
    . simp
    next fault _ => cases fault <;> simp [AssignmentFault.problem]
  . split
    . simpa using htarget.type
    . simp

theorem checkCondition_within (stmt : Conditional) {e : Expr}
    (h : (e.check scope).findings.Within Q) : (checkCondition scope stmt e).Within Q := by
  unfold checkCondition
  rw [Findings.within_append]
  refine ⟨h, ?_⟩
  split
  . simp
  . split <;> simp

theorem checkLimit_within (limit : Limit) (control : Name) (controlType : Ty) {e : Expr}
    (h : (e.check scope).findings.Within Q) :
    (checkLimit scope limit control controlType e).Within Q := by
  unfold checkLimit
  rw [Findings.within_append]
  refine ⟨h, ?_⟩
  split
  . simp
  . split <;> simp

theorem checkControl_within {control : Target} {initial final : Expr}
    (hcontrol : (Name.check scope control.name).Within Q)
    (hinitial : (initial.check scope).findings.Within Q)
    (hfinal : (final.check scope).findings.Within Q) :
    (checkControl scope control initial final).Within Q := by
  unfold checkControl
  rw [Findings.within_append]
  refine ⟨(hcontrol.record control.info).findings, ?_⟩
  split
  . simp
  . split <;> simp [checkLimit_within, hinitial, hfinal]

namespace Stmt

theorem checkAll_within {stmts : List Stmt} (h : ∀ s ∈ stmts, (s.check scope).Within Q) :
    (checkAll scope stmts).Within Q := by
  induction stmts with
  | nil => simp [checkAll]
  | cons s stmts ih =>
    rw [List.forall_mem_cons] at h
    simp [checkAll, h.1, ih h.2]

theorem check_within (hQ : Ty.Closed Q) (hscope : scope.Within Q) (s : Stmt) :
    (s.check scope).Within Q := by
  have hname := Name.check_within hQ.builtIn hscope
  have hexpr (e : Expr) := (e.check_within hQ hscope).findings
  induction s using Stmt.induction with
  | assign info target value => exact checkAssignment_within info (hname _) (hexpr value)
  | call info callee args =>
    exact Call.check_checkAll_within .procedure info.span (hname callee).findings fun e _ =>
      e.check_within hQ hscope
  | compound info stmts ih => exact checkAll_within ih
  | ifThen info condition thenStmt ih => simp [check, checkCondition_within, hexpr, ih]
  | ifThenElse info condition thenStmt elseStmt ihthen ihelse =>
    simp [check, checkCondition_within, hexpr, ihthen, ihelse]
  | repeatUntil info stmts condition ih =>
    simp [check, checkAll_within ih, checkCondition_within, hexpr]
  | whileDo info condition body ih => simp [check, checkCondition_within, hexpr, ih]
  | forDo info direction control initial final body ih =>
    simp [check, checkControl_within (hname _), hexpr, ih]
  | empty info => simp [check]

end Stmt

end PascalCheck
