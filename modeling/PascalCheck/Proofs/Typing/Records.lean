import PascalCheck.Proofs.Findings
import PascalCheck.Proofs.Typing.Stmt

/-!
What is recorded where nothing is reported. Inside an accepted expression or statement no sentinel
is recorded at all; a constant that is checked in silence has its own type recorded throughout.
-/

namespace PascalCheck

def Const.ids : Const → List Nat
  | .signed info _ operand => info.id :: operand.ids
  | c => [c.info.id]

theorem Typing.records_record (t : Typing) (info : Info) :
    (t.record info).findings.records = ⟨info.id, t.type⟩ :: t.findings.records := rfl

theorem Name.records_check (scope : Scope) (name : Name) :
    (Name.check scope name).findings.records = [] := by
  unfold Name.check
  split <;> rfl

namespace Const

theorem records_applySignToName (place : Span) (sign : Sign) (name : Name) (t : Typing) :
    (applySignToName place sign name t).findings.records = t.findings.records := by
  unfold applySignToName
  split <;> rfl

theorem records_of_silent {scope : Scope} {c : Const} (h : (c.check scope).findings.Silent) :
    ∀ r ∈ (c.check scope).findings.records, r.type = (c.check scope).type ∧ r.id ∈ c.ids := by
  induction c with
  | signed info sign operand ih =>
    rw [check, Typing.findings_record, Findings.silent_append] at h
    have heq := (applySign_of_silent h.1).1
    rw [heq] at h
    rw [check, heq, Typing.records_record, List.forall_mem_cons]
    refine ⟨⟨rfl, List.mem_cons_self ..⟩, ?_⟩
    intro r hr
    obtain ⟨htype, hid⟩ := ih h.1 r hr
    exact ⟨htype, List.mem_cons_of_mem _ hid⟩
  | named info name =>
    rw [check, Typing.records_record, Name.records_check]
    simp [ids, Const.info]
  | signedNamed info sign name =>
    rw [check, Typing.records_record, records_applySignToName, Name.records_check]
    simp [ids, Const.info]
  | _ =>
    rw [check, Typing.records_record]
    simp [ids, Const.info]

theorem Typed.findings_clean {scope : Scope} (hscope : scope.Sound) {c : Const} {t : Ty}
    (h : c.Typed scope t) : (c.check scope).findings.Within fun t => t.isClean = true := by
  obtain ⟨hsilent, htype⟩ := h.check_eq
  constructor
  . rw [hsilent]
    simp
  . intro r hr
    rw [(records_of_silent hsilent r hr).1, htype]
    exact h.isClean hscope
  . rw [actuals_check]
    simp

end Const

theorem Name.check_clean {scope : Scope} (hscope : scope.Sound) {name : Name} {t : Ty}
    (h : scope.lookup? name.value = some t) :
    (Name.check scope name).Within fun t => t.isClean = true := by
  rw [Name.check_of_lookup? h]
  exact ⟨hscope.clean_of_lookup? h, Findings.within_none⟩

namespace Expr

theorem Typed.type_clean {scope : Scope} (hscope : scope.Sound) {e : Expr} {t : Ty}
    (h : e.Typed scope t) : (e.check scope).type.isClean = true := by
  rw [(h.accepted hscope).2.1]
  exact h.isClean hscope

theorem Typed.findings_clean {scope : Scope} (hscope : scope.Sound) {e : Expr} {t : Ty}
    (h : e.Typed scope t) : (e.check scope).findings.Within fun t => t.isClean = true := by
  have htype := h.type_clean hscope
  -- The type of the expression itself is recorded last; the cases are about what comes before.
  induction e using Expr.induction generalizing t with
  | const info c =>
    refine (Typing.within_findings_record _ _).mpr ⟨?_, htype⟩
    cases h with
    | const h => exact h.findings_clean hscope
  | var info name =>
    refine (Typing.within_findings_record _ _).mpr ⟨?_, htype⟩
    cases h with
    | var h => exact (Name.check_clean hscope h).findings
  | call info callee args ih =>
    refine (Typing.within_findings_record _ _).mpr ⟨?_, htype⟩
    cases h with
    | call hlookup hargs _ _ =>
      apply Call.check_checkAll_within
      . exact (Name.check_clean hscope hlookup).findings
      . intro e he
        have haccepted := forall₂_accepted_iff.mp (hargs.imp fun _ _ h => h.accepted hscope)
        have h := typed_of_accepted hscope (haccepted.2 e he)
        exact ⟨h.type_clean hscope, ih e he h (h.type_clean hscope)⟩
  | paren info inner ih =>
    refine (Typing.within_findings_record _ _).mpr ⟨?_, htype⟩
    cases h with
    | paren h => exact ih h (h.type_clean hscope)
  | unary info op operand ih =>
    refine (Typing.within_findings_record _ _).mpr ⟨?_, htype⟩
    cases h with
    | unary h _ => exact applyUnary_findings_within _ _ _ (ih h (h.type_clean hscope))
  | binary info op left right ihl ihr =>
    refine (Typing.within_findings_record _ _).mpr ⟨?_, htype⟩
    cases h with
    | binary hl hr _ =>
      exact applyBinary_findings_within _ _ _ _ (ihl hl (hl.type_clean hscope))
        (ihr hr (hr.type_clean hscope))

theorem Accepted.check_clean {scope : Scope} (hscope : scope.Sound) {e : Expr} {t : Ty}
    (h : e.Accepted scope t) : (e.check scope).Within fun t => t.isClean = true :=
  have htyped := typed_of_accepted hscope h
  ⟨htyped.type_clean hscope, htyped.findings_clean hscope⟩

end Expr

theorem checkCondition_clean {scope : Scope} (hscope : scope.Sound) (stmt : Conditional) {e : Expr}
    (h : e.IsCondition scope) : (checkCondition scope stmt e).Within fun t => t.isClean = true := by
  obtain ⟨t, haccepted, -⟩ := h
  exact checkCondition_within stmt (haccepted.check_clean hscope).findings

theorem Stmt.WellFormed.findings_clean {scope : Scope} (hscope : scope.Sound) {s : Stmt}
    (h : s.WellFormed scope) : (s.check scope).Within fun t => t.isClean = true := by
  have hcheck := @checkCondition_clean scope hscope
  induction h with
  | assign hlookup hvalue _ =>
    exact checkAssignment_within _ (Name.check_clean hscope hlookup)
      (hvalue.check_clean hscope).findings
  | call hcalls =>
    obtain ⟨type, types, hlookup, hargs, -, -⟩ := hcalls
    apply Call.check_checkAll_within
    . exact (Name.check_clean hscope hlookup).findings
    . intro e he
      exact ((Expr.forall₂_accepted_iff.mp hargs).2 e he).check_clean hscope
  | compound _ ih => exact Stmt.checkAll_within ih
  | ifThen hcondition _ ih =>
    rw [Stmt.check, Findings.within_append]
    exact ⟨hcheck _ hcondition, ih⟩
  | ifThenElse hcondition _ _ ihthen ihelse =>
    rw [Stmt.check, Findings.within_append, Findings.within_append]
    exact ⟨⟨hcheck _ hcondition, ihthen⟩, ihelse⟩
  | repeatUntil _ hcondition ih =>
    rw [Stmt.check, Findings.within_append]
    exact ⟨Stmt.checkAll_within ih, hcheck _ hcondition⟩
  | whileDo hcondition _ ih =>
    rw [Stmt.check, Findings.within_append]
    exact ⟨hcheck _ hcondition, ih⟩
  | forDo hlookup _ hinitial hfinal _ ih =>
    obtain ⟨_, hinitial, -⟩ := hinitial
    obtain ⟨_, hfinal, -⟩ := hfinal
    rw [Stmt.check, Findings.within_append]
    exact ⟨checkControl_within (Name.check_clean hscope hlookup)
      (hinitial.check_clean hscope).findings (hfinal.check_clean hscope).findings, ih⟩
  | empty => exact Findings.within_none

end PascalCheck
