import PascalCheck.Check.Stmt
import PascalCheck.Proofs.Typing.Expr

/-!
Well-formed statements, and that the check of a statement is silent exactly about these. That an
expression has a type means here that its check accepts it with that type.
-/

namespace PascalCheck

inductive Expr.CharLiteral : Expr → Prop where
  | string {info constInfo contents} :
      contents.value.length = 1 → CharLiteral (.const info (.string constInfo contents))
  | paren {info inner} : CharLiteral inner → CharLiteral (.paren info inner)

inductive Ty.Converts (e : Expr) : Ty → Ty → Prop where
  | integer {target value : Ty} :
      target.bare = .real → value.bare = .integer → Converts e target value
  | literal {target value : Ty} :
      target.bare = .char → value.bare = .string → e.CharLiteral → Converts e target value

inductive Ty.Assigns (e : Expr) : Ty → Ty → Prop where
  | direct {target value : Ty} :
      target.equiv value = true ∨ Converts e target value → Assigns e target value
  | result {tag params result value} :
      value.equiv result = true ∨ Converts e result value →
      Assigns e (.function tag params result) value
  | call {target : Ty} {tag params result} :
      target.isProcedure = false → target.isFunction = false →
      target.equiv result = true ∨ Converts e target result →
      Assigns e target (.function tag params result)

def Expr.IsCondition (scope : Scope) (e : Expr) : Prop :=
  ∃ t, e.Accepted scope t ∧ t.bare = .boolean

def Expr.IsLimit (scope : Scope) (control : Ty) (e : Expr) : Prop :=
  ∃ t, e.Accepted scope t ∧ t.equiv control = true

inductive Stmt.WellFormed (scope : Scope) : Stmt → Prop where
  | assign {info target value s t} :
      scope.lookup? target.name.value = some s → Expr.Accepted scope value t →
      Ty.Assigns value s t → WellFormed scope (.assign info target value)
  | call {info callee args routine} :
      scope.Calls .procedure callee (args.getD []) routine →
      WellFormed scope (.call info callee args)
  | compound {info stmts} :
      (∀ s ∈ stmts, WellFormed scope s) → WellFormed scope (.compound info stmts)
  | ifThen {info condition thenStmt} :
      Expr.IsCondition scope condition → WellFormed scope thenStmt →
      WellFormed scope (.ifThen info condition thenStmt)
  | ifThenElse {info condition thenStmt elseStmt} :
      Expr.IsCondition scope condition → WellFormed scope thenStmt → WellFormed scope elseStmt →
      WellFormed scope (.ifThenElse info condition thenStmt elseStmt)
  | repeatUntil {info stmts condition} :
      (∀ s ∈ stmts, WellFormed scope s) → Expr.IsCondition scope condition →
      WellFormed scope (.repeatUntil info stmts condition)
  | whileDo {info condition body} :
      Expr.IsCondition scope condition → WellFormed scope body →
      WellFormed scope (.whileDo info condition body)
  | forDo {info direction control initial final body s} :
      scope.lookup? control.name.value = some s → s.Ordinal → Expr.IsLimit scope s initial →
      Expr.IsLimit scope s final → WellFormed scope body →
      WellFormed scope (.forDo info direction control initial final body)
  | empty {info} : WellFormed scope (.empty info)

theorem Expr.isCharLiteral_iff (e : Expr) : e.isCharLiteral = true ↔ e.CharLiteral := by
  fun_induction isCharLiteral e with
  | case1 info constInfo contents =>
    rw [beq_iff_eq]
    constructor
    . exact .string
    . intro h
      cases h with
      | string h => exact h
  | case2 info inner ih =>
    rw [ih]
    constructor
    . exact .paren
    . intro h
      cases h with
      | paren h => exact h
  | case3 e hstring hparen =>
    simp only [Bool.false_eq_true, false_iff]
    intro h
    cases h with
    | string _ => exact hstring _ _ _ rfl
    | paren _ => exact hparen _ _ rfl

theorem converts_iff (target value : Ty) (e : Expr) :
    converts target value e.isCharLiteral = true ↔ Ty.Converts e target value := by
  unfold converts
  rw [Bool.or_eq_true, Bool.and_eq_true, Bool.and_eq_true, Bool.and_eq_true,
    Expr.isCharLiteral_iff, Ty.isReal_iff, Ty.isInteger_iff, Ty.isChar_iff, Ty.isString_iff]
  constructor
  . rintro (⟨htarget, hvalue⟩ | ⟨⟨htarget, hvalue⟩, hliteral⟩)
    . exact .integer htarget hvalue
    . exact .literal htarget hvalue hliteral
  . intro h
    cases h with
    | integer htarget hvalue => exact .inl ⟨htarget, hvalue⟩
    | literal htarget hvalue hliteral => exact .inr ⟨⟨htarget, hvalue⟩, hliteral⟩

theorem assignable_iff (target value : Ty) (e : Expr) :
    assignable target value e.isCharLiteral = true ↔
      target.equiv value = true ∨ Ty.Converts e target value := by
  unfold assignable
  rw [Bool.or_eq_true, converts_iff]

theorem judgeAssignment_fault?_iff {target value : Ty} (htarget : target.isSentinel = false)
    (hvalue : value.isSentinel = false) (e : Expr) :
    (judgeAssignment target value e.isCharLiteral).fault? = none ↔
      Ty.Assigns e target value := by
  rw [Ty.isSentinel_eq_false_iff] at htarget hvalue
  unfold judgeAssignment
  rw [if_neg (by simp [hvalue.2]), if_neg (by simp [htarget.1, hvalue.1])]
  by_cases hdirect : assignable target value e.isCharLiteral = true
  . rw [if_pos hdirect]
    exact ⟨fun _ => .direct ((assignable_iff target value e).mp hdirect), fun _ => rfl⟩
  . rw [if_neg hdirect]
    rw [assignable_iff] at hdirect
    -- A function as the target goes before a function as the value.
    split
    . simp only [reduceCtorEq, false_iff]
      intro h
      cases h with
      | direct h => exact hdirect h
      | call h _ _ => cases h
    . next tag params result =>
      split
      . next h =>
        rw [Bool.or_eq_true, converts_iff] at h
        exact ⟨fun _ => .result h, fun _ => rfl⟩
      . next hresult =>
        rw [Bool.or_eq_true, converts_iff] at hresult
        simp only [reduceCtorEq, false_iff]
        intro h
        cases h with
        | direct h => exact hdirect h
        | result h => exact hresult h
        | call _ h _ => cases h
    . next tag params result hprocedure hfunction =>
      have hnot : target.isProcedure = false ∧ target.isFunction = false := by
        cases target with
        | procedure _ _ => exact absurd rfl (hprocedure _ _)
        | function _ _ _ => exact absurd rfl (hfunction _ _ _)
        | _ => exact ⟨rfl, rfl⟩
      split
      . next h =>
        rw [assignable_iff] at h
        exact ⟨fun _ => .call hnot.1 hnot.2 h, fun _ => rfl⟩
      . next hcall =>
        rw [assignable_iff] at hcall
        simp only [reduceCtorEq, false_iff]
        intro h
        cases h with
        | direct h => exact hdirect h
        | result _ => exact hfunction _ _ _ rfl
        | call _ _ h => exact hcall h
    . next hprocedure hfunction hcall =>
      simp only [reduceCtorEq, false_iff]
      intro h
      cases h with
      | direct h => exact hdirect h
      | result _ => exact hfunction _ _ _ rfl
      | call _ _ _ => exact hcall _ _ _ rfl

theorem Expr.accepted_of_silent {scope : Scope} (hscope : scope.Sound) {e : Expr}
    (h : (e.check scope).findings.Silent)
    (hvalid : (e.check scope).type.isInvalidConstant = false) :
    e.Accepted scope (e.check scope).type :=
  ⟨h, rfl, (Ty.isSentinel_eq_false_iff _).mpr ⟨settled hscope e h, hvalid⟩⟩

theorem checkCondition_silent_iff {scope : Scope} (hscope : scope.Sound) (stmt : Conditional)
    (e : Expr) : (checkCondition scope stmt e).Silent ↔ e.IsCondition scope := by
  unfold checkCondition
  rw [Findings.silent_append]
  constructor
  . rintro ⟨hsilent, hrest⟩
    split at hrest
    . simp at hrest
    . next hvalid =>
      rw [Bool.not_eq_true] at hvalid
      split at hrest
      . next hboolean =>
        rw [Expr.settled hscope e hsilent, Bool.false_or, Ty.isBoolean_iff] at hboolean
        exact ⟨_, Expr.accepted_of_silent hscope hsilent hvalid, hboolean⟩
      . simp at hrest
  . rintro ⟨t, ⟨hsilent, rfl, hsentinel⟩, hboolean⟩
    rw [← Ty.isBoolean_iff] at hboolean
    simp [hsilent, Ty.isInvalidConstant_eq_false hsentinel, hboolean]

theorem checkLimit_silent_iff {scope : Scope} (hscope : scope.Sound) (limit : Limit)
    (control : Name) (controlType : Ty) (e : Expr) :
    (checkLimit scope limit control controlType e).Silent ↔ e.IsLimit scope controlType := by
  unfold checkLimit
  rw [Findings.silent_append]
  constructor
  . rintro ⟨hsilent, hrest⟩
    split at hrest
    . simp at hrest
    . next hvalid =>
      rw [Bool.not_eq_true] at hvalid
      split at hrest
      . next hequiv =>
        rw [Expr.settled hscope e hsilent, Bool.false_or] at hequiv
        exact ⟨_, Expr.accepted_of_silent hscope hsilent hvalid, hequiv⟩
      . simp at hrest
  . rintro ⟨t, ⟨hsilent, rfl, hsentinel⟩, hequiv⟩
    simp [hsilent, Ty.isInvalidConstant_eq_false hsentinel, hequiv]

theorem checkControl_silent_iff {scope : Scope} (hscope : scope.Sound) (control : Target)
    (initial final : Expr) :
    (checkControl scope control initial final).Silent ↔
      ∃ s, scope.lookup? control.name.value = some s ∧ s.Ordinal ∧ initial.IsLimit scope s ∧
        final.IsLimit scope s := by
  unfold checkControl
  simp only [Typing.findings_record, Findings.silent_append, Findings.silent_record, and_true]
  constructor
  . rintro ⟨hname, hrest⟩
    have hlookup := Name.lookup?_of_silent hname
    have hclean := Ty.isSentinel_eq_false_of_isClean (hscope.clean_of_lookup? hlookup)
    split at hrest
    . next herror =>
      rw [Typing.type_record, Ty.isError_eq_false hclean] at herror
      cases herror
    . split at hrest
      . next hordinal =>
        rw [Findings.silent_append, checkLimit_silent_iff hscope, checkLimit_silent_iff hscope]
          at hrest
        exact ⟨_, hlookup, (Ty.isOrdinal_iff _).mp hordinal, hrest.1, hrest.2⟩
      . simp at hrest
  . rintro ⟨s, hlookup, hordinal, hinitial, hfinal⟩
    have hclean := Ty.isSentinel_eq_false_of_isClean (hscope.clean_of_lookup? hlookup)
    rw [← Ty.isOrdinal_iff] at hordinal
    simp [Name.check_of_lookup? hlookup, Ty.isError_eq_false hclean, hordinal,
      checkLimit_silent_iff hscope, hinitial, hfinal]

theorem checkAssignment_silent_iff {scope : Scope} (hscope : scope.Sound) (info : Info)
    (target : Target) (value : Expr) :
    (checkAssignment scope info target value).Silent ↔
      ∃ s t, scope.lookup? target.name.value = some s ∧ value.Accepted scope t ∧
        Ty.Assigns value s t := by
  have hresult {b : Bool} {t : Ty} :
      (if b = true then Findings.record info.id t else .none).Silent := by
    split <;> simp
  unfold checkAssignment
  simp only [Typing.findings_record, Findings.silent_append, Findings.silent_record, and_true,
    hresult]
  constructor
  . rintro ⟨⟨hsilent, hname⟩, hreport⟩
    have hlookup := Name.lookup?_of_silent hname
    have hclean := Ty.isSentinel_eq_false_of_isClean (hscope.clean_of_lookup? hlookup)
    split at hreport
    . next hfault =>
      have hvalid : (value.check scope).type.isInvalidConstant = false := by
        by_contra hinvalid
        rw [Bool.not_eq_false] at hinvalid
        simp [judgeAssignment, hinvalid] at hfault
      have haccepted := Expr.accepted_of_silent hscope hsilent hvalid
      have hassigns := (judgeAssignment_fault?_iff hclean haccepted.2.2 value).mp hfault
      exact ⟨_, _, hlookup, haccepted, hassigns⟩
    . simp at hreport
  . rintro ⟨s, t, hlookup, ⟨hsilent, rfl, hsentinel⟩, hassigns⟩
    have hclean := Ty.isSentinel_eq_false_of_isClean (hscope.clean_of_lookup? hlookup)
    rw [← judgeAssignment_fault?_iff hclean hsentinel] at hassigns
    simp [Name.check_of_lookup? hlookup, hsilent, hassigns]

theorem checkProcedureCall_silent_iff {scope : Scope} (hscope : scope.Sound) (place : Span)
    (callee : Name) (args : Option (List Expr)) :
    (checkProcedureCall scope place callee args).Silent ↔
      ∃ routine, scope.Calls .procedure callee (args.getD []) routine := by
  unfold checkProcedureCall
  constructor
  . intro h
    obtain ⟨routine, hcalls, -⟩ :=
      Call.calls_of_check hscope (fun e _ => Expr.settled hscope e) h
    exact ⟨routine, hcalls⟩
  . rintro ⟨routine, hcalls⟩
    exact (Call.check_of_calls hscope place hcalls).2

namespace Stmt

theorem checkAll_silent_iff (scope : Scope) (stmts : List Stmt) :
    (checkAll scope stmts).Silent ↔ ∀ s ∈ stmts, (s.check scope).Silent := by
  induction stmts with
  | nil => simp [checkAll]
  | cons s stmts ih => simp [checkAll, ih]

theorem wellFormed_of_silent {scope : Scope} (hscope : scope.Sound) {s : Stmt}
    (h : (s.check scope).Silent) : s.WellFormed scope := by
  induction s using Stmt.induction with
  | assign info target value =>
    rw [check, checkAssignment_silent_iff hscope] at h
    obtain ⟨s, t, hlookup, haccepted, hassigns⟩ := h
    exact .assign hlookup haccepted hassigns
  | call info callee args =>
    rw [check, checkProcedureCall_silent_iff hscope] at h
    obtain ⟨routine, hcalls⟩ := h
    exact .call hcalls
  | compound info stmts ih =>
    rw [check, checkAll_silent_iff] at h
    exact .compound fun s hs => ih s hs (h s hs)
  | ifThen info condition thenStmt ih =>
    rw [check, Findings.silent_append, checkCondition_silent_iff hscope] at h
    exact .ifThen h.1 (ih h.2)
  | ifThenElse info condition thenStmt elseStmt ihthen ihelse =>
    rw [check, Findings.silent_append, Findings.silent_append,
      checkCondition_silent_iff hscope] at h
    exact .ifThenElse h.1.1 (ihthen h.1.2) (ihelse h.2)
  | repeatUntil info stmts condition ih =>
    rw [check, Findings.silent_append, checkAll_silent_iff, checkCondition_silent_iff hscope] at h
    exact .repeatUntil (fun s hs => ih s hs (h.1 s hs)) h.2
  | whileDo info condition body ih =>
    rw [check, Findings.silent_append, checkCondition_silent_iff hscope] at h
    exact .whileDo h.1 (ih h.2)
  | forDo info direction control initial final body ih =>
    rw [check, Findings.silent_append, checkControl_silent_iff hscope] at h
    obtain ⟨⟨s, hlookup, hordinal, hinitial, hfinal⟩, hbody⟩ := h
    exact .forDo hlookup hordinal hinitial hfinal (ih hbody)
  | empty info => exact .empty

theorem WellFormed.silent {scope : Scope} (hscope : scope.Sound) {s : Stmt}
    (h : s.WellFormed scope) : (s.check scope).Silent := by
  induction h with
  | assign hlookup haccepted hassigns =>
    rw [check, checkAssignment_silent_iff hscope]
    exact ⟨_, _, hlookup, haccepted, hassigns⟩
  | call hcalls =>
    rw [check, checkProcedureCall_silent_iff hscope]
    exact ⟨_, hcalls⟩
  | compound _ ih =>
    rw [check, checkAll_silent_iff]
    exact ih
  | ifThen hcondition _ ih =>
    rw [check, Findings.silent_append, checkCondition_silent_iff hscope]
    exact ⟨hcondition, ih⟩
  | ifThenElse hcondition _ _ ihthen ihelse =>
    rw [check, Findings.silent_append, Findings.silent_append, checkCondition_silent_iff hscope]
    exact ⟨⟨hcondition, ihthen⟩, ihelse⟩
  | repeatUntil _ hcondition ih =>
    rw [check, Findings.silent_append, checkAll_silent_iff, checkCondition_silent_iff hscope]
    exact ⟨ih, hcondition⟩
  | whileDo hcondition _ ih =>
    rw [check, Findings.silent_append, checkCondition_silent_iff hscope]
    exact ⟨hcondition, ih⟩
  | forDo hlookup hordinal hinitial hfinal _ ih =>
    rw [check, Findings.silent_append, checkControl_silent_iff hscope]
    exact ⟨⟨_, hlookup, hordinal, hinitial, hfinal⟩, ih⟩
  | empty => simp [check]

theorem check_silent_iff_wellFormed {scope : Scope} (hscope : scope.Sound) (s : Stmt) :
    (s.check scope).diagnostics = [] ↔ s.WellFormed scope := by
  constructor
  . exact wellFormed_of_silent hscope
  . intro h
    exact h.silent hscope

end Stmt

def Sample.loop : Stmt :=
  -- `begin half := 3; r := half; for k := 1 to 2 * n do if r <= 0.5 then put(k, r) end`.
  .compound here [
    .assign here ⟨here, word "half"⟩ (.const here (.integer here (word "3"))),
    .assign here ⟨here, word "r"⟩ (.var here (word "half")),
    .forDo here .to ⟨here, word "k"⟩ (.const here (.integer here (word "1")))
      (.binary here (word .multiply) (.const here (.integer here (word "2"))) (.var here (word "n")))
      (.ifThen here
        (.binary here (word .lessEqual) (.var here (word "r")) (.const here (.real here (word "0.5"))))
        (.call here (word "put") (some [.var here (word "k"), .var here (word "r")])))]

theorem Sample.loop_wellFormed : Stmt.WellFormed Sample.scope Sample.loop :=
  (Stmt.check_silent_iff_wellFormed Sample.scope_sound Sample.loop).mp (by rfl)

end PascalCheck
