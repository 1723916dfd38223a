import PascalCheck.Proofs.Constants
import PascalCheck.Proofs.Sentinels

/-!
What is reported about an expression in which one constant is no value. Operators pass the constant
on in silence, and whoever needs the value of the whole expression reports it once. A sign in front
of an integer that is too large has reported the constant before, which is not taken into account:
such a constant is reported twice.
-/

namespace PascalCheck

variable {scope : Scope}

namespace Const

def rangeReports : Const → List Diagnostic
  | .signed info sign (.integer _ lexeme) =>
    if Numeral.withinBounds .integer lexeme.value then []
    else [.error info.span (.signedOutOfRange (sign.value.text ++ lexeme.value) .integer)]
  | .signed _ _ operand => operand.rangeReports
  | _ => []

theorem length_rangeReports (c : Const) : c.rangeReports.length ≤ 1 := by
  fun_induction rangeReports c with
  | case1 => simp
  | case2 => simp
  | case3 _ _ _ _ ih => exact ih
  | case4 => simp

theorem applySign_of_invalid {place : Span} {sign : Sign} {operand : Const} {t : Typing}
    (hoperand : ∀ info lexeme, operand ≠ .integer info lexeme)
    (h : (applySign scope place sign operand t).type.isInvalidConstant = true) :
    applySign scope place sign operand t = t := by
  unfold applySign at h ⊢
  split at h
  next info lexeme => exact absurd rfl (hoperand info lexeme)
  next =>
    split at h
    . next hclass => rw [if_pos hclass]
    . cases h

theorem diagnostics_of_invalid (hscope : scope.Within (·.isSentinel = false)) {c : Const}
    (h : (c.check scope).type.isInvalidConstant = true) :
    (c.check scope).findings.diagnostics = c.rangeReports := by
  induction c with
  | signed info sign operand ih =>
    rw [check, Typing.type_record] at h
    rw [check, Typing.diagnostics_record]
    cases operand with
    | integer info' lexeme =>
      simp only [applySign, Scope.bounds_eq, rangeReports]
      split <;> rfl
    | _ =>
      have happly := applySign_of_invalid (by simp) h
      rw [happly] at h ⊢
      exact ih h
  | named info name => simp [check, Name.check_isInvalidConstant hscope] at h
  | signedNamed info sign name =>
    have hname := Name.check_isInvalidConstant hscope name
    rw [check, Typing.type_record, applySignToName] at h
    split at h
    . simp [hname] at h
    . cases h
  | _ => rfl

theorem rangeReports_eq_nil_iff (hscope : scope.Within (·.isSentinel = false)) {c : Const}
    (h : (c.check scope).type.isInvalidConstant = true) :
    c.rangeReports = [] ↔ c.isOverlooked = true := by
  rw [isOverlooked_iff hscope, and_iff_right h, Findings.Silent, diagnostics_of_invalid hscope h]

end Const

namespace Expr

def Faultless (scope : Scope) (e : Expr) : Prop :=
  (e.check scope).findings.Silent ∧ (e.check scope).type.isSentinel = false

/-- One leaf of the expression is the constant `c`, which is no value; nothing else is wrong. -/
inductive Rejects (scope : Scope) (c : Const) : Expr → Prop where
  | const {info : Info} : (c.check scope).type.isInvalidConstant = true →
    Rejects scope c (.const info c)
  | paren {info : Info} {e : Expr} : Rejects scope c e → Rejects scope c (.paren info e)
  | unary {info : Info} {op : Token UnaryOp} {e : Expr} : Rejects scope c e →
    Rejects scope c (.unary info op e)
  | left {info : Info} {op : Token BinaryOp} {left right : Expr} : Rejects scope c left →
    right.Faultless scope → Rejects scope c (.binary info op left right)
  | right {info : Info} {op : Token BinaryOp} {left right : Expr} : left.Faultless scope →
    Rejects scope c right → Rejects scope c (.binary info op left right)

variable {c : Const} {e : Expr}

theorem Rejects.const_invalid (h : e.Rejects scope c) :
    (c.check scope).type.isInvalidConstant = true := by
  induction h with
  | const h => exact h
  | paren _ ih => exact ih
  | unary _ ih => exact ih
  | left _ _ ih => exact ih
  | right _ _ ih => exact ih

theorem Rejects.invalid (h : e.Rejects scope c) :
    (e.check scope).type.isInvalidConstant = true := by
  induction h with
  | const h => exact h
  | paren _ ih => exact ih
  | unary _ ih =>
    rw [check, Typing.type_record, applyUnary_isInvalidConstant]
    exact ih
  | left _ _ ih =>
    rw [check, Typing.type_record, applyBinary, BinaryOp.judge_isInvalidConstant, ih, Bool.true_or]
  | right _ _ ih =>
    rw [check, Typing.type_record, applyBinary, BinaryOp.judge_isInvalidConstant, ih, Bool.or_true]

theorem Rejects.diagnostics (h : e.Rejects scope c) :
    (e.check scope).findings.diagnostics = (c.check scope).findings.diagnostics := by
  induction h with
  | const _ => rw [check, Typing.diagnostics_record]
  | paren _ ih =>
    rw [check, Typing.diagnostics_record]
    exact ih
  | unary h ih =>
    rw [check, Typing.diagnostics_record,
      applyUnary_of_sentinel _ _ _ ((Ty.isSentinel_iff _).mpr (.inr h.invalid))]
    exact ih
  | left h hright ih =>
    have hsentinel := (Ty.isSentinel_iff _).mpr (.inr h.invalid)
    rw [check, Typing.diagnostics_record, (applyBinary_of_sentinel _ _ _ _ (.inl hsentinel)).2,
      Findings.diagnostics_append, ih, hright.1, List.append_nil]
  | right hleft h ih =>
    have hsentinel := (Ty.isSentinel_iff _).mpr (.inr h.invalid)
    rw [check, Typing.diagnostics_record, (applyBinary_of_sentinel _ _ _ _ (.inr hsentinel)).2,
      Findings.diagnostics_append, ih, hleft.1, List.nil_append]

theorem Rejects.reports (hscope : scope.Within (·.isSentinel = false)) (h : e.Rejects scope c) :
    (e.check scope).findings.diagnostics = c.rangeReports := by
  rw [h.diagnostics, Const.diagnostics_of_invalid hscope h.const_invalid]

def invalidReport (scope : Scope) (e : Expr) : Diagnostic :=
  .error e.span (.invalidConstant e.text scope.bounds)

end Expr

section Uses

variable {c : Const} {e : Expr}

theorem checkAssignment_of_invalid {info : Info} {target : Target} {t : Ty}
    (h : (e.check scope).type.isInvalidConstant = true)
    (htarget : scope.lookup? target.name.value = some t) :
    (checkAssignment scope info target e).diagnostics = (e.check scope).findings.diagnostics ++
      [.error info.span (.invalidConstant (assignmentText target e) scope.bounds)] := by
  simp only [checkAssignment, judgeAssignment, h, if_true, Name.check_of_lookup? htarget,
    AssignmentFault.problem]
  split <;> simp [Findings.error, Findings.record]

theorem checkCondition_of_invalid (stmt : Conditional)
    (h : (e.check scope).type.isInvalidConstant = true) :
    (checkCondition scope stmt e).diagnostics =
      (e.check scope).findings.diagnostics ++ [e.invalidReport scope] := by
  simp only [checkCondition, h, if_true]
  rfl

theorem checkLimit_of_invalid (limit : Limit) (control : Name) (controlType : Ty)
    (h : (e.check scope).type.isInvalidConstant = true) :
    (checkLimit scope limit control controlType e).diagnostics =
      (e.check scope).findings.diagnostics ++ [e.invalidReport scope] := by
  simp only [checkLimit, h, if_true]
  rfl

theorem checkControl_of_ordinal {control : Target} {t : Ty} (initial final : Expr)
    (hcontrol : scope.lookup? control.name.value = some t) (hordinal : t.isOrdinal = true) :
    (checkControl scope control initial final).diagnostics =
      (checkLimit scope .initial control.name t initial).diagnostics ++
        (checkLimit scope .final control.name t final).diagnostics := by
  have hsentinel : t.isSentinel = false := by
    rw [Ty.isOrdinal_iff] at hordinal
    exact Ty.Simple.isSentinel (.inl hordinal)
  simp only [checkControl, Name.check_of_lookup? hcontrol, Typing.type_record, Typing.type_silent,
    Ty.isError_eq_false hsentinel, hordinal]
  rfl

namespace Argument

theorem findings_of_invalid (h : (e.check scope).type.isInvalidConstant = true) :
    ((of scope e).findings scope).diagnostics =
      (e.check scope).findings.diagnostics ++ [e.invalidReport scope] := by
  simp only [findings, type, of, h, if_true, Findings.diagnostics_append,
    Findings.diagnostics_pass, List.append_nil]
  rfl

theorem isSound_of_invalid (h : (e.check scope).type.isInvalidConstant = true) :
    (of scope e).isSound = false := by
  simp [isSound, type, of, h]

theorem findings_of_faultless (h : e.Faultless scope) :
    ((of scope e).findings scope).Silent := by
  simp only [findings, type, of, Ty.isInvalidConstant_eq_false h.2]
  simpa using h.1

end Argument

namespace Call

variable {call : Call} {args after : List Argument} {a : Argument}

theorem passArguments_silent {position : Nat} {formals : List Ty}
    (hsilent : ∀ a ∈ args, (a.findings scope).Silent)
    (haccepts : ∀ pair ∈ formals.zip args, pair.1.Accepts pair.2.actual) :
    (call.passArguments scope position formals args).Silent := by
  induction formals generalizing position args with
  | nil => exact (argumentFindings_silent_iff scope args).mpr hsilent
  | cons formal formals ih =>
    cases args with
    | nil => rfl
    | cons a args =>
      rw [List.zip_cons_cons, List.forall_mem_cons] at haccepts
      rw [List.forall_mem_cons] at hsilent
      rw [passArguments, Findings.silent_append, passArgument_silent_iff]
      exact ⟨⟨hsilent.1, fun _ => haccepts.1⟩, ih hsilent.2 haccepts.2⟩

theorem argumentFindings_append (scope : Scope) (before after : List Argument) :
    argumentFindings scope (before ++ after) =
      argumentFindings scope before ++ argumentFindings scope after := by
  induction before with
  | nil => simp [argumentFindings]
  | cons a before ih =>
    rw [List.cons_append, argumentFindings, ih, argumentFindings, Findings.append_assoc]

variable {before : List Argument}

theorem argumentFindings_of_others (hbefore : ∀ a ∈ before, (a.findings scope).Silent)
    (hafter : ∀ a ∈ after, (a.findings scope).Silent) :
    (argumentFindings scope (before ++ a :: after)).diagnostics =
      (a.findings scope).diagnostics := by
  rw [← argumentFindings_silent_iff] at hbefore hafter
  rw [argumentFindings_append, argumentFindings, Findings.diagnostics_append,
    Findings.diagnostics_append, hbefore, hafter, List.nil_append, List.append_nil]

theorem passArguments_of_others {position : Nat} {formals : List Ty} (ha : a.isSound = false)
    (hbefore : ∀ a ∈ before, (a.findings scope).Silent)
    (hafter : ∀ a ∈ after, (a.findings scope).Silent)
    (hfirst : ∀ pair ∈ formals.zip before, pair.1.Accepts pair.2.actual)
    (hrest : ∀ pair ∈ (formals.drop (before.length + 1)).zip after,
      pair.1.Accepts pair.2.actual) :
    (call.passArguments scope position formals (before ++ a :: after)).diagnostics =
      (a.findings scope).diagnostics := by
  induction formals generalizing position before with
  | nil =>
    rw [passArguments, argumentFindings_of_others hbefore hafter]
    simp
  | cons formal formals ih =>
    cases before with
    | nil =>
      have hpass : call.passArgument scope position formal a = a.findings scope := by
        simp [passArgument, ha]
      have hsilent : (call.passArguments scope (position + 1) formals after).Silent :=
        passArguments_silent hafter hrest
      rw [List.nil_append, passArguments, Findings.diagnostics_append, hpass, hsilent,
        List.append_nil]
    | cons b before =>
      rw [List.forall_mem_cons] at hbefore
      rw [List.zip_cons_cons, List.forall_mem_cons] at hfirst
      have hb : (call.passArgument scope position formal b).Silent :=
        (passArgument_silent_iff scope call position formal b).mpr
          ⟨hbefore.1, fun _ => hfirst.1⟩
      rw [List.cons_append, passArguments, Findings.diagnostics_append, hb, List.nil_append]
      exact ih hbefore.2 hfirst.2 hrest

end Call

/--
A call with one argument left open: the callee is a routine of this kind, there are enough
arguments, and those before and after the open one fit. An overload set has no parameters of its
own, so nothing is compared with them.
-/
structure Scope.Passes (scope : Scope) (kind : RoutineKind) (callee : Name)
    (before after : List Expr) (type : Ty) : Prop where
  lookup : scope.lookup? callee.value = some type
  kind : type.routineKind? = some kind
  enough : type.params.length ≤ before.length + 1 + after.length
  faultless : ∀ e ∈ before ++ after, e.Faultless scope
  first : ∀ pair ∈ type.params.zip before, pair.1.Accepts (pair.2, (pair.2.check scope).type)
  rest : ∀ pair ∈ (type.params.drop (before.length + 1)).zip after,
    pair.1.Accepts (pair.2, (pair.2.check scope).type)

theorem Ty.isError_of_routineKind? {t : Ty} {kind : RoutineKind} (h : t.routineKind? = some kind) :
    t.isError = false := by
  cases t with
  | sentinel s => cases h
  | _ => rfl

namespace Call

theorem findings_of_faultless {es : List Expr} (h : ∀ e ∈ es, e.Faultless scope) :
    ∀ a ∈ es.map (Argument.of scope), (a.findings scope).Silent := by
  rw [List.forall_mem_map]
  intro e he
  exact Argument.findings_of_faultless (h e he)

theorem accepts_of {formals : List Ty} {es : List Expr}
    (h : ∀ pair ∈ formals.zip es, pair.1.Accepts (pair.2, (pair.2.check scope).type)) :
    ∀ pair ∈ formals.zip (es.map (Argument.of scope)), pair.1.Accepts pair.2.actual := by
  rw [List.zip_map_right, List.forall_mem_map]
  exact h

theorem check_of_passes {kind : RoutineKind} {callee : Name} {before after : List Expr} {type : Ty}
    (h : scope.Passes kind callee before after type)
    (he : (e.check scope).type.isInvalidConstant = true) (place : Span) :
    (Call.check scope ⟨kind, callee, Expr.checkAll scope (before ++ e :: after),
      place⟩).findings.diagnostics =
        (e.check scope).findings.diagnostics ++ [e.invalidReport scope] := by
  have hargs : Expr.checkAll scope (before ++ e :: after) =
      before.map (Argument.of scope) ++ .of scope e :: after.map (Argument.of scope) := by
    rw [Expr.checkAll_eq_map, List.map_append, List.map_cons]
    rfl
  have hfaultless := List.forall_mem_append.mp h.faultless
  have hbefore := findings_of_faultless hfaultless.1
  have hafter := findings_of_faultless hfaultless.2
  have hunsound := Argument.isSound_of_invalid he
  rw [← Argument.findings_of_invalid he]
  simp only [check, Name.check_of_lookup? h.lookup, Typing.type_silent,
    Ty.isError_of_routineKind? h.kind, h.kind, hargs, if_true, Bool.false_eq_true, if_false,
    Typing.findings_silent, Findings.none_append, resolve]
  cases type.alternatives? with
  | some alternatives =>
    have hall : (before.map (Argument.of scope) ++
        .of scope e :: after.map (Argument.of scope)).all (·.isSound) = false := by
      simp [hunsound]
    simp only [resolveOverloaded, hall, Bool.false_eq_true, if_false]
    exact argumentFindings_of_others hbefore hafter
  | none =>
    have henough := h.enough
    have hcount : ¬ (before.map (Argument.of scope) ++
        .of scope e :: after.map (Argument.of scope)).length < type.params.length := by
      simp
      omega
    have hlength : (before.map (Argument.of scope)).length = before.length := List.length_map _
    have hrest := h.rest
    rw [← hlength] at hrest
    simp only [resolveSingle, hcount, if_false]
    exact passArguments_of_others hunsound hbefore hafter (accepts_of h.first) (accepts_of hrest)

end Call

end Uses

inductive Consumer where
  | assign (info : Info) (target : Target)
  | ifThen (info : Info) (thenStmt : Stmt)
  | ifThenElse (info : Info) (thenStmt elseStmt : Stmt)
  | repeatUntil (info : Info) (stmts : List Stmt)
  | whileDo (info : Info) (body : Stmt)
  | initialLimit (info : Info) (direction : Direction) (control : Target) (final : Expr)
      (body : Stmt)
  | finalLimit (info : Info) (direction : Direction) (control : Target) (initial : Expr)
      (body : Stmt)
  | procedureCall (info : Info) (callee : Name) (before after : List Expr)
  | functionCall (info : Info) (callee : Name) (before after : List Expr)

namespace Consumer

def reports (scope : Scope) : Consumer → Expr → List Diagnostic
  | .assign info target, e => ((Stmt.assign info target e).check scope).diagnostics
  | .ifThen info thenStmt, e => ((Stmt.ifThen info e thenStmt).check scope).diagnostics
  | .ifThenElse info thenStmt elseStmt, e =>
    ((Stmt.ifThenElse info e thenStmt elseStmt).check scope).diagnostics
  | .repeatUntil info stmts, e => ((Stmt.repeatUntil info stmts e).check scope).diagnostics
  | .whileDo info body, e => ((Stmt.whileDo info e body).check scope).diagnostics
  | .initialLimit info direction control final body, e =>
    ((Stmt.forDo info direction control e final body).check scope).diagnostics
  | .finalLimit info direction control initial body, e =>
    ((Stmt.forDo info direction control initial e body).check scope).diagnostics
  | .procedureCall info callee before after, e =>
    ((Stmt.call info callee (some (before ++ e :: after))).check scope).diagnostics
  | .functionCall info callee before after, e =>
    ((Expr.call info callee (before ++ e :: after)).check scope).findings.diagnostics

def Ready (scope : Scope) : Consumer → Prop
  | .assign _ target => (scope.lookup? target.name.value).isSome = true
  | .initialLimit _ _ control _ _ | .finalLimit _ _ control _ _ =>
    ∃ t, scope.lookup? control.name.value = some t ∧ t.isOrdinal = true
  | .procedureCall _ callee before after => ∃ t, scope.Passes .procedure callee before after t
  | .functionCall _ callee before after => ∃ t, scope.Passes .function callee before after t
  | _ => True

def earlier (scope : Scope) : Consumer → List Diagnostic
  | .repeatUntil _ stmts => (Stmt.checkAll scope stmts).diagnostics
  | .finalLimit _ _ control initial _ =>
    (checkLimit scope .initial control.name (Name.check scope control.name).type
      initial).diagnostics
  | _ => []

def later (scope : Scope) : Consumer → List Diagnostic
  | .ifThen _ stmt | .whileDo _ stmt | .finalLimit _ _ _ _ stmt => (stmt.check scope).diagnostics
  | .ifThenElse _ thenStmt elseStmt =>
    (thenStmt.check scope).diagnostics ++ (elseStmt.check scope).diagnostics
  | .initialLimit _ _ control final body =>
    (checkLimit scope .final control.name (Name.check scope control.name).type
      final).diagnostics ++ (body.check scope).diagnostics
  | _ => []

def report (scope : Scope) : Consumer → Expr → Diagnostic
  | .assign info target, e =>
    .error info.span (.invalidConstant (assignmentText target e) scope.bounds)
  | _, e => e.invalidReport scope

theorem reports_of_invalid {k : Consumer} (hk : k.Ready scope) {e : Expr}
    (he : (e.check scope).type.isInvalidConstant = true) :
    k.reports scope e = k.earlier scope ++
      ((e.check scope).findings.diagnostics ++ [k.report scope e]) ++ k.later scope := by
  cases k with
  | assign info target =>
    obtain ⟨t, ht⟩ := Option.isSome_iff_exists.mp hk
    simp [reports, earlier, later, report, Stmt.check, checkAssignment_of_invalid he ht]
  | ifThen info thenStmt =>
    simp [reports, earlier, later, report, Stmt.check, checkCondition_of_invalid .ifStmt he]
  | ifThenElse info thenStmt elseStmt =>
    simp [reports, earlier, later, report, Stmt.check, checkCondition_of_invalid .ifStmt he]
  | repeatUntil info stmts =>
    simp [reports, earlier, later, report, Stmt.check, checkCondition_of_invalid .repeatStmt he]
  | whileDo info body =>
    simp [reports, earlier, later, report, Stmt.check, checkCondition_of_invalid .whileStmt he]
  | initialLimit info direction control final body =>
    obtain ⟨t, ht, hordinal⟩ := hk
    simp [reports, earlier, later, report, Stmt.check, checkControl_of_ordinal e final ht hordinal,
      checkLimit_of_invalid .initial control.name t he, Name.check_of_lookup? ht]
  | finalLimit info direction control initial body =>
    obtain ⟨t, ht, hordinal⟩ := hk
    simp [reports, earlier, later, report, Stmt.check,
      checkControl_of_ordinal initial e ht hordinal,
      checkLimit_of_invalid .final control.name t he, Name.check_of_lookup? ht]
  | procedureCall info callee before after =>
    obtain ⟨t, ht⟩ := hk
    simp [reports, earlier, later, report, Stmt.check, checkProcedureCall,
      Call.check_of_passes ht he]
  | functionCall info callee before after =>
    obtain ⟨t, ht⟩ := hk
    simp only [reports, Expr.check, Typing.diagnostics_record, Expr.applyCall,
      Call.check_of_passes ht he]
    simp [earlier, later, report]

theorem rejected_constant_reports (hscope : scope.Within (·.isSentinel = false)) {k : Consumer}
    (hk : k.Ready scope) {c : Const} {e : Expr} (he : e.Rejects scope c) :
    ∃ about, k.reports scope e = k.earlier scope ++ about ++ k.later scope ∧
      about = c.rangeReports ++ [k.report scope e] ∧
      (about.length = 1 ↔ c.isOverlooked = true) ∧
      (about.length = 2 ↔ c.rangeReports ≠ []) := by
  have hreports := reports_of_invalid hk he.invalid
  rw [he.reports hscope] at hreports
  refine ⟨_, hreports, rfl, ?_, ?_⟩
  . rw [← Const.rangeReports_eq_nil_iff hscope he.const_invalid, List.length_append]
    simp
  . have hlength := c.length_rangeReports
    rw [List.length_append, ← List.length_pos_iff_ne_nil]
    simp
    omega

end Consumer

namespace Sample

-- Evaluating a sample goes through the frame of all required names.
set_option maxRecDepth 2000

def tooLarge : Const :=
  -- `-99999999999`
  .signed (node 10) ⟨node 11, .minus⟩ (.integer (node 12) ⟨node 13, "99999999999"⟩)

def unreadable : Const :=
  -- `99999999999`
  .integer (node 14) ⟨node 15, "99999999999"⟩

def halved : Expr :=
  -- `(k + 99999999999) div 2`
  .binary (node 16) ⟨node 17, .div⟩
    (.paren (node 18) (.binary (node 19) ⟨node 20, .add⟩ (.var (node 21) ⟨node 22, "k"⟩)
      (.const (node 23) unreadable)))
    (.const (node 24) (.integer (node 25) ⟨node 26, "2"⟩))

def assigning : Consumer :=
  -- `k := `
  .assign (node 1) ⟨node 2, ⟨node 3, "k"⟩⟩

def halving : Consumer :=
  -- `half(r, )`
  .functionCall (node 4) ⟨node 5, "half"⟩ [.var (node 6) ⟨node 7, "r"⟩] []

def twice : Program :=
  -- `program p; var k : integer; k := -99999999999.`
  ⟨node 30, ⟨node 31, ⟨node 32, "p"⟩, []⟩,
    .mk (node 33) none
      (some ⟨node 34, [⟨node 35, [⟨node 36, "k"⟩], .named ⟨node 37, ⟨node 38, .integer⟩⟩⟩]⟩) .absent
      ⟨node 39, .assign (node 1) ⟨node 2, ⟨node 3, "k"⟩⟩ (.const (node 40) tooLarge)⟩⟩

theorem scope_within : Sample.scope.Within (·.isSentinel = false) :=
  fun e he => Ty.isSentinel_eq_false_of_isClean (scope_sound.clean e he)

theorem tooLarge_reported_twice :
    Sample.scope.Within (·.isSentinel = false) ∧ assigning.Ready Sample.scope ∧
      (Expr.const (node 40) tooLarge).Rejects Sample.scope tooLarge ∧
      (assigning.reports Sample.scope (.const (node 40) tooLarge)).length = 2 ∧
      ∃ after, twice.checkWith Required.table .empty = .ok after ∧ after.diagnostics =
        [.error (node 10).span (.signedOutOfRange "-99999999999" .integer),
         .error (node 1).span (.invalidConstant "k := -99999999999" .integer)] :=
  ⟨scope_within, rfl, .const rfl, rfl, _, rfl, rfl⟩

theorem halved_reported_once :
    (halved.Rejects Sample.scope unreadable ∧ halving.Ready Sample.scope) ∧
      halving.reports Sample.scope halved = [halved.invalidReport Sample.scope] := by
  have hrejects : halved.Rejects Sample.scope unreadable :=
    .left (.paren (.right ⟨rfl, rfl⟩ (.const rfl))) ⟨rfl, rfl⟩
  have hready : halving.Ready Sample.scope := by
    refine ⟨.function 3 [.parameter 1 .formal .var .real, .parameter 2 .formal .value .integer] .real,
      rfl, rfl, Nat.le_refl _, ?_, ?_, ?_⟩
    . simp only [List.append_nil, List.forall_mem_singleton]
      exact ⟨rfl, rfl⟩
    . simp only [Ty.params, List.zip_cons_cons, List.zip_nil_right, List.forall_mem_singleton]
      exact ⟨.var, .real, rfl, fun _ => rfl, rfl⟩
    . simp
  obtain ⟨about, hreports, habout, -⟩ :=
    Consumer.rejected_constant_reports scope_within hready hrejects
  refine ⟨⟨hrejects, hready⟩, ?_⟩
  rw [hreports, habout]
  rfl

end Sample

end PascalCheck
