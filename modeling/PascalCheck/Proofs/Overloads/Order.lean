import PascalCheck.Proofs.Arena.Reachable
import PascalCheck.Proofs.Coverage.Expr
import PascalCheck.Proofs.Overloads.Resolution

/-!
The order of the alternatives in overload sets. It changes neither the type of a call nor whether
something is reported of it. The texts of reports are the same, too, unless the set itself is used
where a value is expected: its own text shows the order.
-/

namespace PascalCheck

/-- One and the same type, or overload sets that differ in the order of their functions only. -/
inductive Ty.Reordered : Ty → Ty → Prop where
  | same (t : Ty) : Reordered t t
  | overload (tag tag' : Nat) {alternatives alternatives' : List Ty} :
      alternatives.Perm alternatives' → Call.Distinguishable alternatives →
      (∀ a ∈ alternatives, a.isFunction = true) →
      Reordered (.overload tag alternatives) (.overload tag' alternatives')

namespace Ty.Reordered

variable {a b : Ty} (h : a.Reordered b)

include h

theorem isError : a.isError = b.isError := by
  cases h <;> rfl

theorem isInvalidConstant : a.isInvalidConstant = b.isInvalidConstant := by
  cases h <;> rfl

theorem equiv_left (t : Ty) : a.equiv t = b.equiv t := by
  -- An overload set is equivalent to nothing.
  cases h with
  | same => rfl
  | overload => cases t <;> rfl

theorem equiv_right (t : Ty) : t.equiv a = t.equiv b := by
  cases h with
  | same => rfl
  | overload tag tag' =>
    have hnot (k : Nat) (alternatives : List Ty) : t.equiv (.overload k alternatives) = false := by
      rw [Bool.eq_false_iff, ne_eq, equiv_iff]
      exact fun h => Bool.false_ne_true h.1
    rw [hnot, hnot]

theorem isInteger : a.isInteger = b.isInteger :=
  h.equiv_left _

theorem isReal : a.isReal = b.isReal :=
  h.equiv_left _

theorem isBoolean : a.isBoolean = b.isBoolean :=
  h.equiv_left _

theorem isNumeric : a.isNumeric = b.isNumeric := by
  rw [Ty.isNumeric, h.isInteger, h.isReal, Ty.isNumeric]

theorem routineKind? : a.routineKind? = b.routineKind? := by
  cases h with
  | same => rfl
  | @overload tag tag' alternatives alternatives' hperm _ hfunctions =>
    have hkind (k : Nat) {t : Ty} {ts : List Ty} (ht : t.isFunction = true) :
        (Ty.overload k (t :: ts)).routineKind? = some .function := by
      cases t <;> first | rfl | cases ht
    cases alternatives with
    | nil =>
      rw [List.nil_perm.mp hperm]
      rfl
    | cons t ts =>
      cases alternatives' with
      | nil => cases List.perm_nil.mp hperm
      | cons t' ts' =>
        rw [hkind tag (hfunctions t List.mem_cons_self),
          hkind tag' (hfunctions t' (hperm.mem_iff.mpr List.mem_cons_self))]

theorem accepts (op : UnaryOp) : op.accepts a = op.accepts b := by
  cases op
  . exact h.isNumeric
  . exact h.isNumeric
  . exact h.isBoolean

variable {a' b' : Ty} (h' : a'.Reordered b')

include h'

theorem comparesWith : BinaryOp.comparesWith a a' = BinaryOp.comparesWith b b' := by
  simp only [BinaryOp.comparesWith, isSimple, isOrdinal, Ty.isInteger, isChar, Ty.isBoolean,
    Ty.isReal, isString, h.equiv_left, h'.equiv_left]

theorem comparable : BinaryOp.comparable a a' = BinaryOp.comparable b b' := by
  have hboth : a.equiv a' = b.equiv b' := (h.equiv_left a').trans (h'.equiv_right b)
  simp only [BinaryOp.comparable, hboth, Ty.isInteger, isChar, Ty.isReal, isString, h.equiv_left,
    h'.equiv_left]

theorem judge (op : BinaryOp) : op.judge a a' = op.judge b b' := by
  simp only [BinaryOp.judge, BinaryOp.judgeLogical, BinaryOp.judgeRelational,
    BinaryOp.judgeArithmetic, h.isInvalidConstant, h'.isInvalidConstant, h.isError, h'.isError,
    h.isBoolean, h'.isBoolean, h.isNumeric, h'.isNumeric, h.isInteger, h'.isInteger, h.isReal,
    h'.isReal, h.comparesWith h', h'.comparesWith h, h.comparable h']

end Ty.Reordered

structure Ty.Reorders (R : Ty → Ty → Prop) : Prop where
  same : ∀ t, R t t
  reordered : ∀ {a b}, R a b → a.Reordered b

theorem Ty.reorders_reordered : Ty.Reorders Ty.Reordered :=
  ⟨.same, id⟩

def Scope.Relates (R : Ty → Ty → Prop) (s s' : Scope) : Prop :=
  ∀ name, Option.Rel R (s.lookup? name) (s'.lookup? name)

abbrev Scope.Reordered (s s' : Scope) : Prop :=
  Scope.Relates Ty.Reordered s s'

def Findings.marks (found : Findings) : List (Severity × Span) :=
  found.diagnostics.map fun d => (d.severity, d.place)

@[simp]
theorem Findings.marks_append (a b : Findings) : (a ++ b).marks = a.marks ++ b.marks :=
  List.map_append

structure Record.Agrees (R : Ty → Ty → Prop) (r r' : Record) : Prop where
  id : r.id = r'.id
  type : R r.type r'.type

/-- The same is reported at the same places, but perhaps in other words. -/
structure Findings.Agrees (R : Ty → Ty → Prop) (a b : Findings) : Prop where
  marks : a.marks = b.marks
  records : List.Forall₂ (Record.Agrees R) a.records b.records
  actuals : a.actuals.length = b.actuals.length

structure Typing.Agrees (R : Ty → Ty → Prop) (a b : Typing) : Prop where
  type : R a.type b.type
  findings : a.findings.Agrees R b.findings

structure Argument.Agrees (R : Ty → Ty → Prop) (a b : Argument) : Prop where
  expr : a.expr = b.expr
  typing : a.typing.Agrees R b.typing

structure Resolution.Agrees (R : Ty → Ty → Prop) (a b : Resolution) : Prop where
  routine : a.routine? = b.routine?
  findings : a.findings.Agrees R b.findings

variable {R : Ty → Ty → Prop}

theorem Record.agrees_refl (hR : Ty.Reorders R) (records : Records) :
    List.Forall₂ (Record.Agrees R) records records :=
  List.forall₂_same.mpr fun _ _ => ⟨rfl, hR.same _⟩

namespace Findings.Agrees

theorem refl (hR : Ty.Reorders R) (found : Findings) : found.Agrees R found :=
  ⟨rfl, Record.agrees_refl hR _, rfl⟩

theorem append {a b c d : Findings} (h : a.Agrees R b) (h' : c.Agrees R d) :
    (a ++ c).Agrees R (b ++ d) := by
  refine ⟨?_, List.rel_append h'.records h.records, ?_⟩
  . rw [marks_append, marks_append, h.marks, h'.marks]
  . simp [h.actuals, h'.actuals]

theorem none : Findings.Agrees R .none .none :=
  ⟨rfl, .nil, rfl⟩

theorem error (place : Span) (p q : Problem) :
    Findings.Agrees R (.error place p) (.error place q) :=
  ⟨rfl, .nil, rfl⟩

theorem record (id : Nat) {t t' : Ty} (h : R t t') :
    Findings.Agrees R (.record id t) (.record id t') :=
  ⟨rfl, .cons ⟨rfl, h⟩ .nil, rfl⟩

theorem pass (mode : Mode) (t t' : Ty) : Findings.Agrees R (.pass mode t) (.pass mode t') :=
  ⟨rfl, .nil, rfl⟩

end Findings.Agrees

namespace Typing.Agrees

theorem refl (hR : Ty.Reorders R) (t : Typing) : t.Agrees R t :=
  ⟨hR.same _, .refl hR _⟩

variable {a b : Typing} (h : a.Agrees R b)

include h

theorem record (info : Info) : (a.record info).Agrees R (b.record info) :=
  ⟨h.type, h.findings.append (.record info.id h.type)⟩

theorem reject (hR : Ty.Reorders R) (place : Span) (p q : Problem) (type : Ty) :
    (a.reject place p type).Agrees R (b.reject place q type) :=
  ⟨hR.same _, h.findings.append (.error place p q)⟩

end Typing.Agrees

theorem Expr.checkAll_agrees {s s' : Scope} {args : List Expr}
    (hargs : ∀ e ∈ args, (e.check s).Agrees R (e.check s')) :
    List.Forall₂ (Argument.Agrees R) (checkAll s args) (checkAll s' args) := by
  rw [checkAll_eq_map, checkAll_eq_map, List.forall₂_map_left_iff, List.forall₂_map_right_iff,
    List.forall₂_same]
  exact fun e he => ⟨rfl, hargs e he⟩

section Reorders

variable (hR : Ty.Reorders R)

include hR

namespace Argument.Agrees

variable {a b : Argument} (h : a.Agrees R b)

include h

theorem isSound : a.isSound = b.isSound := by
  have htype := hR.reordered h.typing.type
  unfold Argument.isSound Argument.type
  rw [htype.isInvalidConstant, htype.isError]

theorem findings (scope scope' : Scope) :
    (a.findings scope).Agrees R (b.findings scope') := by
  have htype := hR.reordered h.typing.type
  unfold Argument.findings Argument.mode Argument.type
  simp only [h.expr, htype.isInvalidConstant]
  refine (h.typing.findings.append (.pass _ _ _)).append ?_
  split
  . exact .error _ _ _
  . exact .none

theorem mismatch? (formal : Ty) : a.mismatch? formal = b.mismatch? formal := by
  unfold Argument.mismatch? Argument.mode Argument.type
  simp only [h.expr, (hR.reordered h.typing.type).equiv_right]

end Argument.Agrees

namespace Const

theorem applySign_agrees (s s' : Scope) (place : Span) (sign : Sign) (operand : Const)
    {a b : Typing} (h : a.Agrees R b) :
    (applySign s place sign operand a).Agrees R (applySign s' place sign operand b) := by
  have htype := hR.reordered h.type
  cases operand with
  | integer info lexeme =>
    simp only [applySign, Scope.bounds_eq]
    split
    . exact h
    . exact h.reject hR ..
  | _ =>
    simp only [applySign, htype.isError, htype.isInvalidConstant, htype.isNumeric]
    split
    . exact h
    . exact h.reject hR ..

theorem applySignToName_agrees (place : Span) (sign : Sign) (name : Name) {a b : Typing}
    (h : a.Agrees R b) :
    (applySignToName place sign name a).Agrees R (applySignToName place sign name b) := by
  have htype := hR.reordered h.type
  simp only [applySignToName, htype.isError, htype.isNumeric]
  split
  . exact h
  . exact h.reject hR ..

end Const

namespace Call

variable {as bs : List Argument} (hargs : List.Forall₂ (Argument.Agrees R) as bs)

include hargs

theorem argumentFindings_agrees (scope scope' : Scope) :
    (argumentFindings scope as).Agrees R (argumentFindings scope' bs) := by
  induction hargs with
  | nil => exact .none
  | cons ha _ ih => exact (ha.findings hR scope scope').append ih

theorem takes_agrees : takes as = takes bs :=
  takes_congr (map_eq_of_forall₂ (fun _ _ ha => funext (ha.mismatch? hR)) hargs)

theorem passArguments_agrees (scope scope' : Scope) (c d : Call) (position : Nat)
    (formals : List Ty) :
    (c.passArguments scope position formals as).Agrees R
      (d.passArguments scope' position formals bs) := by
  induction formals generalizing position as bs with
  | nil => exact argumentFindings_agrees hR hargs scope scope'
  | cons formal formals ih =>
    cases hargs with
    | nil => exact .none
    | cons ha hargs =>
      refine Findings.Agrees.append ?_ (ih hargs _)
      unfold passArgument
      rw [ha.isSound hR, ha.mismatch? hR, ha.expr]
      refine (ha.findings hR scope scope').append ?_
      split
      . split
        . exact .none
        . exact .error _ _ _
      . exact .none

theorem resolveSingle_agrees (scope scope' : Scope) (kind : RoutineKind) (callee : Name)
    (place : Span) (type : Ty) :
    (resolveSingle scope ⟨kind, callee, as, place⟩ type).Agrees R
      (resolveSingle scope' ⟨kind, callee, bs, place⟩ type) := by
  unfold resolveSingle
  rw [hargs.length_eq]
  split
  . exact ⟨rfl, .refl hR _⟩
  . exact ⟨rfl, passArguments_agrees hR hargs scope scope' _ _ 1 type.params⟩

theorem resolveOverloaded_agrees (scope scope' : Scope) (kind : RoutineKind) (callee : Name)
    (place : Span) {alternatives alternatives' : List Ty}
    (hfind : alternatives.find? (takes bs) = alternatives'.find? (takes bs)) :
    (resolveOverloaded scope ⟨kind, callee, as, place⟩ alternatives).Agrees R
      (resolveOverloaded scope' ⟨kind, callee, bs, place⟩ alternatives') := by
  have hfound := argumentFindings_agrees hR hargs scope scope'
  have hsound : as.all (·.isSound) = bs.all (·.isSound) :=
    all_eq_of_forall₂ (fun _ _ ha => ha.isSound hR) hargs
  simp only [resolveOverloaded, hsound, takes_agrees hR hargs, hfind]
  split
  . cases alternatives'.find? (takes bs) with
    | some routine => exact ⟨rfl, hfound⟩
    | none => exact ⟨rfl, hfound.append (.error _ _ _)⟩
  . exact ⟨rfl, hfound⟩

theorem resolve_agrees (scope scope' : Scope) (kind : RoutineKind) (callee : Name) (place : Span)
    {t t' : Ty} (h : t.Reordered t') :
    (resolve scope ⟨kind, callee, as, place⟩ t).Agrees R
      (resolve scope' ⟨kind, callee, bs, place⟩ t') := by
  cases h with
  | same =>
    unfold resolve
    split
    . exact resolveOverloaded_agrees hR hargs scope scope' kind callee place rfl
    . exact resolveSingle_agrees hR hargs scope scope' kind callee place t
  | overload tag tag' hperm hdistinguishable _ =>
    exact resolveOverloaded_agrees hR hargs scope scope' kind callee place
      (hdistinguishable.find?_takes hperm bs)

end Call

namespace Expr

theorem applyUnary_agrees (place : Span) (op : UnaryOp) (operand : Expr) {a b : Typing}
    (h : a.Agrees R b) :
    (applyUnary place op operand a).Agrees R (applyUnary place op operand b) := by
  have htype := hR.reordered h.type
  simp only [applyUnary, htype.isError, htype.isInvalidConstant, htype.accepts]
  split
  . exact h
  . exact h.reject hR ..

theorem applyBinary_agrees (place : Span) (op : BinaryOp) (left right : Expr) {l l' r r' : Typing}
    (hl : l.Agrees R l') (hr : r.Agrees R r') :
    (applyBinary place op left right l r).Agrees R (applyBinary place op left right l' r') := by
  -- A fault has its place whatever the types of the operands are.
  have hmark (fault : OperandFault) (t u t' u' : Ty) :
      ((faultDiagnostic place op left right t u fault).severity,
        (faultDiagnostic place op left right t u fault).place) =
      ((faultDiagnostic place op left right t' u' fault).severity,
        (faultDiagnostic place op left right t' u' fault).place) := by
    cases fault <;> rfl
  have hjudge := (hR.reordered hl.type).judge (hR.reordered hr.type) op
  simp only [applyBinary, hjudge]
  refine ⟨hR.same _, (hl.findings.append hr.findings).append ⟨?_, .nil, rfl⟩⟩
  simp only [Findings.marks, Findings.diagnostics_reports, List.map_map]
  apply List.map_congr_left
  intro fault _
  exact hmark fault _ _ _ _

end Expr

namespace Scope.Relates

variable {s s' : Scope} (h : s.Relates R s')

include h

theorem check_name (name : Name) : (Name.check s name).Agrees R (Name.check s' name) := by
  have hname := h name.value
  unfold Name.check
  generalize s.lookup? name.value = found at hname
  generalize s'.lookup? name.value = found' at hname
  cases hname with
  | none => exact .refl hR _
  | some htype => exact ⟨htype, .none⟩

theorem check_const (c : Const) : (c.check s).Agrees R (c.check s') := by
  induction c with
  | signed info sign operand ih => exact (Const.applySign_agrees hR s s' _ _ _ ih).record info
  | named info name => exact (h.check_name hR name).record info
  | signedNamed info sign name =>
    exact (Const.applySignToName_agrees hR _ _ name (h.check_name hR name)).record info
  | _ => exact .refl hR _

theorem check_call (kind : RoutineKind) (callee : Name) (place : Span) {as bs : List Argument}
    (hargs : List.Forall₂ (Argument.Agrees R) as bs) :
    (Call.check s ⟨kind, callee, as, place⟩).Agrees R
      (Call.check s' ⟨kind, callee, bs, place⟩) := by
  have hcallee := h.check_name hR callee
  have htype := hR.reordered hcallee.type
  have hresolve := Call.resolve_agrees hR hargs s s' kind callee place htype
  simp only [Call.check, htype.isError, htype.routineKind?]
  split
  . exact ⟨rfl, hcallee.findings⟩
  . split
    . exact ⟨hresolve.routine, hcallee.findings.append hresolve.findings⟩
    . exact ⟨rfl, hcallee.findings.append (.error _ _ _)⟩

theorem type_check_call (info : Info) (callee : Name) {args : List Expr}
    (hargs : ∀ e ∈ args, (e.check s).Agrees R (e.check s')) :
    ((Expr.call info callee args).check s).type = ((Expr.call info callee args).check s').type := by
  have hcall := h.check_call hR .function callee info.span (Expr.checkAll_agrees hargs)
  simp only [Expr.check, Typing.record, Expr.applyCall, hcall.routine]

theorem check (e : Expr) : (e.check s).Agrees R (e.check s') := by
  induction e using Expr.induction with
  | const info c => exact (h.check_const hR c).record info
  | var info name => exact (h.check_name hR name).record info
  | call info callee args ih =>
    have hcall := h.check_call hR .function callee info.span (Expr.checkAll_agrees ih)
    have happly : (Expr.applyCall (Call.check s ⟨.function, callee, Expr.checkAll s args,
        info.span⟩)).Agrees R (Expr.applyCall (Call.check s' ⟨.function, callee,
        Expr.checkAll s' args, info.span⟩)) := by
      unfold Expr.applyCall
      rw [hcall.routine]
      exact ⟨hR.same _, hcall.findings⟩
    exact happly.record info
  | paren info inner ih => exact ih.record info
  | unary info op operand ih =>
    exact (Expr.applyUnary_agrees hR info.span op.value operand ih).record info
  | binary info op left right ihl ihr =>
    exact (Expr.applyBinary_agrees hR info.span op.value left right ihl ihr).record info

end Scope.Relates

end Reorders

def Const.names : Const → List String
  | .named _ name | .signedNamed _ _ name => [name.value]
  | .signed _ _ operand => operand.names
  | _ => []

def Expr.names : Expr → List String
  | .const _ c => c.names
  | .var _ name => [name.value]
  | _ => []

/-- The names in an expression that stand for a value and not for what is called. -/
def Expr.uncalled (e : Expr) : List String :=
  e.all.flatMap names

theorem Expr.uncalled_eq (e : Expr) : e.uncalled = e.names ++ e.children.flatMap uncalled := by
  rw [uncalled, all_eq, List.flatMap_cons, List.flatMap_assoc]
  rfl

namespace Scope

variable (s s' : Scope)

theorem findings_eq (a : Argument) : a.findings s = a.findings s' := by
  -- Reports depend on the scope by the bounds of integers only, which are always the same.
  unfold Argument.findings Findings.invalidConstant
  rw [bounds_eq, bounds_eq]

theorem argumentFindings_eq (args : List Argument) :
    Call.argumentFindings s args = Call.argumentFindings s' args := by
  induction args with
  | nil => rfl
  | cons a args ih => rw [Call.argumentFindings, ih, findings_eq s s', Call.argumentFindings]

theorem passArguments_eq (c : Call) (position : Nat) (formals : List Ty) (args : List Argument) :
    c.passArguments s position formals args = c.passArguments s' position formals args := by
  induction formals generalizing position args with
  | nil => exact argumentFindings_eq s s' args
  | cons formal formals ih =>
    cases args with
    | nil => rfl
    | cons a args =>
      rw [Call.passArguments, Call.passArguments, ih, Call.passArgument, findings_eq s s',
        Call.passArgument]

theorem resolve_eq (c : Call) {t t' : Ty} (h : t.Reordered t') : c.resolve s t = c.resolve s' t' := by
  have hoverloaded (alternatives : List Ty) :
      c.resolveOverloaded s alternatives = c.resolveOverloaded s' alternatives := by
    rw [Call.resolveOverloaded, argumentFindings_eq s s', Call.resolveOverloaded]
  cases h with
  | same =>
    unfold Call.resolve
    split
    . exact hoverloaded _
    . rw [Call.resolveSingle, passArguments_eq s s', Call.resolveSingle]
  | overload tag tag' hperm hdistinguishable _ =>
    exact (hoverloaded _).trans (hdistinguishable.resolveOverloaded hperm s' c)

end Scope

namespace Scope.Reordered

variable {s s' : Scope} (h : s.Reordered s')

theorem check_name_eq {name : Name} (hname : s.lookup? name.value = s'.lookup? name.value) :
    Name.check s name = Name.check s' name := by
  rw [Name.check, hname, Name.check]

theorem check_const_eq {c : Const} (hc : ∀ name ∈ c.names, s.lookup? name = s'.lookup? name) :
    c.check s = c.check s' := by
  induction c with
  | signed info sign operand ih =>
    rw [Const.check, Const.check, ih hc]
    cases operand <;> simp only [Const.applySign, bounds_eq]
  | named info name => rw [Const.check, check_name_eq (hc _ (by simp [Const.names])), Const.check]
  | signedNamed info sign name =>
    rw [Const.check, check_name_eq (hc _ (by simp [Const.names])), Const.check]
  | _ => rfl

theorem inside {e part : Expr} (hpart : part ∈ e.children)
    (he : ∀ name ∈ e.uncalled, s.lookup? name = s'.lookup? name) :
    ∀ name ∈ part.uncalled, s.lookup? name = s'.lookup? name := by
  intro name hname
  apply he
  rw [Expr.uncalled_eq]
  exact List.mem_append_right _ (List.mem_flatMap.mpr ⟨part, hpart, hname⟩)

include h

theorem findings_check_name (name : Name) :
    (Name.check s name).findings = (Name.check s' name).findings := by
  have hname := h name.value
  unfold Name.check
  generalize s.lookup? name.value = found at hname
  generalize s'.lookup? name.value = found' at hname
  cases hname <;> rfl

theorem check_call_eq (c : Call) : c.check s = c.check s' := by
  have htype := (h.check_name Ty.reorders_reordered c.callee).type
  have hfindings := h.findings_check_name c.callee
  have hresolve := resolve_eq s s' c htype
  simp only [Call.check, htype.isError, htype.routineKind?, hfindings, hresolve]

theorem check_eq {e : Expr} (he : ∀ name ∈ e.uncalled, s.lookup? name = s'.lookup? name) :
    e.check s = e.check s' := by
  induction e using Expr.induction with
  | const info c =>
    rw [Expr.uncalled_eq] at he
    rw [Expr.check, check_const_eq fun name hname => he name (by simp [Expr.names, hname]),
      Expr.check]
  | var info name =>
    rw [Expr.uncalled_eq] at he
    rw [Expr.check, check_name_eq (he name.value (by simp [Expr.names])), Expr.check]
  | call info callee args ih =>
    have hargs : Expr.checkAll s args = Expr.checkAll s' args := by
      rw [Expr.checkAll_eq_map, Expr.checkAll_eq_map]
      apply List.map_congr_left
      intro e hmem
      rw [ih e hmem (inside (e := .call info callee args) hmem he)]
    simp only [Expr.check, hargs, h.check_call_eq]
  | paren info inner ih => rw [Expr.check, ih (inside List.mem_cons_self he), Expr.check]
  | unary info op operand ih =>
    rw [Expr.check, ih (inside List.mem_cons_self he), Expr.check]
  | binary info op left right ihl ihr =>
    rw [Expr.check, ihl (inside List.mem_cons_self he),
      ihr (inside (List.mem_cons_of_mem _ List.mem_cons_self) he), Expr.check]

end Scope.Reordered

namespace Call

structure Unambiguous (alternatives : List Ty) : Prop where
  one : ∀ args, alternatives.countP (takes args) ≤ 1
  order : ∀ alternatives' tag tag', alternatives.Perm alternatives' → ∀ scope (c : Call),
    c.resolve scope (.overload tag alternatives) = c.resolve scope (.overload tag' alternatives')

theorem Distinguishable.unambiguous {alternatives : List Ty} (h : Distinguishable alternatives) :
    Unambiguous alternatives :=
  ⟨h.countP_takes_le_one, fun _ _ _ hperm scope c => h.resolveOverloaded hperm scope c⟩

end Call

end PascalCheck
