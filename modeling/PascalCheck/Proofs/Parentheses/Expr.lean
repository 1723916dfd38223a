import PascalCheck.Proofs.Isolation
import PascalCheck.Proofs.Respell.Check

/-!
Parentheses around an expression. The tree with them is checked like the one without: all types are
the same and the same is reported at the same places, but for the words that a report takes from the
source. The parentheses are given the type of what is in them.
-/

namespace PascalCheck

variable {old new : Nat}

section Syntax

variable (old new : Nat)

def Expr.encloseHere (e : Expr) : Expr :=
  if e.info.id = old then .paren ⟨new, e.span⟩ e else e

mutual

/-- Puts parentheses numbered `new` around the expressions inside that are numbered `old`. -/
def Expr.enclose : Expr → Expr
  | .const info c => encloseHere old new (.const info c)
  | .var info name => encloseHere old new (.var info name)
  | .call info callee args => encloseHere old new (.call info callee (Expr.encloseAll args))
  | .paren info inner => encloseHere old new (.paren info inner.enclose)
  | .unary info op operand => encloseHere old new (.unary info op operand.enclose)
  | .binary info op left right => encloseHere old new (.binary info op left.enclose right.enclose)

def Expr.encloseAll : List Expr → List Expr
  | [] => []
  | e :: es => e.enclose :: Expr.encloseAll es

end

end Syntax

namespace Expr

def constIds : Expr → List Nat
  | .const _ c => c.ids
  | _ => []

def passed : Expr → List Expr
  | .call _ _ args => args.filter isVar
  | _ => []

theorem ids_eq (e : Expr) : e.ids = e.info.id :: e.constIds := by
  cases e <;> rfl

/--
At this node nothing stands in the way of parentheses numbered `new` around an expression numbered
`old`: their number is not in use, and the other one belongs to no constant and no variable passed.
-/
structure Allows (old new : Nat) (e : Expr) : Prop where
  fresh : new ∉ e.ids
  consts : old ∉ e.constIds
  passed : ∀ a ∈ e.passed, a.info.id ≠ old

theorem forall_mem_all_child {P : Expr → Prop} {e c : Expr} (h : ∀ x ∈ e.all, P x)
    (hc : c ∈ e.children) : ∀ x ∈ c.all, P x := by
  intro x hx
  apply h
  rw [all_eq]
  exact List.mem_cons_of_mem _ (List.mem_flatMap.mpr ⟨c, hc, hx⟩)

theorem allows {e : Expr} (h : ∀ x ∈ e.all, x.Allows old new) : e.Allows old new := by
  apply h
  rw [all_eq]
  exact List.mem_cons_self

theorem info_ne {e : Expr} (h : ∀ x ∈ e.all, x.Allows old new) : e.info.id ≠ new := by
  intro hid
  apply (allows h).fresh
  rw [ids_eq, hid]
  exact List.mem_cons_self

theorem encloseAll_eq_map (old new : Nat) (es : List Expr) :
    encloseAll old new es = es.map (enclose old new) := by
  induction es with
  | nil => rfl
  | cons e es ih => rw [encloseAll, ih, List.map_cons]

theorem span_encloseHere (e : Expr) : (e.encloseHere old new).span = e.span := by
  unfold encloseHere
  split <;> rfl

theorem span_enclose (e : Expr) : (e.enclose old new).span = e.span := by
  cases e <;> rw [enclose, span_encloseHere] <;> rfl

theorem isCharLiteral_encloseHere (e : Expr) :
    (e.encloseHere old new).isCharLiteral = e.isCharLiteral := by
  unfold encloseHere
  split <;> rfl

theorem isCharLiteral_enclose (e : Expr) :
    (e.enclose old new).isCharLiteral = e.isCharLiteral := by
  induction e using Expr.induction with
  | paren info inner ih => rw [enclose, isCharLiteral_encloseHere, isCharLiteral, ih, isCharLiteral]
  | _ => rw [enclose, isCharLiteral_encloseHere] <;> rfl

theorem mode_enclose {e : Expr} (h : e.isVar = true → e.info.id ≠ old) (t t' : Typing) :
    Argument.mode ⟨e.enclose old new, t'⟩ = Argument.mode ⟨e, t⟩ := by
  cases e with
  | var info name =>
    rw [enclose, encloseHere, if_neg (h rfl)]
    rfl
  | _ =>
    rw [enclose, encloseHere]
    split <;> rfl

end Expr

/-- Node `new` is given the type of node `old`, and all others are given the same types. -/
def Records.Twinned (old new : Nat) (a b : Records) : Prop :=
  ∀ id, a.type? id = b.type? (if id = new then old else id)

namespace Records.Twinned

theorem append {a b a' b' : Records} (h : a.Twinned old new b) (h' : a'.Twinned old new b') :
    Records.Twinned old new (a ++ a') (b ++ b') := by
  intro id
  rw [type?_append, type?_append, h id, h' id]

theorem refl {records : Records} (hold : old ∉ records.map (·.id))
    (hnew : new ∉ records.map (·.id)) : records.Twinned old new records := by
  intro id
  split
  next hid => rw [hid, type?_eq_none hnew, type?_eq_none hold]
  next => rfl

end Records.Twinned

structure Findings.Twinned (old new : Nat) (a b : Findings) : Prop where
  diagnostics : a.diagnostics.map Diagnostic.unworded = b.diagnostics.map Diagnostic.unworded
  records : a.records.Twinned old new b.records
  actuals : a.actuals = b.actuals

namespace Findings.Twinned

theorem append {a b a' b' : Findings} (h : a.Twinned old new b) (h' : a'.Twinned old new b') :
    (a ++ a').Twinned old new (b ++ b') := by
  constructor
  . rw [diagnostics_append, diagnostics_append, List.map_append, List.map_append, h.diagnostics,
      h'.diagnostics]
  . exact h'.records.append h.records
  . rw [actuals_append, actuals_append, h.actuals, h'.actuals]

theorem refl {found : Findings} (hold : old ∉ found.ids) (hnew : new ∉ found.ids) :
    found.Twinned old new found :=
  ⟨rfl, .refl hold hnew, rfl⟩

theorem none : Findings.none.Twinned old new .none :=
  .refl List.not_mem_nil List.not_mem_nil

theorem record {id : Nat} (hold : id ≠ old) (hnew : id ≠ new) (type : Ty) :
    (Findings.record id type).Twinned old new (.record id type) :=
  .refl (by simpa using hold.symm) (by simpa using hnew.symm)

theorem of_alike {a b : Findings} (h : a.Alike b) (ha : a.records = []) : a.Twinned old new b := by
  refine ⟨h.diagnostics, ?_, h.actuals⟩
  rw [← h.records, ha]
  exact fun _ => rfl

theorem error (place : Span) {p q : Problem} (h : p.unworded = q.unworded) :
    (Findings.error place p).Twinned old new (.error place q) :=
  of_alike (.error place h) rfl

theorem invalidConstant (scope : Scope) (place : Span) (a b : String) :
    (Findings.invalidConstant scope place a).Twinned old new (.invalidConstant scope place b) :=
  of_alike (.invalidConstant scope place a b) rfl

end Findings.Twinned

structure Typing.Twinned (old new : Nat) (a b : Typing) : Prop where
  type : a.type = b.type
  findings : a.findings.Twinned old new b.findings

namespace Typing.Twinned

theorem refl {t : Typing} (hold : old ∉ t.findings.ids) (hnew : new ∉ t.findings.ids) :
    t.Twinned old new t :=
  ⟨rfl, .refl hold hnew⟩

theorem reject {a b : Typing} (h : a.Twinned old new b) (place : Span) {p q : Problem}
    (hproblem : p.unworded = q.unworded) (type : Ty) :
    (a.reject place p type).Twinned old new (b.reject place q type) :=
  ⟨rfl, h.findings.append (.error place hproblem)⟩

theorem record {a b : Typing} (h : a.Twinned old new b) {info : Info} (hold : info.id ≠ old)
    (hnew : info.id ≠ new) : (a.record info).Twinned old new (b.record info) := by
  refine ⟨h.type, h.findings.append ?_⟩
  rw [h.type]
  exact .record hold hnew _

theorem record_record {a b : Typing} (h : a.Twinned old new b) {info : Info} (hold : info.id = old)
    (hnew : info.id ≠ new) (place : Span) :
    ((a.record info).record ⟨new, place⟩).Twinned old new (b.record info) := by
  have hpair : Findings.Twinned old new (.record info.id a.type ++ .record new a.type)
      (.record info.id b.type) := by
    rw [h.type]
    refine ⟨rfl, ?_, rfl⟩
    intro id
    by_cases hid : id = new
    . subst hid
      simp [Findings.record, Records.type?, hold]
    . rw [if_neg hid]
      simp [Findings.record, Records.type?, Ne.symm hid]
  have hall := h.findings.append hpair
  rw [← Findings.append_assoc] at hall
  exact ⟨h.type, hall⟩

end Typing.Twinned

structure Argument.Twinned (old new : Nat) (a b : Argument) : Prop where
  typing : a.typing.Twinned old new b.typing
  mode : a.mode = b.mode
  span : a.expr.span = b.expr.span

namespace Argument.Twinned

variable {a b : Argument} (h : a.Twinned old new b)

include h

theorem type : a.type = b.type :=
  h.typing.type

theorem isSound : a.isSound = b.isSound := by
  rw [Argument.isSound, h.type, Argument.isSound]

theorem findings (scope : Scope) :
    (a.findings scope).Twinned old new (b.findings scope) := by
  unfold Argument.findings
  rw [h.type, h.mode, h.span]
  refine (h.typing.findings.append (.of_alike (.refl _) rfl)).append ?_
  split
  . exact .invalidConstant scope b.expr.span a.expr.text b.expr.text
  . exact .none

theorem mismatch? (formal : Ty) : a.mismatch? formal = b.mismatch? formal := by
  rw [Argument.mismatch?, h.mode, h.type, Argument.mismatch?]

end Argument.Twinned

structure Resolution.Twinned (old new : Nat) (a b : Resolution) : Prop where
  routine : a.routine? = b.routine?
  findings : a.findings.Twinned old new b.findings

namespace Call

variable (scope : Scope) (kind : RoutineKind) (callee : Name) (place : Span) {as bs : List Argument}
  (hargs : List.Forall₂ (Argument.Twinned old new) as bs)

include hargs

theorem argumentFindings_twinned :
    (argumentFindings scope as).Twinned old new (argumentFindings scope bs) := by
  induction hargs with
  | nil => exact .none
  | cons ha _ ih => exact (ha.findings scope).append ih

theorem passArguments_twinned (c d : Call) (hkind : c.kind = d.kind) (position : Nat)
    (formals : List Ty) :
    (c.passArguments scope position formals as).Twinned old new
      (d.passArguments scope position formals bs) := by
  induction formals generalizing position as bs with
  | nil => exact argumentFindings_twinned scope hargs
  | cons formal formals ih =>
    cases hargs with
    | nil => exact .none
    | @cons a b as bs ha hargs =>
      refine Findings.Twinned.append ?_ (ih hargs _)
      refine (ha.findings scope).append ?_
      rw [ha.isSound, ha.mismatch? formal, ha.span]
      split
      . split
        . exact .none
        next mismatch _ =>
          apply Findings.Twinned.error
          cases mismatch <;> simp only [mismatchProblem, Problem.unworded, hkind, ha.type]
      . exact .none

theorem resolve_twinned (type : Ty) :
    (resolve scope ⟨kind, callee, as, place⟩ type).Twinned old new
      (resolve scope ⟨kind, callee, bs, place⟩ type) := by
  unfold resolve
  split
  . have hfound := argumentFindings_twinned scope hargs
    have hsound : as.all (·.isSound) = bs.all (·.isSound) :=
      all_eq_of_forall₂ (fun _ _ ha => ha.isSound) hargs
    have htypes : as.map (fun a => a.type.text) = bs.map fun a => a.type.text :=
      map_eq_of_forall₂ (fun _ _ ha => congrArg Ty.text ha.type) hargs
    have htakes : takes as = takes bs :=
      takes_congr (map_eq_of_forall₂ (fun _ _ ha => funext ha.mismatch?) hargs)
    simp only [resolveOverloaded, hsound, htakes, htypes]
    split
    . split
      . exact ⟨rfl, hfound⟩
      . exact ⟨rfl, hfound.append (.error place rfl)⟩
    . exact ⟨rfl, hfound⟩
  . simp only [resolveSingle, hargs.length_eq]
    split
    . exact ⟨rfl, .error place rfl⟩
    . refine ⟨rfl, passArguments_twinned scope hargs _ _ ?_ 1 type.params⟩
      rfl

theorem check_twinned :
    (Call.check scope ⟨kind, callee, as, place⟩).Twinned old new
      (Call.check scope ⟨kind, callee, bs, place⟩) := by
  have hcallee : (Name.check scope callee).findings.Twinned old new
      (Name.check scope callee).findings := .refl (by simp) (by simp)
  have hresolve := resolve_twinned scope kind callee place hargs (Name.check scope callee).type
  simp only [Call.check]
  split
  . exact ⟨rfl, hcallee⟩
  . split
    . exact ⟨hresolve.routine, hcallee.append hresolve.findings⟩
    . exact ⟨rfl, hcallee.append (.error place rfl)⟩

end Call

namespace Expr

theorem check_encloseHere {scope : Scope} {e e' : Expr} (hinfo : e'.info = e.info)
    (hnew : e.info.id ≠ new) {t t' : Typing} (he' : e'.check scope = t'.record e.info)
    (he : e.check scope = t.record e.info) (h : t'.Twinned old new t) :
    ((e'.encloseHere old new).check scope).Twinned old new (e.check scope) := by
  rw [he, encloseHere, hinfo]
  split
  next hold =>
    rw [check, he']
    exact h.record_record hold hnew e'.span
  next hold =>
    rw [he']
    exact h.record hold hnew

theorem applyUnary_twinned (place : Span) (op : UnaryOp) (operand operand' : Expr) {a b : Typing}
    (h : a.Twinned old new b) :
    (applyUnary place op operand a).Twinned old new (applyUnary place op operand' b) := by
  simp only [applyUnary, h.type]
  split
  . exact h
  . apply h.reject
    rfl

theorem applyBinary_twinned (place : Span) (op : BinaryOp) {left right left' right' : Expr}
    (hleft : left'.span = left.span) (hright : right'.span = right.span) {l r l' r' : Typing}
    (hl : l'.Twinned old new l) (hr : r'.Twinned old new r) :
    (applyBinary place op left' right' l' r').Twinned old new
      (applyBinary place op left right l r) := by
  simp only [applyBinary, hl.type, hr.type]
  refine ⟨rfl, (hl.findings.append hr.findings).append ⟨?_, fun _ => rfl, rfl⟩⟩
  rw [Findings.diagnostics_reports, Findings.diagnostics_reports, List.map_map, List.map_map]
  apply List.map_congr_left
  intro fault _
  cases fault with
  | logical side =>
    have hspan : (side.pick left' right').span = (side.pick left right).span := by
      cases side
      . exact hleft
      . exact hright
    simp only [Function.comp_apply, faultDiagnostic, hspan]
    rfl
  | _ => rfl

theorem checkAll_enclose {scope : Scope} {args : List Expr}
    (hpassed : ∀ a ∈ args, a.isVar = true → a.info.id ≠ old)
    (h : ∀ a ∈ args, ((a.enclose old new).check scope).Twinned old new (a.check scope)) :
    List.Forall₂ (Argument.Twinned old new) (checkAll scope (encloseAll old new args))
      (checkAll scope args) := by
  rw [checkAll_eq_map, checkAll_eq_map, encloseAll_eq_map, List.map_map,
    List.forall₂_map_left_iff, List.forall₂_map_right_iff, List.forall₂_same]
  intro a ha
  exact ⟨h a ha, mode_enclose (hpassed a ha) _ _, a.span_enclose⟩

theorem check_enclose (scope : Scope) {e : Expr} (h : ∀ x ∈ e.all, x.Allows old new) :
    ((e.enclose old new).check scope).Twinned old new (e.check scope) := by
  induction e using Expr.induction with
  | const info c =>
    have hids := Const.ids_check scope c
    rw [enclose]
    refine check_encloseHere rfl (info_ne h) rfl rfl (.refl ?_ ?_)
    . rw [hids]
      exact (allows h).consts
    . rw [hids]
      exact fun hmem => (allows h).fresh (List.mem_cons_of_mem _ hmem)
  | var info name =>
    rw [enclose]
    exact check_encloseHere rfl (info_ne h) rfl rfl (.refl (by simp) (by simp))
  | call info callee args ih =>
    have hpassed (a : Expr) (ha : a ∈ args) (hvar : a.isVar = true) : a.info.id ≠ old :=
      (allows h).passed a (List.mem_filter.mpr ⟨ha, hvar⟩)
    have hargs := checkAll_enclose hpassed fun a ha => ih a ha (forall_mem_all_child h ha)
    have hcall := Call.check_twinned scope .function callee info.span hargs
    rw [enclose]
    refine check_encloseHere rfl (info_ne h) rfl rfl ⟨?_, hcall.findings⟩
    rw [applyCall, applyCall, hcall.routine]
  | paren info inner ih =>
    have hinner := ih (forall_mem_all_child h List.mem_cons_self)
    rw [enclose]
    exact check_encloseHere rfl (info_ne h) rfl rfl hinner
  | unary info op operand ih =>
    have hoperand := ih (forall_mem_all_child h List.mem_cons_self)
    rw [enclose]
    exact check_encloseHere rfl (info_ne h) rfl rfl (applyUnary_twinned _ _ _ _ hoperand)
  | binary info op left right ihl ihr =>
    have hleft := ihl (forall_mem_all_child h List.mem_cons_self)
    have hright := ihr (forall_mem_all_child h (List.mem_cons_of_mem _ List.mem_cons_self))
    rw [enclose]
    exact check_encloseHere rfl (info_ne h) rfl rfl
      (applyBinary_twinned _ _ left.span_enclose right.span_enclose hleft hright)

end Expr

end PascalCheck
