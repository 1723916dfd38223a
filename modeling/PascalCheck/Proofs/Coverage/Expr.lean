import Mathlib.Data.List.Perm.Basic
import PascalCheck.Proofs.Typing.Records

/-!
Which nodes of an expression are given a type. Every expression inside is looked at, faulty or not,
but for the arguments of a call that cannot be made.
-/

namespace PascalCheck

/--
Whether the arguments of a call are looked at: the callee is bound to a routine of this kind, and
there is an argument for each of its parameters.
-/
def Scope.inspectsArguments (scope : Scope) (kind : RoutineKind) (callee : Name) (count : Nat) :
    Bool :=
  match scope.lookup? callee.value with
  | none => false
  | some type => !type.isError && type.routineKind? == some kind && type.params.length ≤ count

theorem exists_mem_flatMap_congr {α β : Type} {parts : List α} {all : α → List β} {P : α → Prop}
    {Q : β → Prop} (h : ∀ a ∈ parts, (P a ↔ ∃ b ∈ all a, Q b)) :
    (∃ a ∈ parts, P a) ↔ ∃ b ∈ parts.flatMap all, Q b := by
  constructor
  . rintro ⟨a, ha, hP⟩
    obtain ⟨b, hb, hQ⟩ := (h a ha).mp hP
    exact ⟨b, List.mem_flatMap.mpr ⟨a, ha, hb⟩, hQ⟩
  . rintro ⟨b, hb, hQ⟩
    obtain ⟨a, ha, hb⟩ := List.mem_flatMap.mp hb
    exact ⟨a, ha, (h a ha).mpr ⟨b, hb, hQ⟩⟩

namespace Expr

def children : Expr → List Expr
  | .const _ _ | .var _ _ => []
  | .call _ _ args => args
  | .paren _ e | .unary _ _ e => [e]
  | .binary _ _ left right => [left, right]

def looksInside (scope : Scope) : Expr → Bool
  | .call _ callee args => scope.inspectsArguments .function callee args.length
  | _ => true

def ids : Expr → List Nat
  | .const info c => info.id :: c.ids
  | e => [e.info.id]

mutual

/-- An expression and the expressions inside, as far as `inside` lets through to them. -/
def reached (inside : Expr → Bool) : Expr → List Expr
  | .const info c => [.const info c]
  | .var info name => [.var info name]
  | .call info callee args =>
    .call info callee args :: if inside (.call info callee args) then reachedAll inside args else []
  | .paren info e =>
    .paren info e :: if inside (.paren info e) then e.reached inside else []
  | .unary info op e =>
    .unary info op e :: if inside (.unary info op e) then e.reached inside else []
  | .binary info op left right =>
    .binary info op left right :: if inside (.binary info op left right) then
      left.reached inside ++ right.reached inside else []

def reachedAll (inside : Expr → Bool) : List Expr → List Expr
  | [] => []
  | e :: es => e.reached inside ++ reachedAll inside es

end

def all : Expr → List Expr :=
  reached fun _ => true

def inspected (scope : Scope) : Expr → List Expr :=
  reached (looksInside scope)

mutual

def skipped (scope : Scope) : Expr → List Expr
  | .const _ _ | .var _ _ => []
  | .call info callee args =>
    if (Expr.call info callee args).looksInside scope then skippedAll scope args
    else args.flatMap all
  | .paren _ e | .unary _ _ e => e.skipped scope
  | .binary _ _ left right => left.skipped scope ++ right.skipped scope

def skippedAll (scope : Scope) : List Expr → List Expr
  | [] => []
  | e :: es => e.skipped scope ++ skippedAll scope es

end

theorem children_induction {motive : Expr → Prop}
    (h : ∀ e, (∀ c ∈ e.children, motive c) → motive e) (e : Expr) : motive e := by
  induction e using Expr.induction with
  | const info c => exact h _ (by simp [children])
  | var info name => exact h _ (by simp [children])
  | call info callee args ih => exact h _ ih
  | paren info e ih => exact h _ (by simpa [children] using ih)
  | unary info op e ih => exact h _ (by simpa [children] using ih)
  | binary info op left right ihl ihr => exact h _ (by simpa [children] using ⟨ihl, ihr⟩)

theorem reachedAll_eq_flatMap (inside : Expr → Bool) (es : List Expr) :
    reachedAll inside es = es.flatMap (reached inside) := by
  induction es with
  | nil => rw [reachedAll, List.flatMap_nil]
  | cons e es ih => rw [reachedAll, ih, List.flatMap_cons]

theorem reached_eq (inside : Expr → Bool) (e : Expr) :
    e.reached inside = e :: if inside e then e.children.flatMap (reached inside) else [] := by
  cases e <;> simp [reached, children, reachedAll_eq_flatMap]

theorem skippedAll_eq_flatMap (scope : Scope) (es : List Expr) :
    skippedAll scope es = es.flatMap (skipped scope) := by
  induction es with
  | nil => rw [skippedAll, List.flatMap_nil]
  | cons e es ih => rw [skippedAll, ih, List.flatMap_cons]

theorem skipped_eq (scope : Scope) (e : Expr) :
    e.skipped scope = if e.looksInside scope then e.children.flatMap (skipped scope)
      else e.children.flatMap all := by
  cases e with
  | call info callee args =>
    rw [skipped, skippedAll_eq_flatMap]
    rfl
  | _ => simp [skipped, children, looksInside]

theorem all_eq (e : Expr) : e.all = e :: e.children.flatMap all := by
  rw [all, reached_eq, if_pos rfl]

theorem mem_all_trans {a b c : Expr} (hb : b ∈ a.all) (hc : c ∈ b.all) : c ∈ a.all := by
  induction a using children_induction with
  | h a ih =>
    rw [all_eq, List.mem_cons] at hb
    obtain rfl | hb := hb
    . exact hc
    . obtain ⟨d, hd, hb⟩ := List.mem_flatMap.mp hb
      rw [all_eq]
      exact List.mem_cons_of_mem _ (List.mem_flatMap.mpr ⟨d, hd, ih d hd hb⟩)

theorem mem_skipped (scope : Scope) (e x : Expr) :
    x ∈ e.skipped scope ↔
      ∃ c ∈ e.all, c.looksInside scope = false ∧ x ∈ c.children.flatMap all := by
  induction e using children_induction with
  | h e ih =>
    rw [skipped_eq, all_eq, List.exists_mem_cons_iff]
    split
    next hinside =>
      rw [List.mem_flatMap, exists_mem_flatMap_congr ih, hinside]
      simp
    next houtside =>
      constructor
      . intro hx
        exact .inl ⟨Bool.eq_false_iff.mpr houtside, hx⟩
      . rintro (⟨-, hx⟩ | ⟨c, hc, -, hx⟩)
        . exact hx
        . obtain ⟨d, hd, hc⟩ := List.mem_flatMap.mp hc
          have hxc : x ∈ c.all := by
            rw [all_eq]
            exact List.mem_cons_of_mem _ hx
          exact List.mem_flatMap.mpr ⟨d, hd, mem_all_trans hc hxc⟩

theorem inspected_append_skipped_perm (scope : Scope) (e : Expr) :
    (e.inspected scope ++ e.skipped scope).Perm e.all := by
  induction e using children_induction with
  | h e ih =>
    rw [inspected, reached_eq, skipped_eq, all_eq, List.cons_append]
    apply List.Perm.cons
    split
    . exact (List.flatMap_append_perm _ _ _).trans (List.Perm.flatMap_left _ ih)
    . exact List.Perm.refl _

end Expr

def Findings.ids (found : Findings) : List Nat :=
  found.records.map (·.id)

namespace Findings

@[simp]
theorem ids_none : none.ids = [] := rfl

@[simp]
theorem ids_error (place : Span) (problem : Problem) : (error place problem).ids = [] := rfl

@[simp]
theorem ids_invalidConstant (scope : Scope) (place : Span) (context : String) :
    (invalidConstant scope place context).ids = [] := rfl

@[simp]
theorem ids_record (id : Nat) (type : Ty) : (record id type).ids = [id] := rfl

@[simp]
theorem ids_pass (mode : Mode) (type : Ty) : (pass mode type).ids = [] := rfl

@[simp]
theorem ids_append (a b : Findings) : (a ++ b).ids = b.ids ++ a.ids :=
  List.map_append

end Findings

@[simp]
theorem Typing.ids_record (t : Typing) (info : Info) :
    (t.record info).findings.ids = info.id :: t.findings.ids := rfl

@[simp]
theorem Typing.ids_reject (t : Typing) (place : Span) (problem : Problem) (type : Ty) :
    (t.reject place problem type).findings.ids = t.findings.ids := rfl

@[simp]
theorem Name.ids_check (scope : Scope) (name : Name) :
    (Name.check scope name).findings.ids = [] := by
  rw [Findings.ids, Name.records_check, List.map_nil]

theorem Const.ids_check (scope : Scope) (c : Const) : (c.check scope).findings.ids = c.ids := by
  induction c with
  | signed info sign operand ih =>
    have hsign : (applySign scope info.span sign.value operand (operand.check scope)).findings.ids =
        (operand.check scope).findings.ids := by
      unfold applySign
      split <;> split <;> simp
    rw [check, Typing.ids_record, hsign, ih, ids]
  | named info name => simp [check, ids, Const.info]
  | signedNamed info sign name =>
    rw [check, Typing.ids_record, Findings.ids, records_applySignToName, Name.records_check]
    rfl
  | _ => rfl

namespace Call

variable (scope : Scope)

theorem mem_ids_argumentFindings (args : List Argument) (id : Nat) :
    id ∈ (argumentFindings scope args).ids ↔ ∃ a ∈ args, id ∈ a.typing.findings.ids := by
  have hargument (a : Argument) : (a.findings scope).ids = a.typing.findings.ids := by
    unfold Argument.findings
    split <;> simp
  induction args with
  | nil => simp [argumentFindings]
  | cons a args ih =>
    simp [argumentFindings, ih, hargument, or_comm]

theorem ids_passArguments (c : Call) (position : Nat) (formals : List Ty) (args : List Argument) :
    (c.passArguments scope position formals args).ids = (argumentFindings scope args).ids := by
  have hargument (position : Nat) (formal : Ty) (a : Argument) :
      (c.passArgument scope position formal a).ids = (a.findings scope).ids := by
    unfold passArgument
    split
    . split <;> simp
    . simp
  induction formals generalizing position args with
  | nil => rfl
  | cons formal formals ih =>
    cases args with
    | nil => rfl
    | cons a args => rw [passArguments, argumentFindings, Findings.ids_append, Findings.ids_append,
        hargument, ih]

theorem params_of_alternatives? {t : Ty} {alternatives : List Ty}
    (h : t.alternatives? = some alternatives) : t.params = [] := by
  cases t with
  | overload tag alternatives => rfl
  | _ => cases h

theorem ids_resolve (c : Call) (type : Ty) :
    (c.resolve scope type).findings.ids =
      if type.params.length ≤ c.args.length then (argumentFindings scope c.args).ids else [] := by
  unfold resolve
  split
  next alternatives h =>
    rw [params_of_alternatives? h, List.length_nil, if_pos (Nat.zero_le _)]
    simp only [resolveOverloaded]
    split
    . split <;> simp
    . rfl
  . simp only [resolveSingle]
    split
    next hfew =>
      rw [if_neg (Nat.not_le.mpr hfew)]
      rfl
    next henough => rw [if_pos (Nat.not_lt.mp henough), ids_passArguments]

theorem mem_ids_check (c : Call) (id : Nat) :
    id ∈ (c.check scope).findings.ids ↔
      scope.inspectsArguments c.kind c.callee c.args.length = true ∧
        ∃ a ∈ c.args, id ∈ a.typing.findings.ids := by
  rw [← mem_ids_argumentFindings scope]
  unfold check Name.check Scope.inspectsArguments
  cases scope.lookup? c.callee.value with
  | none => simp [Ty.isError]
  | some type =>
    simp only [Typing.silent, Findings.none_append]
    by_cases herror : type.isError = true
    . simp [herror]
    . rw [if_neg herror]
      by_cases hkind : type.routineKind? = some c.kind
      . rw [if_pos hkind]
        simp only [ids_resolve]
        split
        next henough => simp [herror, hkind, henough]
        next hfew => simp [hfew]
      . simp [hkind]

end Call

namespace Expr

variable (scope : Scope)

theorem mem_ids_check_step (e : Expr) (id : Nat) :
    id ∈ (e.check scope).findings.ids ↔ id ∈ e.ids ∨
      e.looksInside scope = true ∧ ∃ c ∈ e.children, id ∈ (c.check scope).findings.ids := by
  cases e with
  | const info c => simp [check, Const.ids_check, Expr.ids, children]
  | var info name => simp [check, Expr.ids, Expr.info, children]
  | call info callee args =>
    have hcall := Call.mem_ids_check scope ⟨.function, callee, checkAll scope args, info.span⟩ id
    rw [checkAll_eq_map] at hcall
    rw [check, checkAll_eq_map, Typing.ids_record, List.mem_cons, applyCall, hcall]
    simp [Expr.ids, Expr.info, looksInside, children]
  | paren info e => simp [check, Expr.ids, Expr.info, looksInside, children]
  | unary info op e =>
    have hop : (applyUnary info.span op.value e (e.check scope)).findings.ids =
        (e.check scope).findings.ids := by
      unfold applyUnary
      split <;> simp
    simp [check, hop, Expr.ids, Expr.info, looksInside, children]
  | binary info op left right =>
    have hop : (applyBinary info.span op.value left right (left.check scope)
        (right.check scope)).findings.ids =
          (right.check scope).findings.ids ++ (left.check scope).findings.ids := by
      rw [applyBinary, Findings.ids_append, Findings.ids_append]
      rfl
    simp [check, hop, Expr.ids, Expr.info, looksInside, children, or_comm]

theorem mem_ids_check (e : Expr) (id : Nat) :
    id ∈ (e.check scope).findings.ids ↔ ∃ c ∈ e.inspected scope, id ∈ c.ids := by
  induction e using children_induction with
  | h e ih =>
    rw [mem_ids_check_step, inspected, reached_eq, List.exists_mem_cons_iff,
      exists_mem_flatMap_congr ih]
    apply or_congr_right
    split
    next hinside => exact and_iff_right hinside
    next hinside => simp [hinside]

end Expr

end PascalCheck
