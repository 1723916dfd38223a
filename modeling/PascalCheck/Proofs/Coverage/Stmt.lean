import Mathlib.Data.List.Nodup
import Mathlib.Data.List.Pairwise
import PascalCheck.Proofs.Coverage.Expr

/-!
Which nodes of a statement are given a type. The expressions of every statement inside are looked at,
but for the arguments of a call that cannot be made and the limits of a for-statement that has no
usable control variable.
-/

namespace PascalCheck

def Scope.inspectsLimits (scope : Scope) (control : Name) : Bool :=
  match scope.lookup? control.value with
  | none => false
  | some type => !type.isError && type.isOrdinal

namespace Stmt

def children : Stmt → List Stmt
  | .assign _ _ _ | .call _ _ _ | .empty _ => []
  | .compound _ stmts | .repeatUntil _ stmts _ => stmts
  | .ifThen _ _ s | .whileDo _ _ s | .forDo _ _ _ _ _ s => [s]
  | .ifThenElse _ _ s t => [s, t]

def exprs : Stmt → List Expr
  | .assign _ _ e | .ifThen _ e _ | .ifThenElse _ e _ _ | .repeatUntil _ _ e | .whileDo _ e _ => [e]
  | .call _ _ args => args.getD []
  | .forDo _ _ _ initial final _ => [initial, final]
  | .compound _ _ | .empty _ => []

def nodes (s : Stmt) : List Expr :=
  s.exprs.flatMap (·.all)

def targets : Stmt → List Target
  | .assign _ target _ | .forDo _ _ target _ _ _ => [target]
  | _ => []

def ids (s : Stmt) : List Nat :=
  s.info.id :: (s.targets.map (·.info.id) ++ s.nodes.flatMap Expr.ids)

def looksInside (scope : Scope) : Stmt → Bool
  | .call _ callee args => scope.inspectsArguments .procedure callee (args.getD []).length
  | .forDo _ _ control _ _ _ => scope.inspectsLimits control.name
  | _ => true

/--
Whether a statement is taken to give a function its result: it assigns to a function, and what it
assigns is not a function with the same parameters.
-/
def givesResult (scope : Scope) : Stmt → Bool
  | .assign _ target value =>
    let type := (Name.check scope target.name).type
    type.isFunction && !type.equiv (value.check scope).type
  | _ => false

def inspected (scope : Scope) (s : Stmt) : List Expr :=
  if s.looksInside scope then s.exprs.flatMap (·.inspected scope) else []

def skipped (scope : Scope) (s : Stmt) : List Expr :=
  if s.looksInside scope then s.exprs.flatMap (·.skipped scope) else s.nodes

def annotated (scope : Scope) (s : Stmt) : List Nat :=
  s.targets.map (·.info.id) ++ (s.inspected scope).flatMap Expr.ids ++
    if s.givesResult scope then [s.info.id] else []

mutual

def all : Stmt → List Stmt
  | .assign info target value => [.assign info target value]
  | .call info callee args => [.call info callee args]
  | .compound info stmts => .compound info stmts :: allOf stmts
  | .ifThen info condition s => .ifThen info condition s :: s.all
  | .ifThenElse info condition s t => .ifThenElse info condition s t :: (s.all ++ t.all)
  | .repeatUntil info stmts condition => .repeatUntil info stmts condition :: allOf stmts
  | .whileDo info condition s => .whileDo info condition s :: s.all
  | .forDo info direction control initial final s =>
    .forDo info direction control initial final s :: s.all
  | .empty info => [.empty info]

def allOf : List Stmt → List Stmt
  | [] => []
  | s :: ss => s.all ++ allOf ss

end

theorem all_eq (s : Stmt) : s.all = s :: s.children.flatMap all := by
  have hall (ss : List Stmt) : allOf ss = ss.flatMap all := by
    induction ss with
    | nil => rw [allOf, List.flatMap_nil]
    | cons s ss ih => rw [allOf, ih, List.flatMap_cons]
  cases s <;> simp [all, children, hall]

theorem children_induction {motive : Stmt → Prop}
    (h : ∀ s, (∀ c ∈ s.children, motive c) → motive s) (s : Stmt) : motive s := by
  induction s using Stmt.induction with
  | compound info stmts ih => exact h _ ih
  | repeatUntil info stmts condition ih => exact h _ ih
  | ifThen info condition s ih => exact h _ (by simpa [children] using ih)
  | ifThenElse info condition s t ihs iht => exact h _ (by simpa [children] using ⟨ihs, iht⟩)
  | whileDo info condition s ih => exact h _ (by simpa [children] using ih)
  | forDo info direction control initial final s ih => exact h _ (by simpa [children] using ih)
  | _ => exact h _ (by simp [children])

theorem mem_ids_inspected (scope : Scope) (s : Stmt) (id : Nat) :
    id ∈ (s.inspected scope).flatMap Expr.ids ↔
      s.looksInside scope = true ∧ ∃ e ∈ s.exprs, id ∈ (e.check scope).findings.ids := by
  unfold inspected
  split
  next hinside =>
    simp only [List.flatMap_assoc, List.mem_flatMap, Expr.mem_ids_check, hinside, true_and]
  next hinside => simp [hinside]

end Stmt

theorem givesResult_of_not_isFunction {target : Ty} (h : target.isFunction = false) (value : Ty)
    (charLiteral : Bool) : (judgeAssignment target value charLiteral).givesResult = false := by
  unfold judgeAssignment
  split
  . exact h
  . split
    . exact h
    . split
      . rfl
      . split
        . rfl
        . cases h
        . split <;> rfl
        . rfl

theorem givesResult_function (tag : Nat) (params : List Ty) (result value : Ty)
    (charLiteral : Bool) :
    (judgeAssignment (.function tag params result) value charLiteral).givesResult =
      !(Ty.function tag params result).equiv value := by
  have hassignable : assignable (.function tag params result) value charLiteral =
      (Ty.function tag params result).equiv value := by
    simp [assignable, converts, Ty.isReal, Ty.isChar, Ty.equiv]
  unfold judgeAssignment
  rw [hassignable]
  cases hequiv : (Ty.function tag params result).equiv value with
  | true =>
    -- Only a function is equivalent to a function, so there is nothing wrong with the value.
    cases value with
    | function tag' params' result' => rfl
    | _ => cases hequiv
  | false =>
    split
    . rfl
    . split
      . rfl
      . simp only [Bool.false_eq_true, if_false]
        split <;> rfl

theorem judgeAssignment_givesResult (target value : Ty) (charLiteral : Bool) :
    (judgeAssignment target value charLiteral).givesResult =
      (target.isFunction && !target.equiv value) := by
  cases target with
  | function tag params result => exact givesResult_function tag params result value charLiteral
  | _ => exact givesResult_of_not_isFunction rfl value charLiteral

variable (scope : Scope)

@[simp]
theorem ids_checkCondition (stmt : Conditional) (e : Expr) :
    (checkCondition scope stmt e).ids = (e.check scope).findings.ids := by
  simp only [checkCondition, Findings.ids_append]
  split
  . simp
  . split <;> simp

@[simp]
theorem ids_checkLimit (limit : Limit) (control : Name) (controlType : Ty) (e : Expr) :
    (checkLimit scope limit control controlType e).ids = (e.check scope).findings.ids := by
  simp only [checkLimit, Findings.ids_append]
  split
  . simp
  . split <;> simp

theorem mem_ids_checkControl (control : Target) (initial final : Expr) (id : Nat) :
    id ∈ (checkControl scope control initial final).ids ↔ id = control.info.id ∨
      scope.inspectsLimits control.name = true ∧
        (id ∈ (initial.check scope).findings.ids ∨ id ∈ (final.check scope).findings.ids) := by
  unfold checkControl Scope.inspectsLimits Name.check
  cases scope.lookup? control.name.value with
  | none => simp [Typing.record, Ty.isError]
  | some type =>
    simp only [Typing.silent, Typing.record]
    by_cases herror : type.isError = true
    . simp [herror]
    . by_cases hordinal : type.isOrdinal = true
      . simp [herror, hordinal]
        tauto
      . simp [herror, hordinal]

theorem mem_ids_checkAssignment (info : Info) (target : Target) (value : Expr) (id : Nat) :
    id ∈ (checkAssignment scope info target value).ids ↔ id = target.info.id ∨
      id ∈ (value.check scope).findings.ids ∨
        (Stmt.assign info target value).givesResult scope = true ∧ id = info.id := by
  have htype : ((Name.check scope target.name).record target.info).type =
      (Name.check scope target.name).type := rfl
  simp only [checkAssignment, Stmt.givesResult, judgeAssignment_givesResult, htype]
  generalize (judgeAssignment _ _ _).fault? = fault?
  cases (Name.check scope target.name).type.isFunction &&
      !(Name.check scope target.name).type.equiv (value.check scope).type with
  | true =>
    cases fault? <;> simp <;> tauto
  | false => cases fault? <;> simp

theorem Stmt.mem_ids_checkAll (stmts : List Stmt) (id : Nat) :
    id ∈ (checkAll scope stmts).ids ↔ ∃ s ∈ stmts, id ∈ (s.check scope).ids := by
  induction stmts with
  | nil => simp [checkAll]
  | cons s stmts ih => simp [checkAll, ih, or_comm]

theorem Stmt.mem_annotated (s : Stmt) (id : Nat) :
    id ∈ s.annotated scope ↔ id ∈ s.targets.map (·.info.id) ∨
      (s.looksInside scope = true ∧ ∃ e ∈ s.exprs, id ∈ (e.check scope).findings.ids) ∨
        s.givesResult scope = true ∧ id = s.info.id := by
  rw [annotated, List.mem_append, List.mem_append, mem_ids_inspected, or_assoc]
  split
  next hresult => simp [hresult]
  next hresult => simp [hresult]

theorem Stmt.mem_ids_check_step (s : Stmt) (id : Nat) :
    id ∈ (s.check scope).ids ↔
      id ∈ s.annotated scope ∨ ∃ c ∈ s.children, id ∈ (c.check scope).ids := by
  rw [mem_annotated]
  cases s with
  | assign info target value =>
    rw [check, mem_ids_checkAssignment]
    simp [targets, looksInside, exprs, children, Stmt.info]
  | call info callee args =>
    rw [check, checkProcedureCall, Expr.checkAll_eq_map, Call.mem_ids_check]
    simp [targets, looksInside, exprs, children, givesResult]
  | compound info stmts =>
    rw [check, mem_ids_checkAll]
    simp [targets, exprs, children, givesResult]
  | repeatUntil info stmts condition =>
    simp [check, mem_ids_checkAll, targets, looksInside, exprs, children, givesResult]
  | forDo info direction control initial final body =>
    simp [check, mem_ids_checkControl, targets, looksInside, exprs, children, givesResult, or_comm]
  | ifThenElse info condition thenStmt elseStmt =>
    simp [check, targets, looksInside, exprs, children, givesResult, or_comm, or_assoc]
  | _ => simp [check, targets, looksInside, exprs, children, givesResult, or_comm]

theorem Stmt.mem_ids_check (s : Stmt) (id : Nat) :
    id ∈ (s.check scope).ids ↔ ∃ c ∈ s.all, id ∈ c.annotated scope := by
  induction s using Stmt.children_induction with
  | h s ih =>
    rw [mem_ids_check_step, all_eq, List.exists_mem_cons_iff, exists_mem_flatMap_congr ih]

namespace Stmt

theorem mem_skipped {s : Stmt} {e : Expr} (he : e ∈ s.nodes) :
    e ∈ s.skipped scope ↔ s.looksInside scope = false ∨
      ∃ c ∈ s.nodes, c.looksInside scope = false ∧ e ∈ c.children.flatMap Expr.all := by
  unfold skipped nodes
  split
  next hinside =>
    rw [List.mem_flatMap, exists_mem_flatMap_congr fun c _ => c.mem_skipped scope e, hinside]
    simp
  next houtside => exact ⟨fun _ => .inl (Bool.eq_false_iff.mpr houtside), fun _ => he⟩

theorem inspected_append_skipped_perm (s : Stmt) :
    (s.inspected scope ++ s.skipped scope).Perm s.nodes := by
  unfold inspected skipped nodes
  split
  . refine (List.flatMap_append_perm _ _ _).trans ?_
    exact List.Perm.flatMap_left _ fun e _ => e.inspected_append_skipped_perm scope
  . exact List.Perm.refl _

theorem ids_inspected_append_skipped_perm (s : Stmt) :
    ((s.inspected scope).flatMap Expr.ids ++ (s.skipped scope).flatMap Expr.ids).Perm
      (s.nodes.flatMap Expr.ids) := by
  rw [← List.flatMap_append]
  exact (s.inspected_append_skipped_perm scope).flatMap_right _

theorem annotated_subset (s : Stmt) : s.annotated scope ⊆ s.ids := by
  intro id hid
  rw [annotated, List.mem_append, List.mem_append] at hid
  rw [ids, List.mem_cons, List.mem_append]
  obtain (htarget | hinspected) | hresult := hid
  . exact .inr (.inl htarget)
  . have hperm := s.ids_inspected_append_skipped_perm scope
    exact .inr (.inr (hperm.subset (List.mem_append_left _ hinspected)))
  . rw [List.mem_ite_nil_right, List.mem_singleton] at hresult
    exact .inl hresult.2

theorem skipped_subset (s : Stmt) : (s.skipped scope).flatMap Expr.ids ⊆ s.ids := by
  intro id hid
  have hnode := (s.ids_inspected_append_skipped_perm scope).subset (List.mem_append_right _ hid)
  exact List.mem_cons_of_mem _ (List.mem_append_right _ hnode)

variable {scope}

theorem mem_annotated_of_not_skipped {s : Stmt} {e : Expr} (he : e ∈ s.nodes)
    (hskipped : e ∉ s.skipped scope) {id : Nat} (hid : id ∈ e.ids) : id ∈ s.annotated scope := by
  have hmem := (s.inspected_append_skipped_perm scope).mem_iff.mpr he
  have hinspected := (List.mem_append.mp hmem).resolve_right hskipped
  exact List.mem_append_left _ (List.mem_append_right _ (List.mem_flatMap.mpr ⟨e, hinspected, hid⟩))

theorem not_mem_annotated {s : Stmt} {id : Nat} (hnodup : s.ids.Nodup)
    (hid : id ∈ (s.skipped scope).flatMap Expr.ids) : id ∉ s.annotated scope := by
  have hperm := s.ids_inspected_append_skipped_perm scope
  have hnode := hperm.subset (List.mem_append_right _ hid)
  rw [ids, List.nodup_cons, List.nodup_append', List.mem_append] at hnodup
  obtain ⟨hown, -, hnodes, hdisjoint⟩ := hnodup
  rw [annotated, List.mem_append, List.mem_append]
  rintro ((htarget | hinspected) | hresult)
  . exact hdisjoint htarget hnode
  . exact List.disjoint_of_nodup_append (hperm.nodup_iff.mpr hnodes) hinspected hid
  . rw [List.mem_ite_nil_right, List.mem_singleton] at hresult
    rw [hresult.2] at hnode
    exact hown (.inr hnode)

theorem not_mem_ids_check {stmt s : Stmt} {id : Nat} (hnodup : (stmt.all.flatMap ids).Nodup)
    (hs : s ∈ stmt.all) (hid : id ∈ (s.skipped scope).flatMap Expr.ids) :
    id ∉ (stmt.check scope).ids := by
  rw [mem_ids_check]
  rintro ⟨t, ht, htid⟩
  obtain ⟨hnodups, hdisjoint⟩ := List.nodup_flatMap.mp hnodup
  have : Std.Symm (Function.onFun List.Disjoint ids) := ⟨fun _ _ => List.disjoint_symm⟩
  by_cases heq : s = t
  . rw [← heq] at htid
    exact not_mem_annotated (hnodups s hs) hid htid
  . exact hdisjoint.forall hs ht heq (s.skipped_subset scope hid) (t.annotated_subset scope htid)

end Stmt

end PascalCheck
