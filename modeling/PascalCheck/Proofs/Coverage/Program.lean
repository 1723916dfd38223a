import Mathlib.Data.List.Induction
import PascalCheck.Proofs.Contents
import PascalCheck.Proofs.Coverage.Stmt
import PascalCheck.Proofs.History
import PascalCheck.Proofs.Steps

/-!
Which nodes of a program are given a type. A check goes through all declarations and statement parts,
whatever it finds wrong; the nodes that are left out are expressions that a statement skips.
-/

namespace PascalCheck

def Context.ids (ctx : Context) : List Nat :=
  ctx.records.map (·.id)

theorem Context.ids_add (ctx : Context) (found : Findings) :
    (ctx.add found).ids = found.ids ++ ctx.ids :=
  List.map_append

theorem Records.isSome_type? (records : Records) (id : Nat) :
    (records.type? id).isSome = true ↔ id ∈ records.map (·.id) := by
  simp [type?]

namespace Item

def declared : Item → List Nat
  | .value d => d.value.ids
  | .typed id => [id]
  | .routine _ | .body _ => []

def annotated (scope : Scope) : Item → List Nat
  | .body stmt => stmt.all.flatMap (·.annotated scope)
  | item => item.declared

def ids : Item → List Nat
  | .body stmt => stmt.all.flatMap Stmt.ids
  | item => item.declared

theorem annotated_subset (scope : Scope) (item : Item) : item.annotated scope ⊆ item.ids := by
  cases item with
  | body stmt =>
    intro id hid
    obtain ⟨s, hs, hid⟩ := List.mem_flatMap.mp hid
    exact List.mem_flatMap.mpr ⟨s, hs, s.annotated_subset scope hid⟩
  | _ => exact List.Subset.refl _

theorem declared_subset (scope : Scope) (item : Item) : item.declared ⊆ item.annotated scope := by
  cases item with
  | body stmt => exact List.nil_subset _
  | _ => exact List.Subset.refl _

end Item

theorem Action.mem_ids_apply (ctx : Context) (a : Action) (id : Nat) :
    id ∈ (a.apply ctx).ids ↔
      id ∈ ctx.ids ∨ ∃ item, a.item? = some item ∧ id ∈ item.annotated ctx.scope := by
  cases a with
  | find name => simp [apply, Context.ids_add, item?]
  | value d => simp [apply, Context.ids_add, item?, Item.annotated, Item.declared, Const.ids_check,
      or_comm]
  | record i type => simp [apply, Context.ids_add, item?, Item.annotated, Item.declared, or_comm]
  | define name type => simp [apply, Context.ids, Context.records_define, item?]
  | body stmt => simp [apply, Context.ids_add, item?, Item.annotated, Stmt.mem_ids_check, or_comm]
  | noResult function => simp [apply, Context.ids_add, item?]
  | enter r => simp [apply, Context.ids, Context.push, item?, Item.annotated, Item.declared]
  | _ => simp [apply, Context.ids, Context.note, Context.predefine, Context.pop, item?]

namespace Context

theorem mem_ids_run (ctx : Context) (actions : List Action) (id : Nat) :
    id ∈ (ctx.run actions).ids ↔
      id ∈ ctx.ids ∨ ∃ done a item, done ++ [a] <+: actions ∧ a.item? = some item ∧
        id ∈ item.annotated (ctx.run done).scope := by
  induction actions using List.reverseRecOn with
  | nil => simp
  | append_singleton actions a ih =>
    rw [run_append, run_cons, run_nil, Action.mem_ids_apply, ih, or_assoc]
    apply or_congr_right
    constructor
    . rintro (⟨done, b, item, hdone, hitem⟩ | ⟨item, hitem⟩)
      . exact ⟨done, b, item, hdone.trans (List.prefix_append _ _), hitem⟩
      . exact ⟨actions, a, item, List.prefix_refl _, hitem⟩
    . rintro ⟨done, b, item, hdone, hitem⟩
      obtain heq | hdone := List.prefix_concat_iff.mp hdone
      . obtain ⟨rfl, hlast⟩ := List.append_inj' heq rfl
        cases hlast
        exact .inr ⟨item, hitem⟩
      . exact .inl ⟨done, b, item, hdone, hitem⟩

theorem ids_run_subset (ctx : Context) (actions : List Action) :
    (ctx.run actions).ids ⊆ ctx.ids ++ (actions.filterMap Action.item?).flatMap Item.ids := by
  intro id hid
  rw [List.mem_append]
  obtain hid | ⟨done, a, item, hdone, hitem, hid⟩ := (ctx.mem_ids_run actions id).mp hid
  . exact .inl hid
  . have ha : a ∈ actions := hdone.subset (List.mem_append_right _ (List.mem_singleton_self a))
    exact .inr (List.mem_flatMap.mpr
      ⟨item, List.mem_filterMap.mpr ⟨a, ha, hitem⟩, item.annotated_subset _ hid⟩)

theorem not_mem_ids_run {ctx : Context} {actions done : List Action} {stmt s : Stmt} {id : Nat}
    (hfresh : ctx.ids = [])
    (hnodup : ((actions.filterMap Action.item?).flatMap Item.ids).Nodup)
    (hdone : done ++ [.body stmt] <+: actions) (hs : s ∈ stmt.all)
    (hid : id ∈ (s.skipped (ctx.run done).scope).flatMap Expr.ids) : id ∉ (ctx.run actions).ids := by
  obtain ⟨rest, rfl⟩ := hdone
  have hown : id ∈ Item.ids (.body stmt) :=
    List.mem_flatMap.mpr ⟨s, hs, s.skipped_subset _ hid⟩
  have hitem : ([Action.body stmt].filterMap Action.item?).flatMap Item.ids =
      Item.ids (.body stmt) :=
    List.append_nil _
  rw [List.filterMap_append, List.filterMap_append, List.flatMap_append, List.flatMap_append, hitem,
    List.nodup_append', List.nodup_append'] at hnodup
  -- The number belongs to this statement part, so no action before or after it can record it.
  obtain ⟨⟨-, hbody, hbefore⟩, -, hafter⟩ := hnodup
  have hdone : id ∉ (ctx.run done).ids := by
    intro h
    have hmem := ctx.ids_run_subset done h
    rw [hfresh, List.nil_append] at hmem
    exact hbefore hmem hown
  rw [run_append, run_append]
  intro h
  obtain h | h := List.mem_append.mp (ids_run_subset _ rest h)
  . rw [run_cons, run_nil, Action.apply, ids_add, List.mem_append] at h
    exact h.elim (Stmt.not_mem_ids_check hbody hs hid) hdone
  . exact hafter (List.mem_append_right _ hown) h

end Context

theorem Program.mem_ids_check (p : Program) (table : Predefined) {ctx : Context}
    (hfresh : ctx.ids = []) (id : Nat) :
    id ∈ (p.check table ctx).ids ↔
      (∃ item ∈ p.block.items, id ∈ item.declared) ∨
      ∃ done stmt, done ++ [.body stmt] <+: p.plan table ctx ∧
        ∃ s ∈ stmt.all, id ∈ s.annotated (ctx.run done).scope := by
  rw [← p.plan_does table ctx, Context.mem_ids_run, hfresh, List.mem_nil_iff, false_or,
    ← p.plan_lists table ctx]
  constructor
  . rintro ⟨done, a, item, hdone, hitem, hid⟩
    have ha := hdone.subset (List.mem_append_right _ (List.mem_singleton_self a))
    cases item with
    | body stmt =>
      have hbody : a = .body stmt := by
        cases a <;> cases hitem
        rfl
      rw [hbody] at hdone
      exact .inr ⟨done, stmt, hdone, List.mem_flatMap.mp hid⟩
    | _ => exact .inl ⟨_, List.mem_filterMap.mpr ⟨a, ha, hitem⟩, hid⟩
  . rintro (⟨item, hitem, hid⟩ | ⟨done, stmt, hdone, hid⟩)
    . obtain ⟨a, ha, hitem⟩ := List.mem_filterMap.mp hitem
      obtain ⟨done, rest, hplan⟩ := List.append_of_mem ha
      refine ⟨done, a, item, ⟨rest, ?_⟩, hitem, item.declared_subset _ hid⟩
      rw [hplan, List.append_assoc, List.singleton_append]
    . exact ⟨done, .body stmt, .body stmt, hdone, rfl, List.mem_flatMap.mpr hid⟩

theorem Program.check_annotates_exactly (p : Program) (table : Predefined) {ctx : Context}
    (hfresh : ctx.records = []) (hids : (p.block.items.flatMap Item.ids).Nodup) :
    ctx.run (p.plan table ctx) = p.check table ctx ∧
    (p.plan table ctx).filterMap Action.item? = p.block.items ∧
    (∀ id, ((p.check table ctx).records.type? id).isSome = true ↔
      (∃ item ∈ p.block.items, id ∈ item.declared) ∨
      ∃ done stmt, done ++ [.body stmt] <+: p.plan table ctx ∧
        ∃ s ∈ stmt.all, id ∈ s.annotated (ctx.run done).scope) ∧
    ∀ done stmt s e, done ++ [.body stmt] <+: p.plan table ctx → s ∈ stmt.all → e ∈ s.nodes →
      ∀ id ∈ e.ids, (p.check table ctx).records.type? id = none ↔
        s.looksInside (ctx.run done).scope = false ∨
        ∃ call ∈ s.nodes, call.looksInside (ctx.run done).scope = false ∧
          e ∈ call.children.flatMap Expr.all := by
  have hempty : ctx.ids = [] := by
    rw [Context.ids, hfresh, List.map_nil]
  refine ⟨p.plan_does table ctx, p.plan_lists table ctx, ?_, ?_⟩
  . intro id
    rw [Records.isSome_type?]
    exact p.mem_ids_check table hempty id
  . intro done stmt s e hdone hs he id hid
    rw [← Stmt.mem_skipped _ he, ← Option.not_isSome_iff_eq_none, Records.isSome_type?]
    constructor
    . intro hnone
      by_contra hskipped
      apply hnone
      have hannotated := Stmt.mem_annotated_of_not_skipped he hskipped hid
      exact (p.mem_ids_check table hempty id).mpr (.inr ⟨done, stmt, hdone, s, hs, hannotated⟩)
    . intro hskipped
      rw [← p.plan_lists table ctx] at hids
      rw [← p.plan_does table ctx]
      exact Context.not_mem_ids_run hempty hids hdone hs (List.mem_flatMap.mpr ⟨e, hskipped, hid⟩)

namespace Sample

def unknownCall : Stmt :=
  -- `q(s)`, where there is no `q`.
  .call (node 11) ⟨node 12, "q"⟩ (some [.var (node 13) ⟨node 14, "s"⟩])

def unknownValue : Stmt :=
  -- `r := s`, where there is no `s`.
  .assign (node 24) ⟨node 25, ⟨node 26, "r"⟩⟩ (.var (node 27) ⟨node 28, "s"⟩)

def realLoop : Stmt :=
  -- `for r := 1 to 2 do r := s`, where `r` is real.
  .forDo (node 15) .to ⟨node 16, ⟨node 17, "r"⟩⟩
    (.const (node 18) (.integer (node 19) ⟨node 20, "1"⟩))
    (.const (node 21) (.integer (node 22) ⟨node 23, "2"⟩)) unknownValue

def skipping : Program :=
  -- `program p; var r : real; begin q(s); for r := 1 to 2 do r := s end.`
  ⟨node 0, ⟨node 1, ⟨node 2, "p"⟩, []⟩,
    .mk (node 3) none
      (some ⟨node 4, [⟨node 5, [⟨node 6, "r"⟩], .named ⟨node 7, ⟨node 8, .real⟩⟩⟩]⟩) .absent
      ⟨node 9, .compound (node 10) [unknownCall, realLoop]⟩⟩

end Sample

theorem Sample.skipping_left_out :
    (Sample.skipping.block.items.flatMap Item.ids).Nodup ∧
      (Sample.skipping.check [] .empty).records.type? 13 = none ∧
      (Sample.skipping.check [] .empty).records.type? 19 = none ∧
      (Sample.skipping.check [] .empty).records.type? 27 ≠ none := by
  have hids : (Sample.skipping.block.items.flatMap Item.ids).Nodup := by decide
  obtain ⟨-, -, -, h⟩ :=
    Sample.skipping.check_annotates_exactly [] (rfl : Context.empty.records = []) hids
  have hdone : (Sample.skipping.plan [] .empty).take 5 ++
      [.body Sample.skipping.block.body.stmt] <+: Sample.skipping.plan [] .empty :=
    ⟨(Sample.skipping.plan [] .empty).drop 6, rfl⟩
  have hall : ∀ s ∈ [unknownCall, realLoop, unknownValue], s ∈ skipping.block.body.stmt.all := by
    simp [skipping, Block.body, Stmt.all, Stmt.allOf, unknownCall, realLoop, unknownValue]
  simp only [List.forall_mem_cons] at hall
  obtain ⟨hcall, hloop, hvalue, -⟩ := hall
  refine ⟨hids, ?_, ?_, ?_⟩
  . exact (h _ _ _ _ hdone hcall (List.mem_singleton_self _) 13 (by decide)).mpr (.inl (by decide))
  . exact (h _ _ _ _ hdone hloop (List.mem_cons_self ..) 19 (by decide)).mpr (.inl (by decide))
  . rw [ne_eq, h _ _ _ _ hdone hvalue (List.mem_singleton_self _) 27 (by decide)]
    rintro (houtside | ⟨call, hcall, -, he⟩)
    . cases houtside
    . cases List.mem_singleton.mp hcall
      cases he

end PascalCheck
