import PascalCheck.Proofs.Plan

/-!
What a check goes through no matter what it finds: the values of constants, the nodes of declarations
that have a type of their own, the regions of routines and the statement parts, in order.
-/

namespace PascalCheck

/-- What a check does because it stands in the program. -/
inductive Item where
  | value (definition : ConstDef)
  | typed (id : Nat)
  | routine (routine : Routine)
  | body (stmt : Stmt)

def Action.item? : Action → Option Item
  | .value d => some (.value d)
  | .record id _ => some (.typed id)
  | .enter r => some (.routine r)
  | .body stmt => some (.body stmt)
  | _ => none

def TypeName.item (t : TypeName) : Item :=
  .typed t.info.id

def TypeDenoter.items : TypeDenoter → List Item
  | .named name => [name.item]
  | .file info component => component.items ++ [.typed info.id]

def Group.items (g : Group) : List Item :=
  [g.type.item, .typed g.info.id]

def Routine.headItems (r : Routine) : List Item :=
  r.result?.toList.map TypeName.item ++ [.routine r] ++ r.groups.flatMap Group.items

mutual

def Block.items : Block → List Item
  | .mk _ consts vars part body =>
    ((consts.map (·.defs)).getD []).map .value ++
      ((vars.map (·.decls)).getD []).flatMap (·.type.items) ++ part.items ++ [.body body.stmt]

def RoutinePart.items : RoutinePart → List Item
  | .absent => []
  | .present _ routines => Routine.itemsAll routines

def Routine.items : Routine → List Item
  | .procedure info name params block =>
    (Routine.procedure info name params block).headItems ++ block.items ++ [.typed name.id]
  | .function info name params result block =>
    (Routine.function info name params result block).headItems ++ block.items ++ [.typed name.id]

def Routine.itemsAll : List Routine → List Item
  | [] => []
  | r :: rs => r.items ++ Routine.itemsAll rs

end

theorem Routine.items_eq (r : Routine) :
    r.items = r.headItems ++ r.block.items ++ [.typed r.name.id] := by
  cases r <;> rw [Routine.items] <;> rfl

theorem Block.items_eq (b : Block) :
    b.items = b.constDefs.map .value ++ b.varDecls.flatMap (·.type.items) ++
      b.routines.flatMap Routine.items ++ [.body b.body.stmt] := by
  have hall (rs : List Routine) : Routine.itemsAll rs = rs.flatMap Routine.items := by
    induction rs with
    | nil => rw [Routine.itemsAll, List.flatMap_nil]
    | cons r rs ih => rw [Routine.itemsAll, List.flatMap_cons, ih]
  have hpart (part : RoutinePart) : part.items = part.routines.flatMap Routine.items := by
    cases part with
    | absent => rw [RoutinePart.items, RoutinePart.routines, List.flatMap_nil]
    | present info rs => rw [RoutinePart.items, RoutinePart.routines, hall]
  cases b with
  | mk info consts vars part body =>
    rw [Block.items, hpart]
    rfl

namespace Plan

def Lists (plan : Plan) (items : List Item) : Prop :=
  ∀ ctx : Context, (plan ctx).filterMap Action.item? = items

theorem Lists.andThen {a b : Plan} {items items' : List Item} (ha : a.Lists items)
    (hb : b.Lists items') : (a.andThen b).Lists (items ++ items') := by
  intro ctx
  rw [Plan.andThen, List.filterMap_append, ha, hb]

theorem Lists.all {α : Type} {plan : α → Plan} {items : α → List Item} {xs : List α}
    (h : ∀ x ∈ xs, (plan x).Lists (items x)) : (Plan.all plan xs).Lists (xs.flatMap items) := by
  induction xs with
  | nil => exact fun _ => rfl
  | cons x xs ih =>
    rw [List.forall_mem_cons] at h
    exact h.1.andThen (ih h.2)

end Plan

theorem items_defineActions (names : List Name) (type : Ty) :
    (defineActions names type).filterMap Action.item? = [] := by
  simp [defineActions, Action.item?]

theorem ConstDef.plan_lists (d : ConstDef) : d.plan.Lists [.value d] := by
  intro ctx
  simp only [plan]
  split <;> rfl

theorem TypeDenoter.plan_lists (t : TypeDenoter) : t.plan.Lists t.items := by
  intro ctx
  induction t with
  | named name => rfl
  | file info component ih =>
    simp only [plan_file]
    rw [List.filterMap_append, ih]
    rfl

theorem VarDecl.plan_lists (d : VarDecl) : d.plan.Lists d.type.items := by
  intro ctx
  rw [plan, List.filterMap_append, d.type.plan_lists, items_defineActions, List.append_nil]

theorem Group.plan_lists (g : Group) : g.plan.Lists g.items := by
  intro ctx
  simp only [plan]
  rw [List.filterMap_append, items_defineActions, List.append_nil]
  rfl

namespace Routine

theorem opening_lists (r : Routine) : r.opening.Lists r.headItems := by
  have hentering : (Plan.fixed r.entering).Lists
      (r.result?.toList.map TypeName.item ++ [.routine r]) := by
    intro ctx
    unfold Plan.fixed entering
    cases r.result? <;> rfl
  exact hentering.andThen (.all fun g _ => g.plan_lists)

theorem remainder_lists {r : Routine} (hblock : r.block.plan.Lists r.block.items) :
    (r.remainder r.block.plan).Lists (r.block.items ++ [.typed r.name.id]) := by
  have hown (own : Ty) : (Plan.fixed [.make own, .define r.name own]).Lists [] := fun _ => rfl
  have hending (own : Ty) : (r.ending own).Lists [] := by
    intro ctx
    unfold ending
    split <;> rfl
  have hclosing (params : List Ty) : (r.closing params).Lists [.typed r.name.id] := fun _ => rfl
  intro ctx
  exact (hown _).andThen (hblock.andThen ((hending _).andThen (hclosing _))) ctx

theorem plan_lists {r : Routine} (hblock : r.block.plan.Lists r.block.items) :
    r.plan.Lists r.items := by
  rw [plan_eq, items_eq, List.append_assoc]
  exact r.opening_lists.andThen (remainder_lists hblock)

end Routine

theorem Block.plan_lists (b : Block) : b.plan.Lists b.items := by
  induction b using Block.nested_induction with
  | h b ih =>
    have hconsts : (Plan.all ConstDef.plan b.constDefs).Lists (b.constDefs.map .value) := by
      rw [List.map_eq_flatMap]
      exact .all fun d _ => d.plan_lists
    have hvars : (Plan.all VarDecl.plan b.varDecls).Lists (b.varDecls.flatMap (·.type.items)) :=
      .all fun d _ => d.plan_lists
    have hroutines : (Plan.all Routine.plan b.routines).Lists (b.routines.flatMap Routine.items) :=
      .all fun r hr => Routine.plan_lists (ih r hr)
    have hbody : (Plan.fixed [.body b.body.stmt]).Lists [.body b.body.stmt] := fun _ => rfl
    rw [plan_eq, items_eq, List.append_assoc, List.append_assoc]
    exact hconsts.andThen (hvars.andThen (hroutines.andThen hbody))

theorem Name.filePlan_lists (name : Name) : name.filePlan.Lists [] := by
  intro ctx
  simp only [filePlan]
  split <;> rfl

theorem Program.plan_lists (p : Program) (table : Predefined) :
    (p.plan table).Lists p.block.items := by
  have htable : (Plan.fixed table.actions).Lists [] := by
    intro ctx
    rw [Plan.fixed, Predefined.actions, List.filterMap_cons_none rfl, List.filterMap_map,
      List.filterMap_eq_nil_iff]
    exact fun _ _ => rfl
  have hnote (entry : Context → LogEntry) : Plan.Lists (fun ctx => [.note (entry ctx)]) [] :=
    fun _ => rfl
  have hheading : p.heading.plan.Lists [] := by
    have hfiles : (Plan.all Name.filePlan p.heading.params).Lists _ :=
      .all fun name _ => name.filePlan_lists
    rw [List.flatMap_eq_nil_iff.mpr fun _ _ => rfl] at hfiles
    exact (hnote fun _ => .program p.heading.name.value).andThen hfiles
  have h := htable.andThen ((hnote fun ctx => .predefined ctx.scope.inner.entries.length).andThen
    (hheading.andThen (p.block.plan_lists.andThen (hnote fun ctx => .finished ctx.errorCount))))
  rw [List.append_nil] at h
  exact h

end PascalCheck
