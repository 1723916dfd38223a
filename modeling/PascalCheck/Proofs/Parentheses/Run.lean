import PascalCheck.Proofs.Functions.Result
import PascalCheck.Proofs.Parentheses.Stmt

/-!
Parentheses in a program. Two checks run side by side, over a program with and without parentheses
around one of its expressions. They carry out the same actions, but for the statement parts, and at
every moment all is the same in both contexts but for the words that diagnostics take from the source
and the type of the parentheses.
-/

namespace PascalCheck

variable {old new : Nat}

section Syntax

variable (old new : Nat)

def Body.enclose (b : Body) : Body :=
  { b with stmt := b.stmt.enclose old new }

mutual

def Block.enclose : Block → Block
  | .mk info consts vars routines body =>
    .mk info consts vars routines.enclose (body.enclose old new)

def RoutinePart.enclose : RoutinePart → RoutinePart
  | .absent => .absent
  | .present info routines => .present info (Routine.encloseAll routines)

def Routine.enclose : Routine → Routine
  | .procedure info name params block => .procedure info name params block.enclose
  | .function info name params result block => .function info name params result block.enclose

def Routine.encloseAll : List Routine → List Routine
  | [] => []
  | r :: rs => r.enclose :: Routine.encloseAll rs

end

def Program.enclose (p : Program) : Program :=
  { p with block := p.block.enclose old new }

def Item.enclose : Item → Item
  | .routine r => .routine (r.enclose old new)
  | .body stmt => .body (stmt.enclose old new)
  | item => item

def Action.enclose : Action → Action
  | .enter r => .enter (r.enclose old new)
  | .body stmt => .body (stmt.enclose old new)
  | a => a

end Syntax

namespace Block

theorem constDefs_enclose (b : Block) : (b.enclose old new).constDefs = b.constDefs := by
  cases b
  rw [enclose]
  rfl

theorem varDecls_enclose (b : Block) : (b.enclose old new).varDecls = b.varDecls := by
  cases b
  rw [enclose]
  rfl

theorem routines_enclose (b : Block) :
    (b.enclose old new).routines = b.routines.map (Routine.enclose old new) := by
  have hall (rs : List Routine) :
      Routine.encloseAll old new rs = rs.map (Routine.enclose old new) := by
    induction rs with
    | nil => rw [Routine.encloseAll, List.map_nil]
    | cons r rs ih => rw [Routine.encloseAll, ih, List.map_cons]
  obtain ⟨info, consts, vars, part, body⟩ := b
  rw [enclose]
  cases part with
  | absent =>
    rw [RoutinePart.enclose]
    rfl
  | present info rs =>
    rw [RoutinePart.enclose]
    exact hall rs

theorem stmt_enclose (b : Block) :
    (b.enclose old new).body.stmt = b.body.stmt.enclose old new := by
  cases b
  rw [enclose]
  rfl

end Block

namespace Routine

theorem kind_enclose (r : Routine) : (r.enclose old new).kind = r.kind := by
  cases r <;> rw [enclose] <;> rfl

theorem name_enclose (r : Routine) : (r.enclose old new).name = r.name := by
  cases r <;> rw [enclose] <;> rfl

theorem groups_enclose (r : Routine) : (r.enclose old new).groups = r.groups := by
  cases r <;> rw [enclose] <;> rfl

theorem result?_enclose (r : Routine) : (r.enclose old new).result? = r.result? := by
  cases r <;> rw [enclose] <;> rfl

theorem block_enclose (r : Routine) : (r.enclose old new).block = r.block.enclose old new := by
  cases r <;> rw [enclose] <;> rfl

theorem type_enclose (r : Routine) : (r.enclose old new).type = r.type := by
  cases r <;> rw [enclose] <;> rfl

end Routine

structure Context.Twinned (old new : Nat) (a b : Context) : Prop where
  scope : a.scope = b.scope
  nextTag : a.nextTag = b.nextTag
  diagnostics : a.diagnostics.map Diagnostic.unworded = b.diagnostics.map Diagnostic.unworded
  records : a.records.Twinned old new b.records

def Item.Allows (old new : Nat) : Item → Prop
  | .body stmt => ∀ s ∈ stmt.all, s.Allows old new
  | item => old ∉ item.declared ∧ new ∉ item.declared

namespace Context.Twinned

variable {a b : Context}

theorem add (h : a.Twinned old new b) {found found' : Findings}
    (hfound : found.Twinned old new found') : (a.add found).Twinned old new (b.add found') := by
  refine ⟨h.scope, ?_, ?_, hfound.records.append h.records⟩
  . simp only [Context.add, h.nextTag, hfound.actuals]
  . simp only [Context.add, List.map_append, h.diagnostics, hfound.diagnostics]

theorem define (h : a.Twinned old new b) (name : Name) (type : Ty) :
    (a.define name type).Twinned old new (b.define name type) := by
  unfold Context.define
  rw [h.scope]
  split
  . exact ⟨rfl, h.nextTag, h.diagnostics, h.records⟩
  . apply h.add
    exact ⟨rfl, fun _ => rfl, rfl⟩

theorem apply (h : a.Twinned old new b) (action : Action)
    (hallows : ∀ item, action.item? = some item → item.Allows old new) :
    ((action.enclose old new).apply a).Twinned old new (action.apply b) := by
  cases action with
  | note entry => exact ⟨h.scope, h.nextTag, h.diagnostics, h.records⟩
  | predefine a =>
    refine ⟨?_, h.nextTag, h.diagnostics, h.records⟩
    simp only [Action.enclose, Action.apply, Context.predefine, h.scope]
  | find name =>
    simp only [Action.enclose, Action.apply, h.scope]
    exact h.add (.refl (by simp) (by simp))
  | value d =>
    obtain ⟨hold, hnew⟩ := hallows _ rfl
    simp only [Action.enclose, Action.apply, h.scope]
    refine h.add (.refl ?_ ?_)
    . rw [Const.ids_check]
      exact hold
    . rw [Const.ids_check]
      exact hnew
  | make type =>
    refine ⟨h.scope, ?_, h.diagnostics, h.records⟩
    simp only [Action.enclose, Action.apply, h.nextTag]
  | record id type =>
    obtain ⟨hold, hnew⟩ := hallows _ rfl
    exact h.add (.refl hold hnew)
  | define name type => exact h.define name type
  | enter r =>
    refine ⟨?_, h.nextTag, h.diagnostics, h.records⟩
    simp only [Action.enclose, Action.apply, Context.push, h.scope]
  | body stmt =>
    simp only [Action.enclose, Action.apply, h.scope]
    exact h.add (stmt.check_enclose b.scope (hallows _ rfl))
  | noResult function => exact h.add (.error function.span rfl)
  | leave =>
    refine ⟨?_, h.nextTag, h.diagnostics, h.records⟩
    simp only [Action.enclose, Action.apply, Context.pop, h.scope]

theorem run (h : a.Twinned old new b) (actions : List Action)
    (hallows : ∀ item ∈ actions.filterMap Action.item?, item.Allows old new) :
    (a.run (actions.map (Action.enclose old new))).Twinned old new (b.run actions) := by
  induction actions generalizing a b with
  | nil => exact h
  | cons action actions ih =>
    rw [List.map_cons, run_cons, run_cons]
    apply ih
    . apply h.apply
      intro item hitem
      exact hallows item (List.mem_filterMap.mpr ⟨action, List.mem_cons_self, hitem⟩)
    . intro item hitem
      obtain ⟨later, hlater, hitem⟩ := List.mem_filterMap.mp hitem
      exact hallows item (List.mem_filterMap.mpr ⟨later, List.mem_cons_of_mem _ hlater, hitem⟩)

theorem errorCount (h : a.Twinned old new b) : a.errorCount = b.errorCount := by
  have hcount (ds : List Diagnostic) :
      Diagnostic.errorCount (ds.map Diagnostic.unworded) = Diagnostic.errorCount ds := by
    rw [Diagnostic.errorCount, Diagnostic.errorCount, List.countP_map]
    congr 1
    funext d
    cases d <;> rfl
  rw [Context.errorCount, ← hcount, h.diagnostics, hcount, Context.errorCount]

end Context.Twinned

namespace Plan

def Mirrors (old new : Nat) (plan' plan : Plan) : Prop :=
  ∀ a b : Context, a.Twinned old new b →
    plan' a = (plan b).map (Action.enclose old new) ∧
      (a.run (plan' a)).Twinned old new (b.run (plan b))

namespace Mirrors

theorem of_lists {plan' plan : Plan} {items : List Item} (hlists : plan.Lists items)
    (hallows : ∀ item ∈ items, item.Allows old new)
    (h : ∀ a b : Context, a.Twinned old new b →
      plan' a = (plan b).map (Action.enclose old new)) : Mirrors old new plan' plan := by
  intro a b hab
  refine ⟨h a b hab, ?_⟩
  rw [h a b hab]
  apply hab.run
  rw [hlists b]
  exact hallows

theorem andThen {first first' next next' : Plan} (hfirst : Mirrors old new first' first)
    (hnext : Mirrors old new next' next) :
    Mirrors old new (first'.andThen next') (first.andThen next) := by
  intro a b hab
  obtain ⟨hactions, htwinned⟩ := hfirst a b hab
  obtain ⟨hactions', htwinned'⟩ := hnext _ _ htwinned
  refine ⟨?_, ?_⟩
  . rw [Plan.andThen, Plan.andThen, List.map_append, ← hactions, ← hactions']
  . rw [run_andThen, run_andThen]
    exact htwinned'

theorem all {α : Type} {plan' plan : α → Plan} {xs : List α}
    (h : ∀ x ∈ xs, Mirrors old new (plan' x) (plan x)) :
    Mirrors old new (Plan.all plan' xs) (Plan.all plan xs) := by
  induction xs with
  | nil => exact fun _ _ hab => ⟨rfl, hab⟩
  | cons x xs ih =>
    rw [List.forall_mem_cons] at h
    exact h.1.andThen (ih h.2)

end Mirrors

theorem all_map {α β : Type} (plan : β → Plan) (f : α → β) (xs : List α) :
    all plan (xs.map f) = all (fun x => plan (f x)) xs := by
  induction xs with
  | nil => rfl
  | cons x xs ih => rw [List.map_cons, all, ih, all]

end Plan

theorem enclose_defineActions (names : List Name) (type : Ty) :
    (defineActions names type).map (Action.enclose old new) = defineActions names type := by
  rw [defineActions, List.map_map]
  rfl

theorem ConstDef.plan_mirrors {d : ConstDef} (h : (Item.value d).Allows old new) :
    Plan.Mirrors old new d.plan d.plan := by
  apply Plan.Mirrors.of_lists d.plan_lists (List.forall_mem_singleton.mpr h)
  intro a b hab
  simp only [plan, hab.scope]
  split <;> rfl

theorem TypeDenoter.check_of_nextTag (t : TypeDenoter) {a b : Context}
    (h : a.nextTag = b.nextTag) :
    (t.check a).1 = (t.check b).1 ∧ (t.check a).2.nextTag = (t.check b).2.nextTag := by
  induction t with
  | named name => exact ⟨rfl, h⟩
  | file info component ih =>
    simp only [check_file, Context.make, Context.add, ih.1, ih.2, and_self]

theorem TypeDenoter.plan_enclose (t : TypeDenoter) {a b : Context} (h : a.nextTag = b.nextTag) :
    t.plan a = (t.plan b).map (Action.enclose old new) := by
  induction t with
  | named name => rfl
  | file info component ih =>
    have htype : (file info component).typeIn a = (file info component).typeIn b :=
      ((file info component).check_of_nextTag h).1
    simp only [plan_file, htype, ih, List.map_append]
    rfl

theorem VarDecl.plan_mirrors {d : VarDecl} (h : ∀ item ∈ d.type.items, item.Allows old new) :
    Plan.Mirrors old new d.plan d.plan := by
  apply Plan.Mirrors.of_lists d.plan_lists h
  intro a b hab
  have htype : d.type.typeIn a = d.type.typeIn b := (d.type.check_of_nextTag hab.nextTag).1
  rw [plan, plan, List.map_append, ← d.type.plan_enclose hab.nextTag, enclose_defineActions, htype]

theorem Group.plan_mirrors {g : Group} (h : ∀ item ∈ g.items, item.Allows old new) :
    Plan.Mirrors old new g.plan g.plan := by
  apply Plan.Mirrors.of_lists g.plan_lists h
  intro a b hab
  simp only [plan, typeIn, hab.nextTag, List.map_append, enclose_defineActions]
  rfl

theorem Block.givesResult_enclose (block : Block) {a b : Context} (hab : a.Twinned old new b)
    (h : ∀ s ∈ block.topLevelStmts, s.info.id ≠ new) (type : Ty) :
    (block.enclose old new).givesResult a.records type = block.givesResult b.records type := by
  have htop : (block.enclose old new).topLevelStmts =
      block.topLevelStmts.map (Stmt.enclose old new) := by
    unfold topLevelStmts
    rw [stmt_enclose]
    cases block.body.stmt with
    | compound info stmts =>
      rw [Stmt.enclose]
      exact Stmt.encloseAll_eq_map old new stmts
    | _ =>
      rw [Stmt.enclose]
      rfl
  have hmap : (block.topLevelStmts.map fun s => (a.records.type? s.info.id).any type.same) =
      block.topLevelStmts.map fun s => (b.records.type? s.info.id).any type.same := by
    apply List.map_congr_left
    intro s hs
    rw [hab.records s.info.id, if_neg (h s hs)]
  have hany := congrArg (List.any · id) hmap
  simp only [List.any_map, Function.comp_def, id_eq] at hany
  unfold givesResult
  rw [htop, List.any_map, ← hany]
  simp only [Function.comp_def, Stmt.info_enclose]

namespace Routine

variable {r : Routine}

theorem opening_mirrors (h : ∀ item ∈ r.headItems, item.Allows old new) :
    Plan.Mirrors old new (r.enclose old new).opening r.opening := by
  rw [headItems, List.forall_mem_append] at h
  have hlists : (Plan.fixed r.entering).Lists
      (r.result?.toList.map TypeName.item ++ [.routine r]) := by
    intro ctx
    unfold Plan.fixed entering
    cases r.result? <;> rfl
  have hentering : Plan.Mirrors old new (.fixed (r.enclose old new).entering)
      (.fixed r.entering) := by
    apply Plan.Mirrors.of_lists hlists h.1
    intro a b _
    simp only [Plan.fixed, entering, result?_enclose, kind_enclose, name_enclose]
    cases r.result? <;> rfl
  rw [opening, groups_enclose]
  refine hentering.andThen (.all ?_)
  intro g hg
  apply g.plan_mirrors
  intro item hitem
  exact h.2 item (List.mem_flatMap.mpr ⟨g, hg, hitem⟩)

theorem ending_mirrors (h : ∀ s ∈ r.block.topLevelStmts, s.info.id ≠ new) (own : Ty) :
    Plan.Mirrors old new ((r.enclose old new).ending own) (r.ending own) := by
  have hlists : (r.ending own).Lists [] := by
    intro ctx
    unfold ending
    split <;> rfl
  apply Plan.Mirrors.of_lists hlists (fun _ h => absurd h List.not_mem_nil)
  intro a b hab
  have hlacks : (r.enclose old new).lacksResult a.records own = r.lacksResult b.records own := by
    rw [lacksResult, result?_enclose, block_enclose, r.block.givesResult_enclose hab h, lacksResult]
  unfold ending
  rw [hlacks, name_enclose, hab.scope]
  cases r.lacksResult b.records own <;> rfl

theorem closing_mirrors (h : (Item.typed r.name.id).Allows old new) (params : List Ty) :
    Plan.Mirrors old new ((r.enclose old new).closing params) (r.closing params) := by
  have hlists : (r.closing params).Lists [.typed r.name.id] := fun _ => rfl
  apply Plan.Mirrors.of_lists hlists (List.forall_mem_singleton.mpr h)
  intro a b hab
  simp only [closing, type_enclose, name_enclose, kind_enclose, hab.nextTag]
  rfl

theorem plan_mirrors (hitems : ∀ item ∈ r.items, item.Allows old new)
    (hblock : Plan.Mirrors old new (r.block.enclose old new).plan r.block.plan)
    (htop : ∀ s ∈ r.block.topLevelStmts, s.info.id ≠ new) :
    Plan.Mirrors old new (r.enclose old new).plan r.plan := by
  rw [items_eq, List.forall_mem_append, List.forall_mem_append] at hitems
  obtain ⟨⟨hhead, -⟩, hname⟩ := hitems
  have hown (own : Ty) : Plan.Mirrors old new (.fixed [.make own, .define r.name own])
      (.fixed [.make own, .define r.name own]) := by
    have hlists : (Plan.fixed [.make own, .define r.name own]).Lists [] := fun _ => rfl
    exact .of_lists hlists (fun _ h => absurd h List.not_mem_nil) fun _ _ _ => rfl
  have hclosing := closing_mirrors (List.forall_mem_singleton.mp hname)
  rw [plan_eq, plan_eq, block_enclose]
  refine (opening_mirrors hhead).andThen ?_
  intro a b hab
  simp only [remainder, hab.scope, hab.nextTag, type_enclose, name_enclose]
  exact ((hown _).andThen (hblock.andThen ((ending_mirrors htop _).andThen (hclosing _)))) a b hab

end Routine

theorem Block.plan_mirrors (b : Block) (h : ∀ item ∈ b.items, item.Allows old new) :
    Plan.Mirrors old new (b.enclose old new).plan b.plan := by
  induction b using Block.nested_induction with
  | h b ih =>
    rw [items_eq, List.forall_mem_append, List.forall_mem_append, List.forall_mem_append] at h
    obtain ⟨⟨⟨hconsts, hvars⟩, hroutines⟩, hbody⟩ := h
    have hmirrored : ∀ r ∈ b.routines,
        Plan.Mirrors old new (r.enclose old new).plan r.plan := by
      intro r hr
      have hr' (item : Item) (hitem : item ∈ r.items) : item.Allows old new :=
        hroutines item (List.mem_flatMap.mpr ⟨r, hr, hitem⟩)
      have hinner (item : Item) (hitem : item ∈ r.block.items) : item.Allows old new := by
        apply hr'
        rw [Routine.items_eq]
        exact List.mem_append_left _ (List.mem_append_right _ hitem)
      have hstmt : (Item.body r.block.body.stmt).Allows old new := by
        apply hinner
        rw [items_eq]
        exact List.mem_append_right _ List.mem_cons_self
      refine Routine.plan_mirrors hr' (ih r hr hinner) ?_
      intro s hs
      exact (hstmt s (r.block.topLevel_subset hs)).info.2
    have hlists : (Plan.fixed [.body b.body.stmt]).Lists [.body b.body.stmt] := fun _ => rfl
    rw [plan_eq, plan_eq, constDefs_enclose, varDecls_enclose, routines_enclose, stmt_enclose,
      Plan.all_map]
    refine Plan.Mirrors.andThen (.all ?_) (.andThen (.all ?_) (.andThen (.all hmirrored) ?_))
    . intro d hd
      exact ConstDef.plan_mirrors (hconsts _ (List.mem_map_of_mem hd))
    . intro d hd
      exact VarDecl.plan_mirrors fun item hitem => hvars item (List.mem_flatMap.mpr ⟨d, hd, hitem⟩)
    . exact .of_lists hlists hbody fun _ _ _ => rfl

namespace Program

theorem plan_mirrors (p : Program) (table : Predefined)
    (h : ∀ item ∈ p.block.items, item.Allows old new) :
    Plan.Mirrors old new ((p.enclose old new).plan table) (p.plan table) := by
  -- Nothing that is done before and after the block has to do with a node of the program.
  have hsame {plan : Plan} (hlists : plan.Lists [])
      (hplan : ∀ a b : Context, a.Twinned old new b →
        plan a = (plan b).map (Action.enclose old new)) : Plan.Mirrors old new plan plan :=
    .of_lists hlists (fun _ h => absurd h List.not_mem_nil) hplan
  have htable : Plan.Mirrors old new (.fixed table.actions) (.fixed table.actions) := by
    apply hsame
    . intro ctx
      rw [Plan.fixed, Predefined.actions, List.filterMap_cons_none rfl, List.filterMap_map,
        List.filterMap_eq_nil_iff]
      exact fun _ _ => rfl
    . intro a b _
      rw [Plan.fixed, Plan.fixed, Predefined.actions, List.map_cons, List.map_map]
      rfl
  have hfiles : Plan.Mirrors old new (.all Name.filePlan p.heading.params)
      (.all Name.filePlan p.heading.params) := by
    refine .all fun name _ => hsame name.filePlan_lists ?_
    intro a b hab
    simp only [Name.filePlan, hab.nextTag]
    split <;> rfl
  have hheading : Plan.Mirrors old new p.heading.plan p.heading.plan :=
    Plan.Mirrors.andThen (hsame (fun _ => rfl) fun _ _ _ => rfl) hfiles
  refine htable.andThen (.andThen (hsame (fun _ => rfl) ?_) (hheading.andThen
    ((p.block.plan_mirrors h).andThen (hsame (fun _ => rfl) ?_))))
  . intro a b hab
    rw [hab.scope]
    rfl
  . intro a b hab
    rw [hab.errorCount]
    rfl

theorem check_enclose (p : Program) (table : Predefined) (ctx : Context)
    (h : ∀ item ∈ p.block.items, item.Allows old new) (hold : old ∉ ctx.ids) (hnew : new ∉ ctx.ids) :
    ((p.enclose old new).check table ctx).Twinned old new (p.check table ctx) := by
  have hctx : ctx.Twinned old new ctx := ⟨rfl, rfl, rfl, .refl hold hnew⟩
  have hrun := (p.plan_mirrors table h ctx ctx hctx).2
  rw [(p.enclose old new).plan_does table ctx, p.plan_does table ctx] at hrun
  exact hrun

end Program

end PascalCheck
