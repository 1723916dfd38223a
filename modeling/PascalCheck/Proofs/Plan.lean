import PascalCheck.Check.Program
import PascalCheck.Proofs.Induction

/-!
What the check of each declaration comes to, in terms of the checks of its parts: carrying out the
plan of the whole carries out the plans of the parts, one after another.
-/

namespace PascalCheck

variable [Naming]

namespace Context

@[simp]
theorem run_nil (ctx : Context) : ctx.run [] = ctx := rfl

@[simp]
theorem run_cons (ctx : Context) (a : Action) (as : List Action) :
    ctx.run (a :: as) = (a.apply ctx).run as := rfl

@[simp]
theorem run_append (ctx : Context) (as bs : List Action) :
    ctx.run (as ++ bs) = (ctx.run as).run bs :=
  List.foldl_append

def make (ctx : Context) (type : Nat → Ty) : Ty × Context :=
  (type ctx.nextTag, { ctx with nextTag := ctx.nextTag + 1 })

def defineAll (ctx : Context) (names : List Name) (type : Ty) : Context :=
  names.foldl (·.define · type) ctx

def noteScope (ctx : Context) (routine : String) : Context :=
  ctx.note (.scopeOf routine (ctx.scope.inner.entries.map fun e => (e.name, e.type.text)))

def leave (ctx : Context) (kind : RoutineKind) (name : Name) (type : Nat → Ty) : Context :=
  let ctx := (ctx.noteScope name.value).pop.note (.leaving kind name.value)
  let (type, ctx) := ctx.make type
  (ctx.add (.record name.id type)).define name type

theorem run_defineActions (ctx : Context) (names : List Name) (type : Ty) :
    ctx.run (defineActions names type) = ctx.defineAll names type := by
  unfold run defineActions defineAll
  rw [List.foldl_map]
  rfl

def predefineAll (ctx : Context) (table : Predefined) : Context :=
  let ctx := ctx.predefine Required.maxint
  let ctx := table.foldl Context.predefine ctx
  ctx.note (.predefined ctx.scope.inner.entries.length)

def checkFile (ctx : Context) (name : Name) : Context :=
  if name.IsFile then
    let (type, ctx) := ctx.make (.file · .char)
    ctx.define name type
  else
    ctx.add (Name.check ctx.scope name).findings

end Context

namespace Plan

def Does (plan : Plan) (f : Context → Context) : Prop :=
  ∀ ctx : Context, ctx.run (plan ctx) = f ctx

theorem run_andThen (a b : Plan) (ctx : Context) :
    ctx.run (a.andThen b ctx) = (ctx.run (a ctx)).run (b (ctx.run (a ctx))) := by
  simp [andThen]

theorem Does.andThen {a b : Plan} {f g : Context → Context} (ha : a.Does f) (hb : b.Does g) :
    (a.andThen b).Does fun ctx => g (f ctx) := by
  intro ctx
  rw [run_andThen, ha ctx, hb (f ctx)]

theorem Does.all {α : Type} {plan : α → Plan} {f : Context → α → Context} {xs : List α}
    (h : ∀ x ∈ xs, (plan x).Does (f · x)) : (all plan xs).Does (xs.foldl f ·) := by
  induction xs with
  | nil =>
    intro ctx
    rfl
  | cons x xs ih =>
    rw [List.forall_mem_cons] at h
    exact h.1.andThen (ih h.2)

end Plan

theorem ConstDef.plan_does (d : ConstDef) : d.plan.Does d.check := fun _ => rfl

theorem ConstDef.check_eq (d : ConstDef) (ctx : Context) :
    d.check ctx =
      let t := d.value.check ctx.scope
      let ctx := ctx.add t.findings
      if t.type.isInvalidConstant then ctx else ctx.define d.name t.type := by
  simp only [check, plan]
  split <;> rfl

def TypeName.check (t : TypeName) (ctx : Context) : Context :=
  ctx.add (.record t.info.id t.type)

namespace TypeDenoter

theorem plan_does (t : TypeDenoter) : t.plan.Does fun ctx => (t.check ctx).2 := fun _ => rfl

theorem plan_named (name : TypeName) (ctx : Context) :
    (named name).plan ctx = [name.action] := rfl

theorem plan_file (info : Info) (component : TypeDenoter) (ctx : Context) :
    (file info component).plan ctx =
      let type := (file info component).typeIn ctx
      component.plan ctx ++ [.make type, .record info.id type] := rfl

theorem check_file (info : Info) (component : TypeDenoter) (ctx : Context) :
    (file info component).check ctx =
      let (componentType, ctx) := component.check ctx
      let (type, ctx) := ctx.make (.file · componentType)
      (type, ctx.add (.record info.id type)) := by
  rw [check, plan_file, Context.run_append]
  rfl

end TypeDenoter

theorem VarDecl.plan_does (d : VarDecl) : d.plan.Does d.check := fun _ => rfl

theorem VarDecl.check_eq (d : VarDecl) (ctx : Context) :
    d.check ctx =
      let (type, ctx) := d.type.check ctx
      ctx.defineAll d.names type := by
  rw [check, plan, Context.run_append, Context.run_defineActions]
  rfl

theorem Group.plan_does (g : Group) : g.plan.Does g.check := fun _ => rfl

theorem Group.check_eq (g : Group) (ctx : Context) :
    g.check ctx =
      let ctx := g.type.check ctx
      let (type, ctx) := ctx.make (.parameter · .formal g.mode g.type.type)
      let ctx := ctx.add (.record g.info.id type)
      ctx.defineAll g.names type := by
  rw [check, plan, Context.run_append, Context.run_defineActions]
  rfl

theorem Block.plan_does (b : Block) : b.plan.Does b.check := fun _ => rfl

theorem Routine.plan_does (r : Routine) : r.plan.Does r.check := fun _ => rfl

namespace Block

theorem plan_eq (b : Block) :
    b.plan = (Plan.all ConstDef.plan b.constDefs).andThen
      ((Plan.all VarDecl.plan b.varDecls).andThen
        ((Plan.all Routine.plan b.routines).andThen (.fixed [.body b.body.stmt]))) := by
  have hall (rs : List Routine) : Routine.planAll rs = Plan.all Routine.plan rs := by
    induction rs with
    | nil => rw [Routine.planAll, Plan.all]
    | cons r rs ih => rw [Routine.planAll, Plan.all, ih]
  have hpart (part : RoutinePart) : part.plan = Plan.all Routine.plan part.routines := by
    cases part with
    | absent => rw [RoutinePart.plan, RoutinePart.routines, Plan.all]
    | present info rs => rw [RoutinePart.plan, RoutinePart.routines, hall]
  cases b with
  | mk info consts vars part body =>
    rw [Block.plan, hpart]
    rfl

theorem check_eq (b : Block) (ctx : Context) :
    b.check ctx =
      let ctx := b.constDefs.foldl (fun ctx d => d.check ctx) ctx
      let ctx := b.varDecls.foldl (fun ctx d => d.check ctx) ctx
      let ctx := b.routines.foldl (fun ctx r => r.check ctx) ctx
      ctx.add (b.body.stmt.check ctx.scope) := by
  have hconsts : (Plan.all ConstDef.plan b.constDefs).Does _ :=
    .all (f := fun ctx d => d.check ctx) fun d _ => d.plan_does
  have hvars : (Plan.all VarDecl.plan b.varDecls).Does _ :=
    .all (f := fun ctx d => d.check ctx) fun d _ => d.plan_does
  have hroutines : (Plan.all Routine.plan b.routines).Does _ :=
    .all (f := fun ctx r => r.check ctx) fun r _ => r.plan_does
  rw [check, plan_eq]
  exact hconsts.andThen (hvars.andThen (hroutines.andThen fun _ => rfl)) ctx

def upTo (b : Block) (rs : List Routine) (ctx : Context) : Context :=
  rs.foldl (fun ctx r => r.check ctx)
    (b.varDecls.foldl (fun ctx d => d.check ctx) (b.constDefs.foldl (fun ctx d => d.check ctx) ctx))

/-- The context in which the statement part of a block is checked. -/
def declare (b : Block) (ctx : Context) : Context :=
  b.upTo b.routines ctx

theorem check_eq_declare (b : Block) (ctx : Context) :
    b.check ctx = (b.declare ctx).add (b.body.stmt.check (b.declare ctx).scope) :=
  b.check_eq ctx

theorem upTo_append (b : Block) (rs rs' : List Routine) (ctx : Context) :
    b.upTo (rs ++ rs') ctx = rs'.foldl (fun ctx r => r.check ctx) (b.upTo rs ctx) :=
  List.foldl_append

theorem nested_induction {motive : Block → Prop}
    (h : ∀ b, (∀ r ∈ b.routines, motive r.block) → motive b) (b : Block) : motive b := by
  refine @Block.induction motive (fun r => motive r.block) ?_ ?_ ?_ b
  . intro info consts vars part body ih
    exact h _ ih
  . intro info name params b ih
    exact ih
  . intro info name params result b ih
    exact ih

end Block

namespace Routine

theorem plan_eq (r : Routine) : r.plan = r.opening.andThen (r.remainder r.block.plan) := by
  cases r <;> rw [Routine.plan] <;> rfl

section Inside

variable (r : Routine) (ctx : Context)

def entered : Context :=
  let ctx := r.result?.elim ctx fun result => result.check ctx
  r.groups.foldl (fun ctx g => g.check ctx) (ctx.note (.entering r.kind r.name.value)).push

def params : List Ty :=
  (r.entered ctx).scope.inner.entries.map (·.type)

def own : Ty :=
  r.type (r.params ctx) (r.entered ctx).nextTag

/-- The context in which the block of a routine is checked. -/
def inside : Context :=
  ((r.entered ctx).make (r.type (r.params ctx))).2.define r.name (r.own ctx)

def outer : Ty :=
  r.type (r.params ctx) (r.block.check (r.inside ctx)).nextTag

end Inside

theorem opening_does (r : Routine) : r.opening.Does r.entered := by
  have hgroups : (Plan.all Group.plan r.groups).Does _ :=
    Plan.Does.all (f := fun ctx g => g.check ctx) fun g _ => g.plan_does
  intro ctx
  rw [opening, Plan.run_andThen, hgroups]
  cases r <;> rfl

theorem ending_closing_does (r : Routine) (params : List Ty) (own : Ty) :
    ((r.ending own).andThen (r.closing params)).Does fun ctx =>
      let ctx := if r.lacksResult ctx.records own then
          ctx.add (.error r.name.span (.noResult r.name.value))
        else ctx
      ctx.leave r.kind r.name (r.type params) := by
  intro ctx
  simp only [Plan.run_andThen, ending]
  split <;> rfl

theorem check_eq_inside (r : Routine) (ctx : Context) :
    r.check ctx =
      let done := r.block.check (r.inside ctx)
      let done := if r.lacksResult done.records (r.own ctx) then
          done.add (.error r.name.span (.noResult r.name.value))
        else done
      done.leave r.kind r.name (r.type (r.params ctx)) := by
  rw [check, plan_eq, Plan.run_andThen, opening_does]
  simp only [remainder]
  rw [Plan.run_andThen, Plan.run_andThen, ending_closing_does]
  rfl

end Routine

theorem Name.filePlan_does (name : Name) : name.filePlan.Does (·.checkFile name) := by
  intro ctx
  simp only [filePlan, Context.checkFile]
  split <;> rfl

theorem Heading.plan_does (h : Heading) : h.plan.Does h.check := fun _ => rfl

theorem Heading.check_eq (h : Heading) (ctx : Context) :
    h.check ctx = h.params.foldl Context.checkFile (ctx.note (.program h.name.value)) := by
  have hfiles : (Plan.all Name.filePlan h.params).Does _ :=
    .all (f := Context.checkFile) fun name _ => name.filePlan_does
  rw [check, plan, Plan.run_andThen, hfiles]
  rfl

theorem Predefined.run_actions (table : Predefined) (ctx : Context) :
    ctx.run table.actions =
      table.foldl Context.predefine (ctx.predefine Required.maxint) := by
  rw [actions, Context.run_cons, Context.run, List.foldl_map]
  rfl

def Program.starting (p : Program) (table : Predefined) (ctx : Context) : Context :=
  p.heading.check (ctx.predefineAll table)

namespace Program

theorem plan_does (p : Program) (table : Predefined) : (p.plan table).Does (p.check table) :=
  fun _ => rfl

theorem check_eq (p : Program) (table : Predefined) (ctx : Context) :
    p.check table ctx =
      let ctx := p.block.check (p.starting table ctx)
      ctx.note (.finished ctx.errorCount) := by
  rw [check, plan, Plan.run_andThen, Plan.run_andThen, Plan.run_andThen, Plan.run_andThen,
    Plan.fixed, table.run_actions]
  rfl

end Program

end PascalCheck
