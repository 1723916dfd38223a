import PascalCheck.Check.Action

/-!
Declarations. They are checked in the order in which they stand, so a name can be used only after
its declaration.

A routine has a region of its own. It holds first the parameters, then the routine's name, then what
its block declares; the parameter list of the routine is read off the region before the name is put
there. After the block the name is declared once more, around the routine.
-/

namespace PascalCheck

variable [Naming]

def defineActions (names : List Name) (type : Ty) : List Action :=
  names.map (.define · type)

def ConstDef.plan (d : ConstDef) : Plan := fun ctx =>
  let type := (d.value.check ctx.scope).type
  .value d :: if type.isInvalidConstant then [] else [.define d.name type]

def TypeName.type (t : TypeName) : Ty :=
  .primitive t.primitive.value

def TypeName.action (t : TypeName) : Action :=
  .record t.info.id t.type

namespace TypeDenoter

def resolve : TypeDenoter → Context → Ty × List Action
  | .named name, _ => (name.type, [name.action])
  | .file info component, ctx =>
    let (componentType, actions) := component.resolve ctx
    let type := .file (ctx.run actions).nextTag componentType
    (type, actions ++ [.make type, .record info.id type])

def typeIn (t : TypeDenoter) (ctx : Context) : Ty :=
  (t.resolve ctx).1

def plan (t : TypeDenoter) : Plan := fun ctx =>
  (t.resolve ctx).2

end TypeDenoter

def VarDecl.plan (d : VarDecl) : Plan := fun ctx =>
  d.type.plan ctx ++ defineActions d.names (d.type.typeIn ctx)

def Group.typeIn (g : Group) (ctx : Context) : Ty :=
  .parameter ctx.nextTag .formal g.mode g.type.type

def Group.plan (g : Group) : Plan := fun ctx =>
  let type := g.typeIn ctx
  [g.type.action, .make type, .record g.info.id type] ++ defineActions g.names type

/-- Whether a statement directly in the body of a block gives its result to this very function. -/
def Block.givesResult (block : Block) (records : Records) (function : Ty) : Bool :=
  block.topLevelStmts.any fun s => (records.type? s.info.id).any function.same

namespace Routine

def type (r : Routine) (params : List Ty) (tag : Nat) : Ty :=
  match r.result? with
  | none => .procedure tag params
  | some result => .function tag params result.type

def lacksResult (r : Routine) (records : Records) (type : Ty) : Bool :=
  r.result?.isSome && !r.block.givesResult records type

def entering (r : Routine) : List Action :=
  r.result?.toList.map TypeName.action ++ [.note (.entering r.kind r.name.value), .enter r]

def opening (r : Routine) : Plan :=
  (Plan.fixed r.entering).andThen (.all Group.plan r.groups)

def ending (r : Routine) (own : Ty) : Plan := fun ctx =>
  (if r.lacksResult ctx.records own then [.noResult r.name] else []) ++
    [.note (.scopeOf r.name.value (ctx.scope.inner.entries.map fun e => (e.name, e.type.text)))]

def closing (r : Routine) (params : List Ty) : Plan := fun ctx =>
  let type := r.type params ctx.nextTag
  [.leave, .note (.leaving r.kind r.name.value), .make type, .record r.name.id type,
    .define r.name type]

def remainder (r : Routine) (block : Plan) : Plan := fun ctx =>
  let params := ctx.scope.inner.entries.map (·.type)
  let own := r.type params ctx.nextTag
  ((Plan.fixed [.make own, .define r.name own]).andThen
    (block.andThen ((r.ending own).andThen (r.closing params)))) ctx

end Routine

mutual

def Block.plan : Block → Plan
  | .mk _ consts vars part body =>
    (Plan.all ConstDef.plan ((consts.map (·.defs)).getD [])).andThen
      ((Plan.all VarDecl.plan ((vars.map (·.decls)).getD [])).andThen
        (part.plan.andThen (.fixed [.body body.stmt])))

def RoutinePart.plan : RoutinePart → Plan
  | .absent => .fixed []
  | .present _ routines => Routine.planAll routines

def Routine.plan : Routine → Plan
  | .procedure info name params block =>
    let r := Routine.procedure info name params block
    r.opening.andThen (r.remainder block.plan)
  | .function info name params result block =>
    let r := Routine.function info name params result block
    r.opening.andThen (r.remainder block.plan)

def Routine.planAll : List Routine → Plan
  | [] => .fixed []
  | r :: rs => r.plan.andThen (Routine.planAll rs)

end

def ConstDef.check (d : ConstDef) (ctx : Context) : Context :=
  ctx.run (d.plan ctx)

def TypeDenoter.check (t : TypeDenoter) (ctx : Context) : Ty × Context :=
  (t.typeIn ctx, ctx.run (t.plan ctx))

def VarDecl.check (d : VarDecl) (ctx : Context) : Context :=
  ctx.run (d.plan ctx)

def Group.check (g : Group) (ctx : Context) : Context :=
  ctx.run (g.plan ctx)

def Block.check (b : Block) (ctx : Context) : Context :=
  ctx.run (b.plan ctx)

def Routine.check (r : Routine) (ctx : Context) : Context :=
  ctx.run (r.plan ctx)

end PascalCheck
