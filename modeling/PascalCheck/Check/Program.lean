import PascalCheck.Check.Declaration
import PascalCheck.Required
import PascalCheck.Types.Fresh

/-!
Programs. Before a program is checked, `maxint` and the predefined names are bound in the region
that it is checked in; afterwards that region holds all its declarations.
-/

namespace PascalCheck

variable [Naming]

def Predefined.fresh (table : Predefined) : Ty.Making Predefined :=
  table.mapM fun a => do return { a with type := ← a.type.fresh }

abbrev Name.IsFile (name : Name) : Prop :=
  canonicalName name.value = "input" ∨ canonicalName name.value = "output"

def Name.filePlan (name : Name) : Plan := fun ctx =>
  let type := Ty.file ctx.nextTag .char
  if name.IsFile then [.make type, .define name type] else [.find name]

def Heading.plan (h : Heading) : Plan :=
  (Plan.fixed [.note (.program h.name.value)]).andThen (.all Name.filePlan h.params)

def Predefined.actions (table : Predefined) : List Action :=
  .predefine Required.maxint :: table.map .predefine

def Program.plan (p : Program) (table : Predefined) : Plan :=
  (Plan.fixed table.actions).andThen
    (Plan.andThen (fun ctx => [.note (.predefined ctx.scope.inner.entries.length)])
      (p.heading.plan.andThen
        (p.block.plan.andThen fun ctx => [.note (.finished ctx.errorCount)])))

def Heading.check (h : Heading) (ctx : Context) : Context :=
  ctx.run (h.plan ctx)

def Program.check (p : Program) (table : Predefined) (ctx : Context) : Context :=
  ctx.run (p.plan table ctx)

def Program.checkWith (p : Program) (table : Predefined) (ctx : Context) :
    Except Fault Context := do
  let (table, nextTag) ← table.fresh.run ctx.nextTag
  return p.check table { ctx with nextTag }

end PascalCheck
