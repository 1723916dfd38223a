import PascalCheck.Check.Context
import PascalCheck.Check.Stmt

/-!
What a check does, one thing after another. A plan says which actions a check consists of when it
starts in a given context; to check is to carry them out.
-/

namespace PascalCheck

variable [Naming]

inductive Action where
  | note (entry : LogEntry)
  | predefine (attempt : Attempt)
  | find (name : Name)
  | value (definition : ConstDef)
  | make (type : Ty)
  | record (id : Nat) (type : Ty)
  | define (name : Name) (type : Ty)
  | enter (routine : Routine)
  | body (stmt : Stmt)
  | noResult (function : Name)
  | leave

def Action.apply (ctx : Context) : Action → Context
  | .note entry => ctx.note entry
  | .predefine a => ctx.predefine a
  | .find name => ctx.add (Name.check ctx.scope name).findings
  | .value d => ctx.add (d.value.check ctx.scope).findings
  | .make _ => { ctx with nextTag := ctx.nextTag + 1 }
  | .record id type => ctx.add (.record id type)
  | .define name type => ctx.define name type
  | .enter _ => ctx.push
  | .body stmt => ctx.add (stmt.check ctx.scope)
  | .noResult function => ctx.add (.error function.span (.noResult function.value))
  | .leave => ctx.pop

def Context.run (ctx : Context) (actions : List Action) : Context :=
  actions.foldl Action.apply ctx

/-- The actions to be carried out, given the context that they start in. -/
abbrev Plan := Context → List Action

namespace Plan

def fixed (actions : List Action) : Plan :=
  fun _ => actions

def andThen (first next : Plan) : Plan :=
  fun ctx => first ctx ++ next (ctx.run (first ctx))

def all {α : Type} (plan : α → Plan) : List α → Plan
  | [] => fixed []
  | x :: xs => (plan x).andThen (all plan xs)

end Plan

end PascalCheck
