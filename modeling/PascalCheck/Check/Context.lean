import PascalCheck.Check.Findings
import PascalCheck.Log
import PascalCheck.Types.Text

/-!
What a check works on and leaves behind: the scope, the diagnostics, the recorded types, the log,
and the next tag for a type. Only declarations change the scope.
-/

namespace PascalCheck

variable [Naming]

structure Context where
  scope : Scope
  nextTag : Nat
  diagnostics : List Diagnostic
  records : Records
  log : List LogEntry

namespace Context

def empty : Context :=
  ⟨.empty, 0, [], [], []⟩

def errorCount (ctx : Context) : Nat :=
  Diagnostic.errorCount ctx.diagnostics

def add (ctx : Context) (found : Findings) : Context :=
  { ctx with
    nextTag := ctx.nextTag + found.actuals.length
    diagnostics := ctx.diagnostics ++ found.diagnostics
    records := found.records ++ ctx.records }

def note (ctx : Context) (entry : LogEntry) : Context :=
  { ctx with log := ctx.log ++ [entry] }

def push (ctx : Context) : Context :=
  { ctx with scope := ctx.scope.push }

def pop (ctx : Context) : Context :=
  { ctx with scope := ctx.scope.pop?.getD ctx.scope }

def redeclaration (name : Name) (previous : Option Span) : Diagnostic :=
  let details := previous.toList.map fun place => .plain .info place .previousDeclaration
  .detailed .error name.span (.problem (.redeclared name.value)) previous.toList details

def define (ctx : Context) (name : Name) (type : Ty) : Context :=
  match ctx.scope.define? name.value type (some name.span) with
  | some scope =>
    { ctx with scope }.note (.defined name.value type.text scope.depth)
  | none =>
    let previous := (ctx.scope.getInner? name.value).bind (·.place)
    ctx.add (.reports [redeclaration name previous])

def predefine (ctx : Context) (a : Attempt) : Context :=
  { ctx with scope := (ctx.scope.define? a.name a.type a.place).getD ctx.scope }

end Context

end PascalCheck
