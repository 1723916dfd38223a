import PascalCheck.Check.Findings
import PascalCheck.Syntax.Text
import PascalCheck.Types.Equiv
import PascalCheck.Types.Text

/-!
Calls: which routine a call refers to, and whether it takes the arguments.

A routine that is not overloaded takes at least as many arguments as it has parameters; those beyond
the last parameter are compared with nothing. An overloaded one is resolved to the first alternative
that has a parameter for every argument and takes them all.
-/

namespace PascalCheck

variable [Naming]

structure Argument where
  expr : Expr
  typing : Typing

namespace Argument

def type (a : Argument) : Ty :=
  a.typing.type

/-- Only a name by itself is passed as a variable; in parentheses it is a value. -/
def mode (a : Argument) : Mode :=
  match a.expr with
  | .var _ _ => .var
  | _ => .value

def isSound (a : Argument) : Bool :=
  !a.type.isInvalidConstant && !a.type.isError

def findings (scope : Scope) (a : Argument) : Findings :=
  a.typing.findings ++ .pass a.mode a.type ++
    if a.type.isInvalidConstant then .invalidConstant scope a.expr.span a.expr.text else .none

end Argument

inductive Mismatch where
  | notVariable
  | type
  deriving DecidableEq

def Argument.mismatch? (a : Argument) (formal : Ty) : Option Mismatch :=
  match formal.parameter? with
  | none => some .type
  | some (mode, type) =>
    if mode = .var ∧ a.mode ≠ .var then some .notVariable
    else if type.equiv a.type then none
    else some .type

structure Call where
  kind : RoutineKind
  callee : Name
  args : List Argument
  place : Span

structure Resolution where
  routine? : Option Ty
  findings : Findings

namespace Call

def argumentFindings (scope : Scope) : List Argument → Findings
  | [] => .none
  | a :: as => a.findings scope ++ argumentFindings scope as

def mismatchProblem (c : Call) (position : Nat) (formal : Ty) (a : Argument) :
    Mismatch → Problem
  | .notVariable => .argumentNotVariable a.expr.text position c.kind c.callee.value
  | .type =>
    .argumentMismatch a.expr.text a.type.text position c.kind c.callee.value formal.text

def passArgument (scope : Scope) (c : Call) (position : Nat) (formal : Ty) (a : Argument) :
    Findings :=
  a.findings scope ++
    if a.isSound then
      match a.mismatch? formal with
      | none => .none
      | some mismatch => .error a.expr.span (c.mismatchProblem position formal a mismatch)
    else
      .none

def passArguments (scope : Scope) (c : Call) (position : Nat) :
    List Ty → List Argument → Findings
  | formal :: formals, a :: as =>
    c.passArgument scope position formal a ++ c.passArguments scope (position + 1) formals as
  | _, as => argumentFindings scope as

def resolveSingle (scope : Scope) (c : Call) (type : Ty) : Resolution :=
  if c.args.length < type.params.length then
    ⟨some type, .error c.place
      (.tooFewArguments c.kind c.callee.value type.params.length c.args.length)⟩
  else
    ⟨some type, c.passArguments scope 1 type.params c.args⟩

def takes (args : List Argument) (routine : Ty) : Bool :=
  routine.params.length == args.length &&
    (routine.params.zip args).all fun (formal, a) => (a.mismatch? formal).isNone

/-- If an argument has an error, none of the alternatives is blamed. -/
def resolveOverloaded (scope : Scope) (c : Call) (alternatives : List Ty) : Resolution :=
  let found := argumentFindings scope c.args
  if c.args.all (·.isSound) then
    match alternatives.find? (takes c.args) with
    | some routine => ⟨some routine, found⟩
    | none =>
      let types := c.args.map fun a => a.type.text
      ⟨none, found ++ .error c.place (.noAlternative c.kind c.callee.value types)⟩
  else
    ⟨none, found⟩

def resolve (scope : Scope) (c : Call) (type : Ty) : Resolution :=
  match type.alternatives? with
  | some alternatives => c.resolveOverloaded scope alternatives
  | none => c.resolveSingle scope type

def check (scope : Scope) (c : Call) : Resolution :=
  let callee := Name.check scope c.callee
  if callee.type.isError then
    ⟨none, callee.findings⟩
  else if callee.type.routineKind? = some c.kind then
    let resolution := c.resolve scope callee.type
    ⟨resolution.routine?, callee.findings ++ resolution.findings⟩
  else
    ⟨none, callee.findings ++ .error c.place (.notRoutine c.kind c.callee.value)⟩

end Call

end PascalCheck
