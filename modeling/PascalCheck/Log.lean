import PascalCheck.Diagnostic.Problem

/-!
The log of a check: what it did, in order.
-/

namespace PascalCheck

inductive LogLevel where
  | debug
  | trace
  deriving DecidableEq

inductive LogEntry where
  | predefined (count : Nat)
  | program (name : String)
  | entering (kind : RoutineKind) (name : String)
  | leaving (kind : RoutineKind) (name : String)
  | defined (name type : String) (depth : Nat)
  | scopeOf (routine : String) (entries : List (String × String))
  | finished (errors : Nat)
  deriving DecidableEq

namespace LogEntry

def level : LogEntry → LogLevel
  | .defined _ _ _ | .scopeOf _ _ => .trace
  | _ => .debug

def message : LogEntry → String
  | .predefined count => s!"predefined {count} symbols"
  | .program name => s!"checking program '{name}'"
  | .entering kind name => s!"entering {kind.text} '{name}'"
  | .leaving kind name => s!"leaving {kind.text} '{name}'"
  | .defined name type depth => s!"defined '{name}' as {type} at depth {depth}"
  | .scopeOf routine entries =>
    let bindings := entries.map fun (name, type) => s!"{name}: {type}"
    s!"scope of '{routine}' = " ++ "[" ++ ", ".intercalate bindings ++ "]"
  | .finished errors => "semantic check finished with " ++ counted errors "error"

def text (e : LogEntry) : String :=
  match e.level with
  | .debug => "DEBUG " ++ e.message
  | .trace => "TRACE " ++ e.message

def atLevel (level : LogLevel) (log : List LogEntry) : List LogEntry :=
  match level with
  | .trace => log
  | .debug => log.filter (·.level == .debug)

end LogEntry

end PascalCheck
