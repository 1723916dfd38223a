import PascalCheck.Diagnostic.Problem
import PascalCheck.Source

/-!
Diagnostics: what is said about a place in the source. Diagnostics are collected in the order in
which they are found, and finding one stops nothing.
-/

namespace PascalCheck

inductive Severity where
  | info
  | warning
  | error
  deriving DecidableEq

def Severity.text : Severity → String
  | .info => "info"
  | .warning => "warning"
  | .error => "error"

inductive Message where
  | custom (text : String)
  | problem (problem : Problem)
  | previousDeclaration
  deriving DecidableEq

def Message.toString : Message → String
  | .custom text => text
  | .problem p => p.message
  | .previousDeclaration => "location of previous declaration"

inductive Diagnostic where
  | plain (severity : Severity) (place : Span) (message : Message)
  | detailed (severity : Severity) (place : Span) (message : Message) (places : List Span)
      (details : List Diagnostic)

namespace Diagnostic

def severity : Diagnostic → Severity
  | .plain severity _ _ | .detailed severity _ _ _ _ => severity

def place : Diagnostic → Span
  | .plain _ place _ | .detailed _ place _ _ _ => place

def message : Diagnostic → Message
  | .plain _ _ message | .detailed _ _ message _ _ => message

def places? : Diagnostic → Option (List Span)
  | .plain _ _ _ => none
  | .detailed _ _ _ places _ => some places

def details? : Diagnostic → Option (List Diagnostic)
  | .plain _ _ _ => none
  | .detailed _ _ _ _ details => some details

def error (place : Span) (problem : Problem) : Diagnostic :=
  .plain .error place (.problem problem)

def headline (severity : Severity) (place : Span) (message : Message) : String :=
  s!"{place.text} {severity.text}: {message.toString}"

mutual

def text : Diagnostic → String
  | .plain severity place message => headline severity place message
  | .detailed severity place message _ details =>
    headline severity place message ++ detailsText details

def detailsText : List Diagnostic → String
  | [] => ""
  | d :: ds => "\n  " ++ d.text ++ detailsText ds

end

def summary (d : Diagnostic) : String :=
  s!"[{d.severity.text}] {d.message.toString}"

def errorCount (ds : List Diagnostic) : Nat :=
  ds.countP (·.severity == .error)

end Diagnostic

end PascalCheck
