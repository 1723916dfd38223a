import PascalCheck.Check.Program
import PascalCheck.Shape.Syntax
import PascalCheck.Shape.Walk
import PascalCheck.Syntax.Numbering
import PascalCheck.Visitor.Outline

/-!
Sessions: programs that are checked one after another in the same context. The nodes of all programs
of a session are numbered apart, so what was recorded for one program outlives the check of another.
-/

namespace PascalCheck

structure Session where
  context : Context
  programs : List Program
  nextId : Nat

namespace Session

def empty : Session :=
  ⟨.empty, [], 0⟩

def check (s : Session) (program : Program) (table : Predefined) : Except Fault Session := do
  let (program, nextId) := program.number.run s.nextId
  let context ← program.checkWith table s.context
  return ⟨context, s.programs ++ [program], nextId⟩

def recheck (s : Session) (program : Program) (table : Predefined) : Except Fault Session := do
  return { s with context := ← program.checkWith table s.context }

def push (s : Session) : Session :=
  { s with context := s.context.push }

def pop (s : Session) : Except Fault Session :=
  match s.context.scope.pop? with
  | some scope => .ok { s with context := { s.context with scope } }
  | none => .error .outermostScope

def define (s : Session) (name : String) (type : Ty) (place : Option Span) :
    Except Fault (Bool × Session) := do
  let (type, nextTag) ← type.fresh.run s.context.nextTag
  match s.context.scope.define? name type place with
  | some scope => return (true, { s with context := { s.context with scope, nextTag } })
  | none => return (false, { s with context := { s.context with nextTag } })

def addDiagnostic (s : Session) (d : Diagnostic) : Session :=
  { s with context := s.context.add (.reports [d]) }

end Session

def Landmark.typeText? (records : Records) (mark : Landmark) : Option String :=
  (records.type? mark.info.id).map fun type =>
    s!"{mark.nodeClass.text} {mark.info.span.start.text} {type.text}"

def Shape.typeTexts (records : Records) (s : Shape) : List String :=
  s.marks.filterMap (·.typeText? records)

end PascalCheck
