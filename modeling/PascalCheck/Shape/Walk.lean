import PascalCheck.Fault
import PascalCheck.Shape.Basic

/-!
Walks over a shape, as the sequence of what happens on the way. A node is entered before its parts
and left after them. A walk may pass over the nodes of some classes, with all that is in them.
-/

namespace PascalCheck

inductive Phase where
  | enter
  | leave
  | leaf
  | skip
  deriving DecidableEq

structure Event where
  phase : Phase
  mark : Landmark
  deriving DecidableEq

namespace Phase

def text : Phase → String
  | .enter => "pre"
  | .leave => "post"
  | .leaf => "leaf"
  | .skip => "skip"

def fault? (className : String) (position : Position) : Phase → Option Fault
  | .enter => some (.unknownNode className position)
  | .leaf => some (.unknownLeaf className position)
  | .leave | .skip => none

end Phase

def Event.text (e : Event) : String :=
  s!"{e.phase.text} {e.mark.nodeClass.text} {e.mark.info.span.text} #{e.mark.info.id}"

namespace Shape

mutual

def walk (skipped : NodeClass → Bool) : Shape → List Event
  | .leaf mark => [⟨.leaf, mark⟩]
  | .node mark parts =>
    if skipped mark.nodeClass then
      [⟨.skip, mark⟩]
    else
      ⟨.enter, mark⟩ :: walkAll skipped parts ++ [⟨.leave, mark⟩]

def walkAll (skipped : NodeClass → Bool) : List Shape → List Event
  | [] => []
  | s :: ss => s.walk skipped ++ walkAll skipped ss

end

def events (s : Shape) : List Event :=
  s.walk fun _ => false

def branchEvents (skipped : NodeClass → Bool) (s : Shape) : List Event :=
  (s.walk skipped).filter (·.phase != .leaf)

def marks (s : Shape) : List Landmark :=
  (s.events.filter fun e => e.phase == .enter || e.phase == .leaf).map (·.mark)

end Shape

end PascalCheck
