import PascalCheck.Shape.Basic
import PascalCheck.Text.Trim

/-!
Outlines: a tree with one line of text for every node, drawn with the lines that join a node to its
parts.
-/

namespace PascalCheck

structure Line where
  mark : Landmark
  payload : String

def NodeClass.label : NodeClass → String
  | .unaryExpr => "UnOp"
  | .binaryExpr => "BinOp"
  | c => c.text

def Line.text (withIds : Bool) (line : Line) : String :=
  let number := if withIds then s!"[{line.mark.info.id}]" else ""
  Text.trimEnd (line.mark.nodeClass.label ++ number ++ " " ++ line.mark.info.span.start.text ++
    " " ++ line.payload)

inductive Outline where
  | node (line : Line) (parts : List Outline)

namespace Outline

mutual

/--
The lines from top to bottom, each with the way down to it: for the node and every node above it,
except the root, whether another part follows it. `above` is the way down to this node.
-/
def lines (above : List Bool) : Outline → List (List Bool × Line)
  | .node line parts => (above, line) :: linesAll above parts

def linesAll (above : List Bool) : List Outline → List (List Bool × Line)
  | [] => []
  | o :: os => o.lines (above ++ [!os.isEmpty]) ++ linesAll above os

end

def margin : List Bool → String
  | [] => ""
  | [true] => "├─╴"
  | [false] => "└─╴"
  | true :: above => "│  " ++ margin above
  | false :: above => "   " ++ margin above

def draw (withIds : Bool) (o : Outline) : String :=
  String.join ((o.lines []).map fun (above, line) => margin above ++ line.text withIds ++ "\n")

end Outline

end PascalCheck
