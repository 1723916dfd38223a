import PascalCheck.Numeral.Integer
import PascalCheck.Syntax.Operator

/-!
What can be wrong with a program, and how it is said. A problem holds the texts that its message
shows: names as they were spelled, expressions and types as they are written.
-/

namespace PascalCheck

inductive Side where
  | left
  | right
  deriving DecidableEq

def Side.text : Side → String
  | .left => "left"
  | .right => "right"

inductive Conditional where
  | ifStmt
  | repeatStmt
  | whileStmt
  deriving DecidableEq

def Conditional.text : Conditional → String
  | .ifStmt => "an if-statement"
  | .repeatStmt => "a repeat-statement"
  | .whileStmt => "a while-statement"

inductive Limit where
  | initial
  | final
  deriving DecidableEq

def Limit.text : Limit → String
  | .initial => "initial"
  | .final => "final"

inductive Problem where
  | redeclared (name : String)
  | notFound (name : String)
  | invalidConstant (context : String) (bounds : Numeral.Bounds)
  | signedOutOfRange (constant : String) (bounds : Numeral.Bounds)
  | signNotApplicable (sign : Sign) (constant type : String)
  | noResult (function : String)
  | notCondition (stmt : Conditional) (condition type : String)
  | procedureTarget (procedure assignment : String)
  | resultMismatch (assignment type function result : String)
  | functionValueMismatch (value result target type : String)
  | assignmentMismatch (assignment target value : String)
  | controlNotOrdinal (control type : String)
  | limitMismatch (limit : Limit) (value type control controlType : String)
  | notRoutine (kind : RoutineKind) (name : String)
  | tooFewArguments (kind : RoutineKind) (name : String) (expected given : Nat)
  | argumentNotVariable (argument : String) (position : Nat) (kind : RoutineKind) (name : String)
  | argumentMismatch (argument type : String) (position : Nat) (kind : RoutineKind)
      (name formal : String)
  | noAlternative (kind : RoutineKind) (name : String) (types : List String)
  | unaryOperand (op : UnaryOp) (operand type : String)
  | logicalOperand (op : BinaryOp) (side : Side) (operand type : String)
  | relationalOperand (op : BinaryOp) (side : Side) (operand type : String)
  | arithmeticOperand (op : BinaryOp) (side : Side) (operand type : String)
  | notComparable (op : BinaryOp) (left right : String)
  | notIntegers (op : BinaryOp) (left right : String)
  deriving DecidableEq

def counted (n : Nat) (thing : String) : String :=
  s!"{n} {thing}" ++ if n = 1 then "" else "s"

def rangeText (bounds : Numeral.Bounds) : String :=
  s!"is out of range, it must be between {bounds.least} and {bounds.greatest}"

def Problem.message : Problem → String
  | .redeclared name => s!"identifier '{name}' has already been declared in this scope"
  | .notFound name => s!"identifier '{name}' not found in this scope"
  | .invalidConstant context bounds => s!"integer constant in '{context}' {rangeText bounds}"
  | .signedOutOfRange constant bounds => s!"constant '{constant}' {rangeText bounds}"
  | .signNotApplicable sign constant type =>
    s!"sign '{sign.text}' cannot be applied to constant '{constant}' of type {type}"
  | .noResult function =>
    s!"function '{function}' does not assign its result in the top level of its body"
  | .notCondition stmt condition type =>
    s!"the condition of {stmt.text} must be of boolean type but '{condition}' has type {type}"
  | .procedureTarget procedure assignment =>
    s!"cannot assign to procedure '{procedure}' in '{assignment}'"
  | .resultMismatch assignment type function result =>
    s!"right-hand side of '{assignment}' has type {type} that cannot be assigned to the result " ++
      s!"of function '{function}' of type {result}"
  | .functionValueMismatch value result target type =>
    s!"result of function '{value}' has type {result} that cannot be assigned to '{target}' of " ++
      s!"type {type}"
  | .assignmentMismatch assignment target value =>
    s!"types are incompatible in assignment '{assignment}', left-hand side has type {target} " ++
      s!"but right-hand side has type {value}"
  | .controlNotOrdinal control type =>
    s!"the control-variable '{control}' of a for-statement must be of ordinal type but it has " ++
      s!"type {type}"
  | .limitMismatch limit value type control controlType =>
    s!"the {limit.text} value '{value}' of a for-statement has type {type} but the " ++
      s!"control-variable '{control}' has type {controlType}"
  | .notRoutine kind name => s!"'{name}' is not a {kind.text}"
  | .tooFewArguments kind name expected given =>
    let parameters := counted expected "parameter"
    let arguments := counted given "argument" ++ if given = 1 then " was" else " were"
    s!"{kind.text} '{name}' expects {parameters} but {arguments} passed"
  | .argumentNotVariable argument position kind name =>
    s!"argument '{argument}' is not a variable, as required by variable parameter {position} of " ++
      s!"{kind.text} '{name}'"
  | .argumentMismatch argument type position kind name formal =>
    s!"argument '{argument}' has type {type} but parameter {position} of {kind.text} '{name}' " ++
      s!"has type {formal}"
  | .noAlternative kind name types =>
    s!"no alternative of {kind.text} '{name}' accepts arguments of type " ++
      "(" ++ ", ".intercalate types ++ ")"
  | .unaryOperand op operand type =>
    s!"operator '{op.text}' cannot be applied to operand '{operand}' of type {type}"
  | .logicalOperand op side operand type =>
    s!"logical operator '{op.text}' cannot be applied to {side.text} operand '{operand}' of " ++
      s!"type {type}"
  | .relationalOperand op side operand type =>
    s!"relational operator '{op.text}' cannot be applied to {side.text} operand '{operand}' of " ++
      s!"type {type}"
  | .arithmeticOperand op side operand type =>
    s!"operator '{op.text}' cannot be applied to {side.text} operand '{operand}' of type {type}"
  | .notComparable op left right =>
    s!"operator '{op.text}' cannot be applied to operands of type {left} and {right}"
  | .notIntegers op left right =>
    s!"operands of '{op.text}' must be of integer type but they have type {left} and {right}"

end PascalCheck
