/-!
The words of the language that stand for a choice: signs, operators, primitive type names, parameter
modes, directions of a loop and kinds of routine.
-/

namespace PascalCheck

inductive Primitive where
  | integer
  | real
  | char
  | boolean
  | string
  deriving DecidableEq

def Primitive.text : Primitive → String
  | .integer => "integer"
  | .real => "real"
  | .char => "char"
  | .boolean => "boolean"
  | .string => "string"

inductive Sign where
  | plus
  | minus
  deriving DecidableEq

def Sign.text : Sign → String
  | .plus => "+"
  | .minus => "-"

inductive UnaryOp where
  | plus
  | negate
  | not
  deriving DecidableEq

def UnaryOp.text : UnaryOp → String
  | .plus => "+"
  | .negate => "-"
  | .not => "not"

inductive BinaryOp where
  | equal
  | notEqual
  | less
  | lessEqual
  | greater
  | greaterEqual
  | add
  | subtract
  | or
  | multiply
  | divide
  | div
  | mod
  | and
  deriving DecidableEq

inductive Precedence where
  | relational
  | additive
  | multiplicative
  deriving DecidableEq

namespace BinaryOp

def text : BinaryOp → String
  | .equal => "="
  | .notEqual => "<>"
  | .less => "<"
  | .lessEqual => "<="
  | .greater => ">"
  | .greaterEqual => ">="
  | .add => "+"
  | .subtract => "-"
  | .or => "or"
  | .multiply => "*"
  | .divide => "/"
  | .div => "div"
  | .mod => "mod"
  | .and => "and"

def precedence : BinaryOp → Precedence
  | .equal | .notEqual | .less | .lessEqual | .greater | .greaterEqual => .relational
  | .add | .subtract | .or => .additive
  | .multiply | .divide | .div | .mod | .and => .multiplicative

end BinaryOp

inductive Mode where
  | value
  | var
  deriving DecidableEq

inductive Direction where
  | to
  | downto
  deriving DecidableEq

def Direction.text : Direction → String
  | .to => "to"
  | .downto => "downto"

inductive RoutineKind where
  | procedure
  | function
  deriving DecidableEq

def RoutineKind.text : RoutineKind → String
  | .procedure => "procedure"
  | .function => "function"

end PascalCheck
