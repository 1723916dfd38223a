import PascalCheck.Syntax.Basic

/-!
How constants, expressions and assignments are written in messages. Nothing is added to the tree:
parentheses are shown where the tree has them.
-/

namespace PascalCheck

def quoteLiteral (contents : String) : String :=
  String.ofList (['\''] ++ contents.toList.flatMap double ++ ['\''])
where
  double (c : Char) : List Char :=
    if c = '\'' then ['\'', '\''] else [c]

def Const.text : Const → String
  | .integer _ lexeme => lexeme.value
  | .real _ lexeme => lexeme.value
  | .signed _ sign operand => sign.value.text ++ operand.text
  | .named _ name => name.value
  | .signedNamed _ sign name => sign.value.text ++ name.value
  | .string _ contents => quoteLiteral contents.value
  | .chr _ lexeme => "chr(" ++ lexeme.value ++ ")"
  | .bool _ value => if value.value then "true" else "false"

mutual

def Expr.text : Expr → String
  | .const _ c => c.text
  | .var _ name => name.value
  | .call _ callee args => callee.value ++ "(" ++ ", ".intercalate (Expr.texts args) ++ ")"
  | .paren _ inner => "(" ++ inner.text ++ ")"
  | .unary _ op operand =>
    match op.value with
    | .not => "not " ++ operand.text
    | op => op.text ++ operand.text
  | .binary _ op left right => left.text ++ " " ++ op.value.text ++ " " ++ right.text

def Expr.texts : List Expr → List String
  | [] => []
  | e :: es => e.text :: Expr.texts es

end

def assignmentText (target : Target) (value : Expr) : String :=
  target.name.value ++ " := " ++ value.text

end PascalCheck
