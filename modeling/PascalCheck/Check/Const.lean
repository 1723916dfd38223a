import PascalCheck.Check.Findings
import PascalCheck.Numeral.Decimal
import PascalCheck.Syntax.Text
import PascalCheck.Types.Equiv
import PascalCheck.Types.Text

/-!
Types of constants.

A lexeme that stands for no value makes a constant invalid. Who uses the constant reports it, except
that a signed integer out of range is reported where it stands.
-/

namespace PascalCheck

variable [Naming]

def lexemeType (lexeme : String) (type : Ty) : Ty :=
  if Numeral.isInteger lexeme then type else .invalidConstant

namespace Const

/--
A sign in front of an integer keeps its type, provided that the number lies within the bounds, read
as a decimal. In front of another constant it asks for a numeric type.
-/
def applySign (scope : Scope) (place : Span) (sign : Sign) (operand : Const) (t : Typing) :
    Typing :=
  match operand with
  | .integer _ lexeme =>
    if Numeral.withinBounds scope.bounds lexeme.value then
      t
    else
      t.reject place (.signedOutOfRange (sign.text ++ lexeme.value) scope.bounds) .invalidConstant
  | operand =>
    if t.type.isError || t.type.isInvalidConstant || t.type.isNumeric then
      t
    else
      t.reject place (.signNotApplicable sign operand.text t.type.text) .error

def applySignToName (place : Span) (sign : Sign) (name : Name) (t : Typing) : Typing :=
  if t.type.isError || t.type.isNumeric then
    t
  else
    t.reject place (.signNotApplicable sign name.value t.type.text) .error

def check (scope : Scope) : Const → Typing
  | .integer info lexeme => (Typing.silent (lexemeType lexeme.value .integer)).record info
  | .real info _ => (Typing.silent .real).record info
  | .signed info sign operand =>
    (applySign scope info.span sign.value operand (operand.check scope)).record info
  | .named info name => (Name.check scope name).record info
  | .signedNamed info sign name =>
    (applySignToName info.span sign.value name (Name.check scope name)).record info
  | .string info _ => (Typing.silent .string).record info
  | .chr info lexeme => (Typing.silent (lexemeType lexeme.value .char)).record info
  | .bool info _ => (Typing.silent .boolean).record info

end Const

end PascalCheck
