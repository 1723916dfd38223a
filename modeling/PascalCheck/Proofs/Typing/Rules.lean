import Mathlib.Data.List.Forall2
import PascalCheck.Check.Expr
import PascalCheck.Proofs.Clean

/-!
The types of constants and expressions, given by rules that do not mention how they are checked.

A name has the type that the scope binds it to. Operators look at the bare types of their operands.
A call is resolved against what its callee is bound to: a routine takes at least as many arguments
as it has parameters, an alternative of an overload set exactly as many.
-/

namespace PascalCheck

def Const.InRange : Const → Prop
  | .integer _ lexeme => Numeral.withinBounds .integer lexeme.value = true
  | _ => True

inductive Const.Typed (scope : Scope) : Const → Ty → Prop where
  | integer {info lexeme} :
      Numeral.isInteger lexeme.value = true → Typed scope (.integer info lexeme) .integer
  | real {info lexeme} : Typed scope (.real info lexeme) .real
  | signed {info sign operand t} :
      Typed scope operand t → t.Numeric → operand.InRange →
      Typed scope (.signed info sign operand) t
  | named {info name t} : scope.lookup? name.value = some t → Typed scope (.named info name) t
  | signedNamed {info sign name t} :
      scope.lookup? name.value = some t → t.Numeric →
      Typed scope (.signedNamed info sign name) t
  | string {info contents} : Typed scope (.string info contents) .string
  | chr {info lexeme} :
      Numeral.isInteger lexeme.value = true → Typed scope (.chr info lexeme) .char
  | bool {info value} : Typed scope (.bool info value) .boolean

def UnaryOp.Takes : UnaryOp → Ty → Prop
  | .plus, t | .negate, t => t.Numeric
  | .not, t => t.bare = .boolean

/-- Equivalence is directed, so two parameters of one type cannot be compared with each other. -/
inductive Ty.Comparable : Ty → Ty → Prop where
  | alike {a b : Ty} : a.Simple → b.Simple → a.equiv b = true → Comparable a b
  | realInteger {a b : Ty} : a.bare = .real → b.bare = .integer → Comparable a b
  | integerReal {a b : Ty} : a.bare = .integer → b.bare = .real → Comparable a b
  | charString {a b : Ty} : a.bare = .char → b.bare = .string → Comparable a b
  | stringChar {a b : Ty} : a.bare = .string → b.bare = .char → Comparable a b

/-- `op.Gives a b t`: with operands of types `a` and `b` the operator gives a `t`. -/
inductive BinaryOp.Gives : BinaryOp → Ty → Ty → Ty → Prop where
  | logical {op a b} :
      op = .and ∨ op = .or → a.bare = .boolean → b.bare = .boolean → Gives op a b .boolean
  | real {op a b} :
      op = .add ∨ op = .subtract ∨ op = .multiply → a.Numeric → b.Numeric →
      a.bare = .real ∨ b.bare = .real → Gives op a b .real
  | integer {op a b} :
      op = .add ∨ op = .subtract ∨ op = .multiply → a.bare = .integer → b.bare = .integer →
      Gives op a b .integer
  | divide {a b} : a.Numeric → b.Numeric → Gives .divide a b .real
  | whole {op a b} :
      op = .div ∨ op = .mod → a.bare = .integer → b.bare = .integer → Gives op a b .integer
  | compare {op a b} : op.precedence = .relational → a.Comparable b → Gives op a b .boolean

def Expr.isVar : Expr → Bool
  | .var _ _ => true
  | _ => false

abbrev Actual := Expr × Ty

def Ty.Accepts (formal : Ty) (actual : Actual) : Prop :=
  ∃ mode type, formal.parameter? = some (mode, type) ∧ (mode = .var → actual.1.isVar = true) ∧
    type.equiv actual.2 = true

/-- `Resolves actuals type routine`: a call of what has this type is a call of the routine. -/
inductive Ty.Resolves (actuals : List Actual) : Ty → Ty → Prop where
  | single {routine : Ty} :
      List.Forall₂ Accepts routine.params (actuals.take routine.params.length) →
      Resolves actuals routine routine
  | alternative {tag before routine after} :
      (∀ r ∈ before, ¬ List.Forall₂ Accepts r.params actuals) →
      List.Forall₂ Accepts routine.params actuals →
      Resolves actuals (.overload tag (before ++ routine :: after)) routine

inductive Expr.Typed (scope : Scope) : Expr → Ty → Prop where
  | const {info c t} : Const.Typed scope c t → Typed scope (.const info c) t
  | var {info name t} : scope.lookup? name.value = some t → Typed scope (.var info name) t
  | call {info callee args type types routine t} :
      scope.lookup? callee.value = some type → List.Forall₂ (Typed scope) args types →
      Ty.Resolves (args.zip types) type routine → routine.result? = some t →
      Typed scope (.call info callee args) t
  | paren {info inner t} : Typed scope inner t → Typed scope (.paren info inner) t
  | unary {info op operand t} :
      Typed scope operand t → op.value.Takes t → Typed scope (.unary info op operand) t
  | binary {info op left right a b t} :
      Typed scope left a → Typed scope right b → op.value.Gives a b t →
      Typed scope (.binary info op left right) t

theorem UnaryOp.accepts_iff_takes (op : UnaryOp) (t : Ty) :
    op.accepts t = true ↔ op.Takes t := by
  cases op <;> simp [UnaryOp.accepts, UnaryOp.Takes, Ty.isNumeric_iff]

theorem BinaryOp.Gives.isClean {op : BinaryOp} {a b t : Ty} (h : op.Gives a b t) :
    t.isClean = true := by
  cases h <;> rfl

theorem Const.Typed.isClean {scope : Scope} (hscope : scope.Sound) {c : Const} {t : Ty}
    (h : c.Typed scope t) : t.isClean = true := by
  induction h with
  | signed _ _ _ ih => exact ih
  | named h => exact hscope.clean_of_lookup? h
  | signedNamed h _ => exact hscope.clean_of_lookup? h
  | _ => rfl

theorem Ty.Resolves.isClean {actuals : List Actual} {type routine : Ty}
    (h : Ty.Resolves actuals type routine) (hclean : type.isClean = true) :
    routine.isClean = true := by
  cases h with
  | single _ => exact hclean
  | alternative _ _ =>
    apply Ty.isClean_of_mem_alternatives hclean
    simp

theorem Expr.Typed.isClean {scope : Scope} (hscope : scope.Sound) {e : Expr} {t : Ty}
    (h : e.Typed scope t) : t.isClean = true := by
  induction e using Expr.induction generalizing t with
  | const info c =>
    cases h with
    | const h => exact h.isClean hscope
  | var info name =>
    cases h with
    | var h => exact hscope.clean_of_lookup? h
  | call info callee args ih =>
    cases h with
    | call hlookup _ hresolves hresult =>
      have hroutine := hresolves.isClean (hscope.clean_of_lookup? hlookup)
      exact Ty.isClean_of_result hroutine hresult
  | paren info inner ih =>
    cases h with
    | paren h => exact ih h
  | unary info op operand ih =>
    cases h with
    | unary h _ => exact ih h
  | binary info op left right _ _ =>
    cases h with
    | binary _ _ h => exact h.isClean

end PascalCheck
