import PascalCheck.Proofs.Findings
import PascalCheck.Proofs.Typing.Expr

/-!
Sentinels among operands. An operator with a sentinel as an operand has a sentinel as its type and
reports nothing, so whatever parentheses and operators are put around a faulty expression only add
what is found in the other operands. An invalid constant comes through from any operand.
-/

namespace PascalCheck

namespace Expr

inductive Layer where
  | paren (info : Info)
  | unary (info : Info) (op : Token UnaryOp)
  | before (info : Info) (op : Token BinaryOp) (right : Expr)
  | after (info : Info) (op : Token BinaryOp) (left : Expr)

def Layer.wrap : Layer → Expr → Expr
  | .paren info, e => .paren info e
  | .unary info op, e => .unary info op e
  | .before info op right, e => .binary info op e right
  | .after info op left, e => .binary info op left e

def Layer.operands : Layer → List Expr → List Expr
  | .paren _, inside | .unary _ _, inside => inside
  | .before _ _ right, inside => inside ++ [right]
  | .after _ _ left, inside => left :: inside

def wrap (e : Expr) (layers : List Layer) : Expr :=
  layers.foldl (fun e layer => layer.wrap e) e

def operands (e : Expr) (layers : List Layer) : List Expr :=
  layers.foldl (fun inside layer => layer.operands inside) [e]

def reports (scope : Scope) (es : List Expr) : List Diagnostic :=
  es.flatMap fun e => (e.check scope).findings.diagnostics

/-- The expressions that are reached through parentheses and operators only. -/
def leaves : Expr → List Expr
  | .paren _ e | .unary _ _ e => e.leaves
  | .binary _ _ left right => left.leaves ++ right.leaves
  | e => [e]

end Expr

theorem Ty.isSentinel_iff (t : Ty) :
    t.isSentinel = true ↔ t.isError = true ∨ t.isInvalidConstant = true := by
  rw [← Bool.not_eq_false, isSentinel_eq_false_iff]
  grind

theorem Typing.diagnostics_record (t : Typing) (info : Info) :
    (t.record info).findings.diagnostics = t.findings.diagnostics :=
  List.append_nil _

namespace BinaryOp

theorem judge_of_sentinel (op : BinaryOp) {left right : Ty}
    (h : left.isSentinel = true ∨ right.isSentinel = true) :
    (op.judge left right).faults = [] ∧ (op.judge left right).type.isSentinel = true := by
  unfold judge
  split
  . exact ⟨rfl, rfl⟩
  . split
    . exact ⟨rfl, rfl⟩
    next hinvalid herror =>
      simp only [Ty.isSentinel_iff] at h
      simp only [Bool.or_eq_true] at hinvalid herror
      grind

theorem judge_ne_invalidConstant (op : BinaryOp) {left right : Ty}
    (hleft : left.isInvalidConstant = false) (hright : right.isInvalidConstant = false) :
    (op.judge left right).type.isInvalidConstant = false := by
  have hlogical : (judgeLogical left right).type.isInvalidConstant = false := by
    rw [judgeLogical, apply_ite Ty.isInvalidConstant]
    simp [Ty.isInvalidConstant]
  have hrelational : (judgeRelational left right).type.isInvalidConstant = false := by
    unfold judgeRelational
    split
    . rfl
    . split
      . rfl
      . split <;> rfl
  have harithmetic : (judgeArithmetic op left right).type.isInvalidConstant = false := by
    unfold judgeArithmetic
    split
    . rfl
    . split
      . rfl
      . split
        . rfl
        . rfl
        . rfl
        . rw [apply_ite Ty.isInvalidConstant]
          simp [Ty.isInvalidConstant]
  by_cases hsentinel : left.isSentinel = true ∨ right.isSentinel = true
  . simp only [Ty.isSentinel_iff, hleft, hright, Bool.false_eq_true, or_false] at hsentinel
    have herror : (left.isError || right.isError) = true := by simpa using hsentinel
    unfold judge
    rw [hleft, hright, herror]
    rfl
  . rw [not_or, Bool.not_eq_true, Bool.not_eq_true] at hsentinel
    rw [judge_eq hsentinel.1 hsentinel.2]
    split
    . exact hlogical
    . split
      . exact hrelational
      . exact harithmetic

theorem judge_isInvalidConstant (op : BinaryOp) (left right : Ty) :
    (op.judge left right).type.isInvalidConstant =
      (left.isInvalidConstant || right.isInvalidConstant) := by
  cases h : left.isInvalidConstant || right.isInvalidConstant with
  | true =>
    unfold judge
    rw [if_pos h]
    rfl
  | false =>
    rw [Bool.or_eq_false_iff] at h
    exact op.judge_ne_invalidConstant h.1 h.2

end BinaryOp

theorem Ty.isClean_result {t r : Ty} (h : t.isClean = true ∨ t.isBuiltIn = true)
    (hresult : t.result? = some r) : r.isClean = true := by
  cases h with
  | inl hclean => exact isClean_of_result hclean hresult
  | inr hbuiltIn => cases t <;> cases hbuiltIn <;> cases hresult

theorem Ty.cleanOrBuiltIn_closed : Closed fun t => t.isClean = true ∨ t.isBuiltIn = true where
  builtIn _ h := .inr h
  result _ _ h hresult := .inl (isClean_result h hresult)
  alternative t ts h hts r hr := by
    cases t with
    | overload tag alternatives =>
      cases hts
      cases h with
      | inl hclean => exact .inl (isClean_of_mem_alternatives hclean hr)
      | inr hbuiltIn => cases hbuiltIn
    | _ => cases hts

variable {scope : Scope}

namespace Expr

theorem applyUnary_of_sentinel (place : Span) (op : UnaryOp) (operand : Expr) {t : Typing}
    (h : t.type.isSentinel = true) : applyUnary place op operand t = t := by
  have hsilent : (t.type.isError || t.type.isInvalidConstant) = true := by
    simpa [Ty.isSentinel_iff] using h
  simp [applyUnary, hsilent]

theorem applyBinary_of_sentinel (place : Span) (op : BinaryOp) (left right : Expr) {l r : Typing}
    (h : l.type.isSentinel = true ∨ r.type.isSentinel = true) :
    (applyBinary place op left right l r).type.isSentinel = true ∧
      (applyBinary place op left right l r).findings = l.findings ++ r.findings := by
  obtain ⟨hfaults, htype⟩ := op.judge_of_sentinel h
  refine ⟨htype, ?_⟩
  simp only [applyBinary, hfaults, List.map_nil]
  exact Findings.append_none _

theorem wrap_layer_of_sentinel {e : Expr} {inside : List Expr}
    (htype : (e.check scope).type.isSentinel = true)
    (hinside : (e.check scope).findings.diagnostics = reports scope inside) (layer : Layer) :
    ((layer.wrap e).check scope).type.isSentinel = true ∧
      ((layer.wrap e).check scope).findings.diagnostics =
        reports scope (layer.operands inside) := by
  cases layer with
  | paren info =>
    refine ⟨htype, ?_⟩
    rw [Layer.wrap, check, Typing.diagnostics_record]
    exact hinside
  | unary info op =>
    rw [Layer.wrap, check, applyUnary_of_sentinel _ _ _ htype, Typing.diagnostics_record]
    exact ⟨htype, hinside⟩
  | before info op right =>
    obtain ⟨hsentinel, hfindings⟩ := applyBinary_of_sentinel info.span op.value e right
      (r := right.check scope) (.inl htype)
    refine ⟨hsentinel, ?_⟩
    rw [Layer.wrap, check, Typing.diagnostics_record, hfindings, Findings.diagnostics_append,
      hinside]
    simp [Layer.operands, reports]
  | after info op left =>
    obtain ⟨hsentinel, hfindings⟩ := applyBinary_of_sentinel info.span op.value left e
      (l := left.check scope) (.inr htype)
    refine ⟨hsentinel, ?_⟩
    rw [Layer.wrap, check, Typing.diagnostics_record, hfindings, Findings.diagnostics_append,
      hinside]
    simp [Layer.operands, reports]

theorem wrap_of_sentinel (layers : List Layer) {e : Expr}
    (htype : (e.check scope).type.isSentinel = true) :
    ((e.wrap layers).check scope).type.isSentinel = true ∧
      ((e.wrap layers).check scope).findings.diagnostics = reports scope (e.operands layers) := by
  have hinside : (e.check scope).findings.diagnostics = reports scope [e] := by
    simp [reports]
  unfold wrap operands
  -- The operands inside grow with the layers, so the list that they start from is left open.
  generalize [e] = inside at hinside ⊢
  induction layers generalizing e inside with
  | nil => exact ⟨htype, hinside⟩
  | cons layer layers ih =>
    obtain ⟨htype, hinside⟩ := wrap_layer_of_sentinel htype hinside layer
    exact ih htype _ hinside

theorem applyUnary_isInvalidConstant (place : Span) (op : UnaryOp) (operand : Expr) (t : Typing) :
    (applyUnary place op operand t).type.isInvalidConstant = t.type.isInvalidConstant := by
  unfold applyUnary
  split
  . rfl
  next h =>
    simp only [Bool.or_eq_true, not_or, Bool.not_eq_true] at h
    rw [h.1.2]
    rfl

theorem applyCall_isInvalidConstant (hclean : ∀ e ∈ scope.entries, e.type.isClean = true)
    (c : Call) : (applyCall (c.check scope)).type.isInvalidConstant = false := by
  unfold applyCall
  cases hresult : (c.check scope).routine?.bind Ty.result? with
  | none => rfl
  | some result =>
    obtain ⟨routine, hroutine, hresult⟩ := Option.bind_eq_some_iff.mp hresult
    have hroutine := c.check_routine_within Ty.cleanOrBuiltIn_closed
      (fun e he => .inl (hclean e he)) hroutine
    have hresult := Ty.isClean_result hroutine hresult
    exact Ty.isInvalidConstant_eq_false (Ty.isSentinel_eq_false_of_isClean hresult)

theorem check_isInvalidConstant_iff (hclean : ∀ e ∈ scope.entries, e.type.isClean = true)
    (e : Expr) :
    (e.check scope).type.isInvalidConstant = true ↔
      ∃ info c, .const info c ∈ e.leaves ∧ (c.check scope).type.isInvalidConstant = true := by
  induction e using Expr.induction with
  | const info c => simp [check, leaves]
  | var info name =>
    have hname := Name.check_isInvalidConstant
      (fun e he => Ty.isSentinel_eq_false_of_isClean (hclean e he)) name
    simp [check, leaves, hname]
  | call info callee args ih => simp [check, leaves, applyCall_isInvalidConstant hclean]
  | paren info e ih => simpa [check, leaves] using ih
  | unary info op e ih => simpa [check, leaves, applyUnary_isInvalidConstant] using ih
  | binary info op left right ihl ihr =>
    rw [check, Typing.type_record, applyBinary, BinaryOp.judge_isInvalidConstant, Bool.or_eq_true,
      ihl, ihr, leaves]
    simp only [List.mem_append]
    grind

theorem sentinels_silence_operators (scope : Scope) :
    (∀ (e : Expr) (layers : List Layer), (e.check scope).type.isSentinel = true →
      ((e.wrap layers).check scope).type.isSentinel = true ∧
      ((e.wrap layers).check scope).findings.diagnostics =
        (e.operands layers).flatMap fun operand => (operand.check scope).findings.diagnostics) ∧
    ((∀ entry ∈ scope.entries, entry.type.isClean = true) → ∀ e : Expr,
      (e.check scope).type = .invalidConstant ↔
        ∃ info c, .const info c ∈ e.leaves ∧ (c.check scope).type = .invalidConstant) := by
  constructor
  . intro e layers htype
    exact wrap_of_sentinel layers htype
  . intro hclean e
    simp only [← Ty.isInvalidConstant_iff]
    exact check_isInvalidConstant_iff hclean e

end Expr

namespace Sample

def missing (name : String) : Expr :=
  .var here (word name)

def layers : List Expr.Layer :=
  -- `y and (-x / 00)` around `x`.
  [.unary here (word .negate),
   .before here (word .divide) (.const here (.integer here (word "00"))), .paren here,
   .after here (word .and) (missing "y")]

end Sample

theorem Sample.missing_wrapped :
    (((missing "x").wrap layers).check Sample.scope).findings.diagnostics =
        [.error here.span (.notFound "y"), .error here.span (.notFound "x")] ∧
      (((missing "x").wrap layers).check Sample.scope).type = .invalidConstant := by
  obtain ⟨hsilence, hinvalid⟩ := Expr.sentinels_silence_operators Sample.scope
  constructor
  . rw [(hsilence (missing "x") layers rfl).2]
    rfl
  . rw [hinvalid scope_sound.clean]
    refine ⟨here, .integer here (word "00"), ?_, rfl⟩
    simp [layers, missing, Expr.wrap, Expr.Layer.wrap, Expr.leaves]

end PascalCheck
