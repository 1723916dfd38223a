import PascalCheck.Proofs.Typing.Call
import PascalCheck.Proofs.Typing.Operator
import PascalCheck.Required

/-!
The check of an expression decides the typing rules: in a scope without sentinels an expression is
accepted with a type exactly if the rules give it that type.
-/

namespace PascalCheck

theorem Ty.exists_result_of_isFunction {t : Ty} (h : t.isFunction = true) :
    ∃ r, t.result? = some r := by
  cases t with
  | function tag params result => exact ⟨result, rfl⟩
  | _ => cases h

theorem Ty.isFunction_of_result {t r : Ty} (h : t.result? = some r) : t.isFunction = true := by
  cases t with
  | function tag params result => rfl
  | _ => cases h

namespace Expr

theorem Typed.accepted {scope : Scope} (hscope : scope.Sound) {e : Expr} {t : Ty}
    (h : e.Typed scope t) : e.Accepted scope t := by
  have hclean := Ty.isSentinel_eq_false_of_isClean (h.isClean hscope)
  suffices hcheck : (e.check scope).findings.Silent ∧ (e.check scope).type = t from
    ⟨hcheck.1, hcheck.2, hclean⟩
  clear hclean
  induction e using Expr.induction generalizing t with
  | const info c =>
    cases h with
    | const h => simp [check, h.check_eq]
  | var info name =>
    cases h with
    | var h => simp [check, Name.check_of_lookup? h]
  | call info callee args ih =>
    cases h with
    | @call _ _ _ type types routine _ hlookup hargs hresolves hresult =>
      have haccepted : List.Forall₂ (Expr.Accepted scope) args types := by
        refine ((List.forall₂_and_left args types).mpr ⟨ih, hargs⟩).imp ?_
        intro e t ⟨ih, htyped⟩
        obtain ⟨hsilent, htype⟩ := ih htyped
        exact ⟨hsilent, htype, Ty.isSentinel_eq_false_of_isClean (htyped.isClean hscope)⟩
      have hcalls : scope.Calls .function callee args routine :=
        ⟨type, types, hlookup, haccepted, hresolves, Ty.isFunction_of_result hresult⟩
      obtain ⟨hroutine, hsilent⟩ := Call.check_of_calls hscope info.span hcalls
      simp [check, applyCall, hroutine, hsilent, hresult]
  | paren info inner ih =>
    cases h with
    | paren h => simp [check, ih h]
  | unary info op operand ih =>
    cases h with
    | unary h htakes =>
      obtain ⟨hsilent, rfl⟩ := ih h
      rw [← UnaryOp.accepts_iff_takes] at htakes
      simp [check, applyUnary, hsilent, htakes]
  | binary info op left right ihl ihr =>
    cases h with
    | binary hl hr hgives =>
      obtain ⟨hsilentl, rfl⟩ := ihl hl
      obtain ⟨hsilentr, rfl⟩ := ihr hr
      have hjudge : Findings.Silent (.reports []) := rfl
      simp [check, applyBinary, BinaryOp.judge_of_gives hgives, hsilentl, hsilentr, hjudge]

theorem typed_of_applyBinary {scope : Scope} (hscope : scope.Sound) {info : Info}
    {op : Token BinaryOp} {left right : Expr} {l r : Typing}
    (hl : l.findings.Silent → l.type = .invalidConstant ∨ left.Typed scope l.type)
    (hr : r.findings.Silent → r.type = .invalidConstant ∨ right.Typed scope r.type)
    (h : (applyBinary info.span op.value left right l r).findings.Silent) :
    let t := applyBinary info.span op.value left right l r
    t.type = .invalidConstant ∨ Typed scope (.binary info op left right) t.type := by
  simp only [applyBinary, Findings.silent_append] at h ⊢
  obtain ⟨⟨hsilentl, hsilentr⟩, hfaults⟩ := h
  cases hl hsilentl with
  | inl hinvalid => simp [BinaryOp.judge, hinvalid, Ty.isInvalidConstant]
  | inr htypedl =>
    cases hr hsilentr with
    | inl hinvalid => simp [BinaryOp.judge, hinvalid, Ty.isInvalidConstant]
    | inr htypedr =>
      right
      apply Typed.binary htypedl htypedr
      apply BinaryOp.gives_of_judge
      . exact Ty.isSentinel_eq_false_of_isClean (htypedl.isClean hscope)
      . exact Ty.isSentinel_eq_false_of_isClean (htypedr.isClean hscope)
      . simpa [Findings.Silent] using hfaults

theorem typed_of_applyUnary {scope : Scope} (hscope : scope.Sound) {info : Info}
    {op : Token UnaryOp} {operand : Expr} {t : Typing}
    (ht : t.findings.Silent → t.type = .invalidConstant ∨ operand.Typed scope t.type)
    (h : (applyUnary info.span op.value operand t).findings.Silent) :
    let t' := applyUnary info.span op.value operand t
    t'.type = .invalidConstant ∨ Typed scope (.unary info op operand) t'.type := by
  unfold applyUnary at h ⊢
  split at h
  . next haccepts =>
    rw [if_pos haccepts]
    cases ht h with
    | inl hinvalid => exact .inl hinvalid
    | inr htyped =>
      have hclean := Ty.isSentinel_eq_false_of_isClean (htyped.isClean hscope)
      rw [Ty.isSentinel_eq_false_iff] at hclean
      rw [hclean.1, hclean.2, Bool.false_or, Bool.false_or, UnaryOp.accepts_iff_takes] at haccepts
      exact .inr (.unary htyped haccepts)
  . simp at h

theorem typed_of_applyCall {scope : Scope} (hscope : scope.Sound) {info : Info} {callee : Name}
    {args : List Expr}
    (hargs : ∀ e ∈ args, (e.check scope).findings.Silent →
      (e.check scope).type = .invalidConstant ∨ e.Typed scope (e.check scope).type)
    (h : (Call.check scope ⟨.function, callee, checkAll scope args, info.span⟩).findings.Silent) :
    Typed scope (.call info callee args)
      (applyCall (Call.check scope ⟨.function, callee, checkAll scope args, info.span⟩)).type := by
  have hsettled : ∀ e ∈ args, e.Settled scope := by
    intro e he hsilent
    cases hargs e he hsilent with
    | inl hinvalid => simp [hinvalid, Ty.isError]
    | inr htyped =>
      exact Ty.isError_eq_false (Ty.isSentinel_eq_false_of_isClean (htyped.isClean hscope))
  obtain ⟨routine, ⟨type, types, hlookup, haccepted, hresolves, hkind⟩, hroutine⟩ :=
    Call.calls_of_check hscope hsettled h
  obtain ⟨result, hresult⟩ := Ty.exists_result_of_isFunction hkind
  -- An accepted argument is no invalid constant, so the rules give it its type.
  have htyped : List.Forall₂ (Expr.Typed scope) args types := by
    refine ((List.forall₂_and_left args types).mpr ⟨hargs, haccepted⟩).imp ?_
    rintro e t ⟨htyped, hsilent, rfl, hsentinel⟩
    apply (htyped hsilent).resolve_left
    intro hinvalid
    rw [hinvalid] at hsentinel
    cases hsentinel
  simp only [applyCall, hroutine, Option.bind_some, hresult, Option.getD_some]
  exact .call hlookup htyped hresolves hresult

theorem typed_of_silent {scope : Scope} (hscope : scope.Sound) {e : Expr}
    (h : (e.check scope).findings.Silent) :
    (e.check scope).type = .invalidConstant ∨ e.Typed scope (e.check scope).type := by
  induction e using Expr.induction with
  | const info c =>
    simp only [check, Typing.findings_record, Findings.silent_append] at h
    cases Const.typed_of_silent hscope h.1 with
    | inl hinvalid => exact .inl hinvalid
    | inr htyped => exact .inr (.const htyped)
  | var info name =>
    simp only [check, Typing.findings_record, Findings.silent_append] at h
    exact .inr (.var (Name.lookup?_of_silent h.1))
  | call info callee args ih =>
    simp only [check, applyCall, Typing.findings_record, Findings.silent_append] at h
    exact .inr (typed_of_applyCall hscope ih h.1)
  | paren info inner ih =>
    simp only [check, Typing.findings_record, Findings.silent_append] at h
    cases ih h.1 with
    | inl hinvalid => exact .inl hinvalid
    | inr htyped => exact .inr (.paren htyped)
  | unary info op operand ih =>
    simp only [check, Typing.findings_record, Findings.silent_append] at h
    exact typed_of_applyUnary hscope ih h.1
  | binary info op left right ihl ihr =>
    simp only [check, Typing.findings_record, Findings.silent_append] at h
    exact typed_of_applyBinary hscope ihl ihr h.1

theorem typed_of_accepted {scope : Scope} (hscope : scope.Sound) {e : Expr} {t : Ty}
    (h : e.Accepted scope t) : e.Typed scope t := by
  obtain ⟨hsilent, rfl, hsentinel⟩ := h
  apply (typed_of_silent hscope hsilent).resolve_left
  intro hinvalid
  rw [hinvalid] at hsentinel
  cases hsentinel

theorem settled {scope : Scope} (hscope : scope.Sound) (e : Expr) : e.Settled scope := by
  intro hsilent
  cases typed_of_silent hscope hsilent with
  | inl hinvalid => simp [hinvalid, Ty.isError]
  | inr htyped =>
    exact Ty.isError_eq_false (Ty.isSentinel_eq_false_of_isClean (htyped.isClean hscope))

theorem check_iff_typed {scope : Scope} (hscope : scope.Sound) (e : Expr) (t : Ty) :
    ((e.check scope).findings.diagnostics = [] ∧ (e.check scope).type = t ∧
      t.isSentinel = false) ↔ e.Typed scope t := by
  constructor
  . exact typed_of_accepted hscope
  . intro h
    exact h.accepted hscope

end Expr

namespace Sample

def here : Info :=
  ⟨0, .point 1 1⟩

def word {α : Type} (value : α) : Token α :=
  ⟨here, value⟩

def scope : Scope :=
  ⟨.ofList [⟨"n", .parameter 7 .formal .value .integer, none⟩, ⟨"r", .real, none⟩,
    ⟨"k", .integer, none⟩],
   [.ofList [⟨"put", .procedure 5 [], none⟩,
     ⟨"abs", Required.functionType [([.integer], .integer), ([.real], .real)], none⟩,
     ⟨"half", .function 3 [.parameter 1 .formal .var .real, .parameter 2 .formal .value .integer]
       .real, none⟩]]⟩

theorem scope_sound : scope.Sound :=
  ⟨by decide, by decide⟩

def comparison : Expr :=
  -- `(abs(2 * n) <= half(r, 2))`.
  .paren here (.binary here (word .lessEqual)
    (.call here (word "ABS") [.binary here (word .multiply)
      (.const here (.integer here (word "2"))) (.var here (word "N"))])
    (.call here (word "half") [.var here (word "r"), .const here (.integer here (word "2"))]))

end Sample

theorem Sample.comparison_typed : Expr.Typed Sample.scope Sample.comparison .boolean :=
  (Expr.check_iff_typed Sample.scope_sound Sample.comparison .boolean).mp
    ⟨by rfl, by rfl, by rfl⟩

end PascalCheck
