import PascalCheck.Proofs.Typing.Rules

/-!
Silence: findings that report nothing. A constant that is checked in silence has the type that the
rules give it, or it is left to its user as an invalid constant.
-/

namespace PascalCheck

namespace Findings

def Silent (f : Findings) : Prop :=
  f.diagnostics = []

@[simp]
theorem silent_none : Findings.none.Silent := rfl

@[simp]
theorem silent_record (id : Nat) (t : Ty) : (Findings.record id t).Silent := rfl

@[simp]
theorem silent_pass (mode : Mode) (t : Ty) : (Findings.pass mode t).Silent := rfl

@[simp]
theorem not_silent_error (place : Span) (problem : Problem) :
    ¬ (Findings.error place problem).Silent := by
  intro h
  cases h

@[simp]
theorem not_silent_invalidConstant (scope : Scope) (place : Span) (context : String) :
    ¬ (Findings.invalidConstant scope place context).Silent := by
  apply not_silent_error

@[simp]
theorem silent_append (a b : Findings) : (a ++ b).Silent ↔ a.Silent ∧ b.Silent := by
  unfold Silent
  rw [diagnostics_append, List.append_eq_nil_iff]

end Findings

namespace Typing

@[simp]
theorem type_silent (t : Ty) : (Typing.silent t).type = t := rfl

@[simp]
theorem findings_silent (t : Ty) : (Typing.silent t).findings = .none := rfl

@[simp]
theorem type_record (t : Typing) (info : Info) : (t.record info).type = t.type := rfl

@[simp]
theorem findings_record (t : Typing) (info : Info) :
    (t.record info).findings = t.findings ++ .record info.id t.type := rfl

@[simp]
theorem type_reject (t : Typing) (place : Span) (problem : Problem) (type : Ty) :
    (t.reject place problem type).type = type := rfl

@[simp]
theorem findings_reject (t : Typing) (place : Span) (problem : Problem) (type : Ty) :
    (t.reject place problem type).findings = t.findings ++ .error place problem := rfl

end Typing

theorem Name.check_of_lookup? {scope : Scope} {name : Name} {t : Ty}
    (h : scope.lookup? name.value = some t) : Name.check scope name = .silent t := by
  unfold Name.check
  rw [h]

theorem Name.lookup?_of_silent {scope : Scope} {name : Name}
    (h : (Name.check scope name).findings.Silent) :
    scope.lookup? name.value = some (Name.check scope name).type := by
  unfold Name.check at h ⊢
  split at h
  . next t ht =>
    rw [ht]
    rfl
  . cases h

namespace Const

theorem Typed.check_eq {scope : Scope} {c : Const} {t : Ty}
    (h : c.Typed scope t) : (c.check scope).findings.Silent ∧ (c.check scope).type = t := by
  induction h with
  | integer h => simp [check, lexemeType, h]
  | real => simp [check]
  | @signed info sign operand t h hnumeric hrange ih =>
    have happly : applySign scope info.span sign.value operand (operand.check scope)
        = operand.check scope := by
      cases operand with
      | integer _ lexeme =>
        simp only [InRange] at hrange
        simp [applySign, Scope.bounds_eq, hrange]
      | _ => simp [applySign, ih.2, (Ty.isNumeric_iff t).mpr hnumeric]
    rw [check, happly]
    simp [ih]
  | named h => simp [check, Name.check_of_lookup? h]
  | signedNamed h hnumeric =>
    rw [← Ty.isNumeric_iff] at hnumeric
    simp [check, applySignToName, Name.check_of_lookup? h, hnumeric]
  | string => simp [check]
  | chr h => simp [check, lexemeType, h]
  | bool => simp [check]

theorem applySign_of_silent {scope : Scope} {place : Span} {sign : Sign} {operand : Const}
    {t : Typing} (h : (applySign scope place sign operand t).findings.Silent) :
    applySign scope place sign operand t = t ∧ operand.InRange ∧
      ((∃ info lexeme, operand = .integer info lexeme) ∨ t.type.isError = true ∨
        t.type.isInvalidConstant = true ∨ t.type.isNumeric = true) := by
  cases operand with
  | integer info lexeme =>
    unfold applySign at h ⊢
    dsimp only at h ⊢
    split at h
    . next hrange =>
      rw [if_pos hrange]
      rw [Scope.bounds_eq] at hrange
      exact ⟨rfl, hrange, .inl ⟨info, lexeme, rfl⟩⟩
    . simp at h
  | _ =>
    unfold applySign at h ⊢
    dsimp only at h ⊢
    split at h
    . next htype =>
      rw [if_pos htype]
      rw [Bool.or_eq_true, Bool.or_eq_true, or_assoc] at htype
      exact ⟨rfl, trivial, .inr htype⟩
    . simp at h

theorem Typed.numeric_of_integer {scope : Scope} {info : Info} {lexeme : Token String} {t : Ty}
    (h : Typed scope (.integer info lexeme) t) : t.Numeric := by
  cases h with
  | integer _ => exact .inl rfl

theorem typed_of_silent {scope : Scope} (hscope : scope.Sound) {c : Const}
    (h : (c.check scope).findings.Silent) :
    (c.check scope).type = .invalidConstant ∨ c.Typed scope (c.check scope).type := by
  induction c with
  | integer info lexeme =>
    by_cases hlexeme : Numeral.isInteger lexeme.value = true
    . right
      simpa [check, lexemeType, hlexeme] using Typed.integer hlexeme
    -- A number that cannot be read is not reported here but where its value is needed.
    . left
      simp [check, lexemeType, hlexeme]
  | real info lexeme => exact .inr .real
  | signed info sign operand ih =>
    simp only [check, Typing.findings_record, Findings.silent_append] at h
    obtain ⟨heq, hrange, hclass⟩ := applySign_of_silent h.1
    rw [heq] at h
    rw [check, Typing.type_record, heq]
    cases ih h.1 with
    | inl hinvalid => exact .inl hinvalid
    | inr htyped =>
      have hclean := Ty.isSentinel_eq_false_of_isClean (htyped.isClean hscope)
      rw [Ty.isSentinel_eq_false_iff] at hclean
      -- The check lets a faulty operand pass in silence, but this one is typed.
      obtain ⟨_, _, rfl⟩ | herror | hinvalid | hnumeric := hclass
      . exact .inr (.signed htyped htyped.numeric_of_integer hrange)
      . simp [hclean.1] at herror
      . simp [hclean.2] at hinvalid
      . exact .inr (.signed htyped ((Ty.isNumeric_iff _).mp hnumeric) hrange)
  | named info name =>
    simp only [check, Typing.findings_record, Findings.silent_append] at h
    exact .inr (.named (Name.lookup?_of_silent h.1))
  | signedNamed info sign name =>
    simp only [check, Typing.findings_record, Findings.silent_append] at h
    obtain ⟨h, -⟩ := h
    rw [check, Typing.type_record]
    unfold applySignToName at h ⊢
    split at h
    . next htype =>
      have hlookup := Name.lookup?_of_silent h
      have hclean := Ty.isSentinel_eq_false_of_isClean (hscope.clean_of_lookup? hlookup)
      rw [if_pos htype]
      rw [Ty.isError_eq_false hclean, Bool.false_or, Ty.isNumeric_iff] at htype
      exact .inr (.signedNamed hlookup htype)
    . simp at h
  | string info contents => exact .inr .string
  | chr info lexeme =>
    by_cases hlexeme : Numeral.isInteger lexeme.value = true
    . right
      simpa [check, lexemeType, hlexeme] using Typed.chr hlexeme
    . left
      simp [check, lexemeType, hlexeme]
  | bool info value => exact .inr .bool

end Const

end PascalCheck
