import PascalCheck.Proofs.Typing.Rules

/-!
The judgement of a binary operator agrees with the rules: it finds no fault in operands that are not
sentinels exactly if the rules give the operator a type for them, and then it is that type.
-/

namespace PascalCheck

theorem Ty.isSentinel_of_bare {t : Ty} {p : Primitive} (h : t.bare = .primitive p) :
    t.isSentinel = false := by
  cases t with
  | sentinel s => cases h
  | _ => rfl

theorem Ty.Numeric.isSentinel {t : Ty} (h : t.Numeric) : t.isSentinel = false := by
  cases h with
  | inl h => exact isSentinel_of_bare h
  | inr h => exact isSentinel_of_bare h

theorem Ty.Simple.isSentinel {t : Ty} (h : t.Simple) : t.isSentinel = false := by
  obtain (h | h | h) | h := h <;> exact isSentinel_of_bare h

namespace BinaryOp

theorem Gives.left_isSentinel {op : BinaryOp} {a b t : Ty} (h : op.Gives a b t) :
    a.isSentinel = false := by
  cases h with
  | logical _ h _ => exact Ty.isSentinel_of_bare h
  | real _ h _ _ => exact h.isSentinel
  | integer _ h _ => exact Ty.isSentinel_of_bare h
  | divide h _ => exact h.isSentinel
  | whole _ h _ => exact Ty.isSentinel_of_bare h
  | compare _ h =>
    cases h with
    | alike h _ _ => exact h.isSentinel
    | _ h _ => exact Ty.isSentinel_of_bare h

theorem Gives.right_isSentinel {op : BinaryOp} {a b t : Ty} (h : op.Gives a b t) :
    b.isSentinel = false := by
  cases h with
  | logical _ _ h => exact Ty.isSentinel_of_bare h
  | real _ _ h _ => exact h.isSentinel
  | integer _ _ h => exact Ty.isSentinel_of_bare h
  | divide _ h => exact h.isSentinel
  | whole _ _ h => exact Ty.isSentinel_of_bare h
  | compare _ h =>
    cases h with
    | alike _ h _ => exact h.isSentinel
    | _ _ h => exact Ty.isSentinel_of_bare h

theorem comparesWith_iff (a b : Ty) :
    comparesWith a b = true ↔ a.Simple ∨ a.bare = .string ∧ b.bare = .char := by
  simp [comparesWith, Ty.isSimple_iff]

theorem comparable_iff (a b : Ty) :
    comparable a b = true ↔
      a.equiv b = true ∨ (a.bare = .real ∧ b.bare = .integer ∨ a.bare = .integer ∧ b.bare = .real) ∨
        (a.bare = .char ∧ b.bare = .string ∨ a.bare = .string ∧ b.bare = .char) := by
  simp [comparable, or_assoc]

theorem judgeRelational_of_comparable {a b : Ty} (h : a.Comparable b) :
    judgeRelational a b = ⟨.boolean, []⟩ := by
  have hleft : comparesWith a b = true := by
    rw [comparesWith_iff]
    cases h <;> simp_all [Ty.Simple, Ty.Ordinal]
  have hright : comparesWith b a = true := by
    rw [comparesWith_iff]
    cases h <;> simp_all [Ty.Simple, Ty.Ordinal]
  have hboth : comparable a b = true := by
    rw [comparable_iff]
    cases h <;> simp_all
  simp [judgeRelational, hleft, hright, hboth]

theorem comparable_of_judgeRelational {a b : Ty} (h : (judgeRelational a b).faults = []) :
    a.Comparable b := by
  unfold judgeRelational at h
  split at h
  . cases h
  split at h
  . cases h
  split at h
  . next hleft hright hboth =>
    simp only [Bool.not_eq_true', Bool.not_eq_false, comparesWith_iff] at hleft hright
    rw [comparable_iff] at hboth
    obtain hequiv | (⟨ha, hb⟩ | ⟨ha, hb⟩) | ⟨ha, hb⟩ | ⟨ha, hb⟩ := hboth
    . cases hleft with
      | inl ha =>
        cases hright with
        | inl hb => exact .alike ha hb hequiv
        | inr hb => exact .charString hb.2 hb.1
      | inr ha => exact .stringChar ha.1 ha.2
    . exact .realInteger ha hb
    . exact .integerReal ha hb
    . exact .charString ha hb
    . exact .stringChar ha hb
  . cases h

theorem judge_eq {op : BinaryOp} {a b : Ty} (ha : a.isSentinel = false) (hb : b.isSentinel = false) :
    op.judge a b =
      if op = .or ∨ op = .and then judgeLogical a b
      else if op.precedence = .relational then judgeRelational a b
      else judgeArithmetic op a b := by
  rw [Ty.isSentinel_eq_false_iff] at ha hb
  cases op <;> simp [judge, precedence, ha, hb]

theorem judge_of_gives {op : BinaryOp} {a b t : Ty} (h : op.Gives a b t) :
    op.judge a b = ⟨t, []⟩ := by
  rw [judge_eq h.left_isSentinel h.right_isSentinel]
  cases h with
  | logical hop ha hb =>
    rw [← Ty.isBoolean_iff] at ha hb
    rw [if_pos hop.symm]
    simp [judgeLogical, ha, hb]
  | real hop ha hb hreal =>
    rw [← Ty.isNumeric_iff] at ha hb
    obtain rfl | rfl | rfl := hop <;> simp [precedence, judgeArithmetic, ha, hb, hreal]
  | integer hop ha hb =>
    have hna : a.isNumeric = true := (Ty.isNumeric_iff a).mpr (.inl ha)
    have hnb : b.isNumeric = true := (Ty.isNumeric_iff b).mpr (.inl hb)
    obtain rfl | rfl | rfl := hop <;> simp [precedence, judgeArithmetic, hna, hnb, ha, hb]
  | divide ha hb =>
    rw [← Ty.isNumeric_iff] at ha hb
    simp [precedence, judgeArithmetic, ha, hb]
  | whole hop ha hb =>
    have hna : a.isNumeric = true := (Ty.isNumeric_iff a).mpr (.inl ha)
    have hnb : b.isNumeric = true := (Ty.isNumeric_iff b).mpr (.inl hb)
    obtain rfl | rfl := hop <;> simp [precedence, judgeArithmetic, hna, hnb, ha, hb]
  | compare hop hab =>
    have hlogical : ¬ (op = .or ∨ op = .and) := by
      rintro (rfl | rfl) <;> cases hop
    rw [if_neg hlogical, if_pos hop]
    exact judgeRelational_of_comparable hab

theorem gives_of_judgeLogical {op : BinaryOp} {a b : Ty} (hop : op = .or ∨ op = .and)
    (h : (judgeLogical a b).faults = []) : op.Gives a b (judgeLogical a b).type := by
  have hab : a.bare = .boolean ∧ b.bare = .boolean := by
    simpa [judgeLogical] using h
  have htype : (judgeLogical a b).type = .boolean := by
    simp [judgeLogical, hab]
  rw [htype]
  exact .logical hop.symm hab.1 hab.2

theorem gives_of_judgeArithmetic {op : BinaryOp} {a b : Ty} (hlogical : ¬ (op = .or ∨ op = .and))
    (hop : op.precedence ≠ .relational) (h : (judgeArithmetic op a b).faults = []) :
    op.Gives a b (judgeArithmetic op a b).type := by
  have ha : a.Numeric := by
    rw [← Ty.isNumeric_iff]
    by_contra hn
    rw [Bool.not_eq_true] at hn
    simp [judgeArithmetic, hn] at h
  have hb : b.Numeric := by
    rw [← Ty.isNumeric_iff]
    by_contra hn
    rw [Bool.not_eq_true] at hn
    simp [judgeArithmetic, (Ty.isNumeric_iff a).mpr ha, hn] at h
  have hna := (Ty.isNumeric_iff a).mpr ha
  have hnb := (Ty.isNumeric_iff b).mpr hb
  -- The three operators whose type depends on their operands, in one.
  have hsum (hsum : op = .add ∨ op = .subtract ∨ op = .multiply) :
      op.Gives a b (if a.isReal || b.isReal then .real else .integer) := by
    by_cases hreal : a.bare = .real ∨ b.bare = .real
    . simpa [hreal] using Gives.real hsum ha hb hreal
    . rw [not_or] at hreal
      simpa [hreal] using
        Gives.integer hsum (ha.resolve_right hreal.1) (hb.resolve_right hreal.2)
  cases op with
  | add => simpa [judgeArithmetic, hna, hnb] using hsum (by simp)
  | subtract => simpa [judgeArithmetic, hna, hnb] using hsum (by simp)
  | multiply => simpa [judgeArithmetic, hna, hnb] using hsum (by simp)
  | divide => simpa [judgeArithmetic, hna, hnb] using Gives.divide ha hb
  | div =>
    have hab : a.bare = .integer ∧ b.bare = .integer := by
      simpa [judgeArithmetic, hna, hnb] using h
    simpa [judgeArithmetic, hna, hnb] using Gives.whole (.inl rfl) hab.1 hab.2
  | mod =>
    have hab : a.bare = .integer ∧ b.bare = .integer := by
      simpa [judgeArithmetic, hna, hnb] using h
    simpa [judgeArithmetic, hna, hnb] using Gives.whole (.inr rfl) hab.1 hab.2
  | or => exact absurd (.inl rfl) hlogical
  | and => exact absurd (.inr rfl) hlogical
  | _ => exact absurd rfl hop

theorem gives_of_judge {op : BinaryOp} {a b : Ty} (ha : a.isSentinel = false)
    (hb : b.isSentinel = false) (h : (op.judge a b).faults = []) :
    op.Gives a b (op.judge a b).type := by
  rw [judge_eq ha hb] at h ⊢
  split at h
  . next hop =>
    rw [if_pos hop]
    exact gives_of_judgeLogical hop h
  . next hlogical =>
    rw [if_neg hlogical]
    split at h
    . next hop =>
      rw [if_pos hop]
      have hab := comparable_of_judgeRelational h
      rw [judgeRelational_of_comparable hab]
      exact .compare hop hab
    . next hop =>
      rw [if_neg hop]
      exact gives_of_judgeArithmetic hlogical hop h

end BinaryOp

end PascalCheck
