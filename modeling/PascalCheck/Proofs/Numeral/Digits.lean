import Mathlib.Data.List.TakeWhile
import PascalCheck.Numeral.Decimal

/-!
Rows of digits. They can be read as integers of 32 bits and as decimals. Either way they stand for
the same number, but there is no integer if that number is too large.
-/

namespace PascalCheck.Numeral

section

variable {cs : List Char} (h : ∀ c ∈ cs, c.isDigit = true)

include h

theorem digitsValue?_of_isDigit : digitsValue? cs = some (Nat.ofDigitChars 10 cs 0) := by
  have hgo (acc : Nat) : digitsValue?.go cs acc = some (Nat.ofDigitChars 10 cs acc) := by
    induction cs generalizing acc with
    | nil => simp [digitsValue?.go]
    | cons c cs ih =>
      rw [List.forall_mem_cons] at h
      rw [digitsValue?.go, if_pos h.1, ih h.2, Nat.ofDigitChars_cons]
      rfl
  exact hgo 0

theorem splitSign_of_isDigit : splitSign cs = (false, cs) := by
  unfold splitSign
  split
  next => exact absurd (h '-' List.mem_cons_self) (by decide)
  next => exact absurd (h '+' List.mem_cons_self) (by decide)
  next => rfl

theorem map_toLower_of_isDigit : cs.map Char.toLower = cs := by
  have hlower : ∀ c ∈ cs, c.toLower = c := by
    intro c hc
    have hdigit := h c hc
    simp only [Char.isDigit, Bool.and_eq_true, decide_eq_true_eq, UInt32.le_iff_toNat_le] at hdigit
    apply dif_neg
    rintro ⟨hupper, -⟩
    exact absurd (hupper.trans hdigit.2) (by decide)
  exact (List.map_congr_left hlower).trans (List.map_id cs)

end

namespace Decimal

theorem readMagnitude?_of_isDigit {cs : List Char} (hne : cs ≠ [])
    (h : ∀ c ∈ cs, c.isDigit = true) (negative : Bool) :
    readMagnitude? negative cs = some (.finite negative (Nat.ofDigitChars 10 cs 0) 0) := by
  have hwhole : cs.takeWhile Char.isDigit = cs := List.takeWhile_eq_self_iff.mpr h
  have hrest : cs.dropWhile Char.isDigit = [] := List.dropWhile_eq_nil_iff.mpr h
  simp [readMagnitude?, hwhole, hrest, hne, digitsValue?_of_isDigit h]

theorem roundsToAtMost_zero_iff {b : Nat} (hb : b.log2 < 53) (n : Nat) :
    roundsToAtMost n 0 b = true ↔ n ≤ b := by
  -- No whole number is rounded down to one that has at most 53 bits.
  have hunit : 2 ^ b.log2 < 2 ^ 53 := Nat.pow_lt_pow_right (by decide) hb
  have hround : n * 2 ^ 53 ≤ b * 2 ^ 53 + 2 ^ b.log2 ↔ n ≤ b := by
    generalize 2 ^ b.log2 = unit at hunit
    omega
  unfold roundsToAtMost
  simp only [Nat.pow_eq, Nat.pow_zero, Nat.mul_one, hround, Bool.or_eq_true, beq_iff_eq,
    Bool.and_eq_true, decide_eq_true_eq]
  omega

end Decimal

structure IsDigits (s : String) : Prop where
  nonempty : s ≠ ""
  isDigit : ∀ c ∈ s.toList, c.isDigit = true

def value (s : String) : Nat :=
  Nat.ofDigitChars 10 s.toList 0

namespace IsDigits

variable {s : String} (h : IsDigits s)

include h

theorem toList_ne_nil : s.toList ≠ [] :=
  mt String.toList_eq_nil_iff.mp h.nonempty

theorem readInteger?_eq :
    readInteger? s = if value s ≤ 2147483647 then some (value s : Int) else none := by
  have hcontains : Bounds.integer.contains (value s) = true ↔ value s ≤ 2147483647 := by
    rw [Bounds.contains, Bool.and_eq_true, decide_eq_true_iff, decide_eq_true_iff]
    simp only [Bounds.integer]
    omega
  unfold readInteger?
  rw [splitSign_of_isDigit h.isDigit]
  simp only [List.isEmpty_iff, h.toList_ne_nil, digitsValue?_of_isDigit h.isDigit, if_false]
  exact if_congr hcontains rfl rfl

theorem exists_single (hsize : s.utf8ByteSize = 1) : ∃ c, s.toList = [c] := by
  obtain ⟨c, cs, hs⟩ := List.exists_cons_of_ne_nil h.toList_ne_nil
  rw [← String.ofList_toList (s := s), hs, String.ofList_cons, String.utf8ByteSize_append,
    String.utf8ByteSize_singleton] at hsize
  have hpos := c.utf8Size_pos
  have hrest : (String.ofList cs).utf8ByteSize = 0 := by omega
  rw [String.utf8ByteSize_eq_zero_iff, String.ofList_eq_empty_iff] at hrest
  exact ⟨c, by rw [hs, hrest]⟩

theorem value_of_single {c : Char} (hc : s.toList = [c]) :
    value s ≤ 2147483647 ∧ value s ≠ 0 ∨ s = "0" := by
  have hvalue : value s = c.toNat - 48 := by
    rw [value, hc, Nat.ofDigitChars_cons, Nat.ofDigitChars_nil]
    simp
  have hdigit := h.isDigit c (hc ▸ List.mem_singleton_self c)
  simp only [Char.isDigit, Bool.and_eq_true, decide_eq_true_eq, UInt32.le_iff_toNat_le] at hdigit
  have hleast : 48 ≤ c.toNat := hdigit.1
  have hgreatest : c.toNat ≤ 57 := hdigit.2
  by_cases hzero : c = '0'
  . right
    rw [← String.toList_inj, hc, hzero]
    rfl
  . left
    have hpos : c.toNat ≠ 48 := fun heq => hzero (Char.toNat_inj.mp heq)
    omega

theorem isInteger_iff :
    isInteger s = true ↔ value s ≤ 2147483647 ∧ value s ≠ 0 ∨ s = "0" := by
  have hread : (readInteger? s).getD 0 ≠ 0 ↔ value s ≤ 2147483647 ∧ value s ≠ 0 := by
    rw [h.readInteger?_eq]
    split <;> simp [*]
  rw [isInteger, Bool.or_eq_true, bne_iff_ne, hread, beq_iff_eq]
  constructor
  . rintro (hvalue | hsize)
    . exact .inl hvalue
    . obtain ⟨c, hc⟩ := h.exists_single hsize
      exact h.value_of_single hc
  . rintro (hvalue | rfl)
    . exact .inl hvalue
    . exact .inr rfl

theorem read?_eq : Decimal.read? s = some (.finite false (value s) 0) := by
  -- A word for a value that is not finite begins with a letter.
  have hword (word : String) (hletter : word.toList.all Char.isDigit = false) :
      s.toList ≠ word.toList := by
    intro heq
    rw [← heq, List.all_eq_false] at hletter
    obtain ⟨c, hc, hletter⟩ := hletter
    exact hletter (h.isDigit c hc)
  unfold Decimal.read?
  rw [splitSign_of_isDigit h.isDigit]
  simp only [map_toLower_of_isDigit h.isDigit]
  rw [if_neg, if_neg, Decimal.readMagnitude?_of_isDigit h.toList_ne_nil h.isDigit]
  . rfl
  . exact hword "nan" (by decide)
  . exact not_or.mpr ⟨hword "inf" (by decide), hword "infinity" (by decide)⟩

theorem withinBounds_iff : withinBounds .integer s = true ↔ value s ≤ 2147483647 := by
  rw [withinBounds, h.read?_eq]
  exact Decimal.roundsToAtMost_zero_iff (by decide) (value s)

theorem withinBounds_of_isInteger (hinteger : isInteger s = true) :
    withinBounds .integer s = true := by
  rw [h.withinBounds_iff]
  rcases h.isInteger_iff.mp hinteger with hvalue | rfl
  . exact hvalue.1
  . decide

end IsDigits

end PascalCheck.Numeral
