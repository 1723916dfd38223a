import Mathlib.Algebra.Order.Field.Rat
import Mathlib.Data.Finite.Prod
import Mathlib.Data.Int.Interval
import Mathlib.Data.Set.Finite.Lemmas
import Mathlib.Tactic.Linarith
import Mathlib.Tactic.NormNum
import PascalCheck.Proofs.Constants
import PascalCheck.Proofs.Numeral.Digits

/-!
The range of integer constants. Whether a constant is an integer is found by reading it into 32
bits, whether it may have a sign by reading it as a double. Rounding to a double moves no integer
into the range and none out of it, so the tests agree.
-/

namespace PascalCheck

namespace Numeral

def IsDouble (x : ℚ) : Prop :=
  ∃ m q : ℤ, |m| < 2 ^ 53 ∧ -1074 ≤ q ∧ q ≤ 971 ∧ x = m * 2 ^ q

/--
A number that is not negative is rounded to `x`, one of the doubles nearest to it. It is rounded to
infinity from halfway between the greatest double and the power of two above it on.
-/
structure RoundsTo (n : ℚ) (x : WithTop ℚ) : Prop where
  infinite : x = ⊤ ↔ 2 ^ 1024 - 2 ^ 970 ≤ n
  nearest : ∀ y : ℚ, x = y → IsDouble y ∧ ∀ z, IsDouble z → |n - y| ≤ |n - z|

def Bounds.Holds (b : Bounds) (x : WithTop ℚ) : Prop :=
  ((b.least : ℚ) : WithTop ℚ) ≤ x ∧ x ≤ ((b.greatest : ℚ) : WithTop ℚ)

theorem finite_isDouble : {x | IsDouble x}.Finite := by
  have hfinite : (Set.image2 (fun m q : ℤ => (m * 2 ^ q : ℚ)) (Set.Ioo (-2 ^ 53) (2 ^ 53))
      (Set.Icc (-1074) 971)).Finite :=
    Set.Finite.image2 _ (Set.finite_Ioo _ _) (Set.finite_Icc _ _)
  apply hfinite.subset
  rintro x ⟨m, q, hm, hleast, hgreatest, rfl⟩
  exact ⟨m, abs_lt.mp hm, q, ⟨hleast, hgreatest⟩, rfl⟩

theorem isDouble_natCast {n : ℕ} (h : n < 2 ^ 53) : IsDouble n := by
  refine ⟨n, 0, ?_, by decide, by decide, by simp⟩
  rw [Nat.abs_cast]
  exact_mod_cast h

theorem exists_roundsTo (n : ℚ) : ∃ x, RoundsTo n x := by
  by_cases hinfinite : 2 ^ 1024 - 2 ^ 970 ≤ n
  . exact ⟨⊤, iff_of_true rfl hinfinite, fun y hy => absurd hy.symm WithTop.coe_ne_top⟩
  . have hzero : IsDouble 0 := by exact_mod_cast isDouble_natCast (n := 0) (by decide)
    obtain ⟨y, hy, hnearest⟩ :=
      Set.exists_min_image {x | IsDouble x} (fun x => |n - x|) finite_isDouble ⟨0, hzero⟩
    refine ⟨y, iff_of_false WithTop.coe_ne_top hinfinite, fun x hx => ?_⟩
    rw [← WithTop.coe_inj.mp hx]
    exact ⟨hy, hnearest⟩

namespace RoundsTo

variable {n : ℕ} {x : WithTop ℚ}

theorem eq_natCast (h : RoundsTo n x) (hn : n < 2 ^ 53) : x = (n : ℚ) := by
  have hn' : (n : ℚ) < 2 ^ 53 := by exact_mod_cast hn
  have hsmall : (2 : ℚ) ^ 53 ≤ 2 ^ 970 := pow_le_pow_right₀ (by norm_num) (by norm_num)
  have hlarge : (2 : ℚ) ^ 970 + 2 ^ 970 ≤ 2 ^ 1024 := by
    rw [← two_mul, ← pow_succ']
    exact pow_le_pow_right₀ (by norm_num) (by norm_num)
  have hfinite : x ≠ ⊤ := by
    rw [Ne, h.infinite, not_le]
    exact hn'.trans_le (hsmall.trans (le_sub_iff_add_le.mpr hlarge))
  obtain ⟨y, rfl⟩ := WithTop.ne_top_iff_exists.mp hfinite
  have hnearest := (h.nearest y rfl).2 n (isDouble_natCast hn)
  rw [sub_self, abs_zero, abs_nonpos_iff, sub_eq_zero] at hnearest
  rw [hnearest]

theorem not_le_greatest (h : RoundsTo n x) (hn : 2147483648 ≤ n) :
    ¬ x ≤ ((2147483647 : ℚ) : WithTop ℚ) := by
  -- Between the greatest integer and the numbers above it there is a double: the least of them.
  intro hx
  obtain ⟨y, rfl⟩ := WithTop.ne_top_iff_exists.mp (ne_top_of_le_ne_top WithTop.coe_ne_top hx)
  have hy : y ≤ 2147483647 := WithTop.coe_le_coe.mp hx
  have hn' : (2147483648 : ℚ) ≤ n := by exact_mod_cast hn
  have hdouble : IsDouble 2147483648 := by
    exact_mod_cast isDouble_natCast (n := 2147483648) (by decide)
  have hnearest := (h.nearest y rfl).2 2147483648 hdouble
  rw [abs_of_nonneg (by linarith), abs_of_nonneg (by linarith)] at hnearest
  linarith

theorem holds_integer_iff (h : RoundsTo n x) : Bounds.integer.Holds x ↔ n ≤ 2147483647 := by
  have hgreatest : ((Bounds.integer.greatest : ℚ)) = 2147483647 := by norm_num [Bounds.integer]
  have hleast : ((Bounds.integer.least : ℚ)) = -2147483648 := by norm_num [Bounds.integer]
  rw [Bounds.Holds, hgreatest, hleast]
  constructor
  . rintro ⟨-, hx⟩
    by_contra hn
    exact h.not_le_greatest (by omega) hx
  . intro hn
    have hn' : (n : ℚ) ≤ 2147483647 := by exact_mod_cast hn
    have hpos : (0 : ℚ) ≤ n := n.cast_nonneg
    rw [h.eq_natCast (by omega), WithTop.coe_le_coe, WithTop.coe_le_coe]
    exact ⟨by linarith, hn'⟩

end RoundsTo

end Numeral

theorem Problem.message_signedOutOfRange (constant : String) :
    (Problem.signedOutOfRange constant .integer).message = "constant '" ++ constant ++
      "' is out of range, it must be between -2147483648 and 2147483647" := by
  have hrange : "' " ++ rangeText .integer =
      "' is out of range, it must be between -2147483648 and 2147483647" := by decide +kernel
  rw [← hrange, ← String.append_assoc]
  rfl

namespace Const

variable (scope : Scope) (info info' : Info) (sign : Token Sign) (lexeme : Token String)

theorem check_signed_integer :
    check scope (.signed info' sign (.integer info lexeme)) =
      (if Numeral.withinBounds .integer lexeme.value then check scope (.integer info lexeme)
        else (check scope (.integer info lexeme)).reject info'.span
          (.signedOutOfRange (sign.value.text ++ lexeme.value) .integer) .invalidConstant).record
        info' := by
  simp only [check, applySign, Scope.bounds_eq]

theorem integer_range_agrees (h : Numeral.IsDigits lexeme.value) :
    (check scope (.integer info lexeme)).findings.diagnostics = [] ∧
    ((check scope (.integer info lexeme)).type = .integer ↔
      Numeral.value lexeme.value ≤ 2147483647 ∧ Numeral.value lexeme.value ≠ 0 ∨
        lexeme.value = "0") ∧
    ((check scope (.integer info lexeme)).type = .integer ∨
      (check scope (.integer info lexeme)).type = .invalidConstant) ∧
    (check scope (.signed info' sign (.integer info lexeme))).type =
      (check scope (.integer info lexeme)).type ∧
    (check scope (.signed info' sign (.integer info lexeme))).findings.diagnostics =
      (if Numeral.value lexeme.value ≤ 2147483647 then []
        else [.error info'.span (.signedOutOfRange (sign.value.text ++ lexeme.value) .integer)]) ∧
    (Problem.signedOutOfRange (sign.value.text ++ lexeme.value) .integer).message =
      "constant '" ++ (sign.value.text ++ lexeme.value) ++
        "' is out of range, it must be between -2147483648 and 2147483647" ∧
    (∃ x, Numeral.RoundsTo (Numeral.value lexeme.value) x) ∧
    ∀ x, Numeral.RoundsTo (Numeral.value lexeme.value) x →
      (Numeral.withinBounds .integer lexeme.value = true ↔ Numeral.Bounds.integer.Holds x) := by
  have hlexeme : (check scope (.integer info lexeme)).type =
      if Numeral.isInteger lexeme.value then .integer else .invalidConstant := rfl
  refine ⟨rfl, ?_, ?_, ?_, ?_, Problem.message_signedOutOfRange _, Numeral.exists_roundsTo _, ?_⟩
  . rw [hlexeme, ← h.isInteger_iff]
    split <;> simp [*]
  . rw [hlexeme]
    split <;> simp
  . rw [check_signed_integer]
    split
    . rfl
    next hout =>
      rw [hlexeme, if_neg]
      . rfl
      . exact mt h.withinBounds_of_isInteger hout
  . rw [check_signed_integer]
    simp only [h.withinBounds_iff]
    split <;> rfl
  . intro x hx
    rw [hx.holds_integer_iff, h.withinBounds_iff]

end Const

namespace Sample

def beyondRange : Const :=
  -- `-02147483648`
  .signed (node 0) ⟨node 1, .minus⟩ (.integer (node 2) ⟨node 3, "02147483648"⟩)

theorem beyondRange_reported :
    Numeral.IsDigits "02147483648" ∧
    (beyondRange.check .empty).type = .invalidConstant ∧
    (beyondRange.check .empty).findings.diagnostics =
      [.error (.point 1 0) (.signedOutOfRange "-02147483648" .integer)] ∧
    ∀ x, Numeral.RoundsTo 2147483648 x → ¬ Numeral.Bounds.integer.Holds x := by
  have hdigits : Numeral.IsDigits "02147483648" := ⟨by decide, List.all_eq_true.mp (by decide)⟩
  obtain ⟨-, -, -, htype, hdiagnostics, -, -, hdouble⟩ :=
    Const.integer_range_agrees .empty (node 2) (node 0) ⟨node 1, .minus⟩ ⟨node 3, "02147483648"⟩
      hdigits
  refine ⟨hdigits, htype, hdiagnostics, fun x hx => ?_⟩
  rw [← hdouble x (by exact_mod_cast hx)]
  decide

end Sample

end PascalCheck
