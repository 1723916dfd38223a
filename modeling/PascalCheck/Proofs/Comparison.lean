import PascalCheck.Proofs.Blocks
import PascalCheck.Proofs.Equivalence
import PascalCheck.Proofs.Sentinels

/-!
Comparisons and the order of their operands. Pairs of different types are compared in either order.
Equal types are compared by their equivalence, which looks through a parameter on the left only. So
a parameter and another operand of the same type are compared in one order and not in the other.
-/

namespace PascalCheck

namespace Ty

/-- `a` is a parameter, and what it stands for is the simple type `b`. -/
structure StandsFor (a b : Ty) : Prop where
  simple : b.Simple
  bare : a.bare = b
  ne : a ≠ b

theorem bare_bare (t : Ty) : t.bare.bare = t.bare := by
  fun_induction bare t with
  | case1 tag role mode type ih => exact ih
  | case2 t h =>
    rw [bare]
    exact h

theorem Simple.exists_primitive {t : Ty} (h : t.Simple) : ∃ p, t.bare = .primitive p := by
  obtain (h | h | h) | h := h <;> exact ⟨_, h⟩

theorem Simple.equiv_iff {b : Ty} (h : b.Simple) (a : Ty) : a.equiv b = true ↔ a.bare = b := by
  obtain ⟨p, hp⟩ := h.exists_primitive
  cases b with
  | primitive q => exact equiv_primitive_iff a q
  | parameter tag role mode type =>
    -- A parameter on the right is equivalent to nothing, and no bare type is a parameter.
    constructor
    . intro hequiv
      cases isPlain_of_equiv hequiv
    . intro hbare
      have hself := a.bare_bare
      rw [hbare, hp] at hself
      cases hself
  | _ => cases hp

variable {a b : Ty}

theorem StandsFor.simple_left (h : a.StandsFor b) : a.Simple := by
  have hbare : b.bare = b := by
    rw [← h.bare, bare_bare]
  have hsimple := h.simple
  unfold Simple Ordinal at hsimple ⊢
  rw [h.bare, ← hbare]
  exact hsimple

theorem Comparable.swap (h : a.Comparable b) (hab : ¬ a.StandsFor b) : b.Comparable a := by
  cases h with
  | alike ha hb hequiv =>
    rw [hb.equiv_iff] at hequiv
    have heq : a = b := by
      by_contra hne
      exact hab ⟨hb, hequiv, hne⟩
    subst heq
    exact .alike hb ha ((hb.equiv_iff a).mpr hequiv)
  | realInteger ha hb => exact .integerReal hb ha
  | integerReal ha hb => exact .realInteger hb ha
  | charString ha hb => exact .stringChar hb ha
  | stringChar ha hb => exact .charString hb ha

theorem StandsFor.comparable (h : a.StandsFor b) : a.Comparable b :=
  .alike h.simple_left h.simple ((h.simple.equiv_iff a).mpr h.bare)

theorem StandsFor.not_comparable (h : a.StandsFor b) : ¬ b.Comparable a := by
  have hbare : b.bare = a.bare := by
    rw [h.bare, ← h.bare, bare_bare]
  intro hba
  cases hba with
  | alike _ ha hequiv =>
    rw [ha.equiv_iff, hbare, h.bare] at hequiv
    exact h.ne hequiv.symm
  -- The other pairs are of different types.
  | _ hb ha =>
    rw [hbare, ha] at hb
    cases hb

theorem comparable_comm_iff (a b : Ty) :
    (a.Comparable b ↔ b.Comparable a) ↔ ¬ (a.StandsFor b ∨ b.StandsFor a) := by
  constructor
  . rintro hiff (h | h)
    . exact h.not_comparable (hiff.mp h.comparable)
    . exact h.not_comparable (hiff.mpr h.comparable)
  . intro h
    rw [not_or] at h
    exact ⟨fun hab => hab.swap h.1, fun hba => hba.swap h.2⟩

end Ty

namespace BinaryOp

variable {op : BinaryOp} {left right : Ty}

theorem judgeRelational_of_not_comparable (h : ¬ left.Comparable right) :
    (judgeRelational left right).type = .error ∧
      (judgeRelational left right).faults.length = 1 := by
  have hfaults : (judgeRelational left right).faults ≠ [] := mt comparable_of_judgeRelational h
  unfold judgeRelational at hfaults ⊢
  split
  . exact ⟨rfl, rfl⟩
  . split
    . exact ⟨rfl, rfl⟩
    . split
      . next hleft hright hboth => simp [hleft, hright, hboth] at hfaults
      . exact ⟨rfl, rfl⟩

theorem judgeRelational_of_standsFor (h : right.StandsFor left) :
    judgeRelational left right = ⟨.error, [.notComparable]⟩ := by
  have hleft : comparesWith left right = true := (comparesWith_iff left right).mpr (.inl h.simple)
  have hright : comparesWith right left = true :=
    (comparesWith_iff right left).mpr (.inl h.simple_left)
  have hboth : comparable left right = false := by
    rw [Bool.eq_false_iff]
    intro hboth
    apply h.not_comparable
    apply comparable_of_judgeRelational
    simp [judgeRelational, hleft, hright, hboth]
  simp [judgeRelational, hleft, hright, hboth]

theorem judge_of_relational (hop : op.precedence = .relational) (hleft : left.isSentinel = false)
    (hright : right.isSentinel = false) : op.judge left right = judgeRelational left right := by
  have hlogical : ¬ (op = .or ∨ op = .and) := by
    rintro (rfl | rfl) <;> cases hop
  rw [judge_eq hleft hright, if_neg hlogical, if_pos hop]

theorem judge_comm_of_sentinel (op : BinaryOp)
    (h : left.isSentinel = true ∨ right.isSentinel = true) :
    op.judge left right = op.judge right left := by
  unfold judge
  rw [Bool.or_comm left.isInvalidConstant, Bool.or_comm left.isError]
  split
  . rfl
  . split
    . rfl
    . next hinvalid herror =>
      simp only [Ty.isSentinel_iff] at h
      simp only [Bool.or_eq_true] at hinvalid herror
      grind

def verdict (op : BinaryOp) (left right : Ty) : Ty × Nat :=
  ((op.judge left right).type, (op.judge left right).faults.length)

theorem verdict_of_comparable (hop : op.precedence = .relational) (h : left.Comparable right) :
    op.verdict left right = (.boolean, 0) := by
  rw [verdict, judge_of_gives (.compare hop h)]
  rfl

theorem verdict_of_not_comparable (hop : op.precedence = .relational)
    (hleft : left.isSentinel = false) (hright : right.isSentinel = false)
    (h : ¬ left.Comparable right) : op.verdict left right = (.error, 1) := by
  obtain ⟨htype, hfaults⟩ := judgeRelational_of_not_comparable h
  rw [verdict, judge_of_relational hop hleft hright, htype, hfaults]

theorem verdict_comm_iff (hop : op.precedence = .relational) :
    op.verdict left right = op.verdict right left ↔
      ¬ (left.StandsFor right ∨ right.StandsFor left) := by
  by_cases hsentinel : left.isSentinel = true ∨ right.isSentinel = true
  . have hnone : ¬ (left.StandsFor right ∨ right.StandsFor left) := by
      rintro (h | h)
      . simp [h.simple_left.isSentinel, h.simple.isSentinel] at hsentinel
      . simp [h.simple_left.isSentinel, h.simple.isSentinel] at hsentinel
    simp [verdict, op.judge_comm_of_sentinel hsentinel, hnone]
  . rw [not_or, Bool.not_eq_true, Bool.not_eq_true] at hsentinel
    obtain ⟨hleft, hright⟩ := hsentinel
    rw [← Ty.comparable_comm_iff]
    by_cases hlr : left.Comparable right
    . by_cases hrl : right.Comparable left
      . simp [verdict_of_comparable hop hlr, verdict_of_comparable hop hrl, hlr, hrl]
      . simp [verdict_of_comparable hop hlr, verdict_of_not_comparable hop hright hleft hrl, hlr,
          hrl]
    . by_cases hrl : right.Comparable left
      . simp [verdict_of_not_comparable hop hleft hright hlr, verdict_of_comparable hop hrl, hlr,
          hrl]
      . simp [verdict_of_not_comparable hop hleft hright hlr,
          verdict_of_not_comparable hop hright hleft hrl, hlr, hrl]

end BinaryOp

namespace Expr

theorem check_binary (scope : Scope) (info : Info) (op : Token BinaryOp) (left right : Expr) :
    ((Expr.binary info op left right).check scope).type =
        (op.value.judge (left.check scope).type (right.check scope).type).type ∧
      ((Expr.binary info op left right).check scope).findings.diagnostics =
        (left.check scope).findings.diagnostics ++ (right.check scope).findings.diagnostics ++
          (op.value.judge (left.check scope).type (right.check scope).type).faults.map
            (faultDiagnostic info.span op.value left right (left.check scope).type
              (right.check scope).type) := by
  rw [check, Typing.diagnostics_record]
  exact ⟨rfl, rfl⟩

theorem comparison_order_matters_iff (scope : Scope) (op : Token BinaryOp)
    (hop : op.value.precedence = .relational) (info info' : Info) (a b : Expr) :
    (((Expr.binary info op a b).check scope).type = ((Expr.binary info' op b a).check scope).type ∧
        ((Expr.binary info op a b).check scope).findings.diagnostics.length =
          ((Expr.binary info' op b a).check scope).findings.diagnostics.length ↔
      ¬ ((a.check scope).type.StandsFor (b.check scope).type ∨
        (b.check scope).type.StandsFor (a.check scope).type)) ∧
    ((a.check scope).type.StandsFor (b.check scope).type →
      ((Expr.binary info op a b).check scope).type = .boolean ∧
      ((Expr.binary info op a b).check scope).findings.diagnostics =
        (a.check scope).findings.diagnostics ++ (b.check scope).findings.diagnostics ∧
      ((Expr.binary info' op b a).check scope).type = .error ∧
      ((Expr.binary info' op b a).check scope).findings.diagnostics =
        (b.check scope).findings.diagnostics ++ (a.check scope).findings.diagnostics ++
          [.error info'.span (.notComparable op.value (b.check scope).type.text
            (a.check scope).type.text)]) := by
  obtain ⟨htype, hdiagnostics⟩ := check_binary scope info op a b
  obtain ⟨htype', hdiagnostics'⟩ := check_binary scope info' op b a
  rw [htype, htype', hdiagnostics, hdiagnostics']
  constructor
  . rw [← BinaryOp.verdict_comm_iff hop, BinaryOp.verdict, BinaryOp.verdict, Prod.mk.injEq]
    simp only [List.length_append, List.length_map]
    constructor
    . rintro ⟨htypes, hlengths⟩
      exact ⟨htypes, by omega⟩
    . rintro ⟨htypes, hlengths⟩
      exact ⟨htypes, by omega⟩
  . intro h
    rw [BinaryOp.judge_of_gives (.compare hop h.comparable),
      BinaryOp.judge_of_relational hop h.simple.isSentinel h.simple_left.isSentinel,
      BinaryOp.judgeRelational_of_standsFor h]
    refine ⟨rfl, ?_, rfl, rfl⟩
    rw [List.map_nil, List.append_nil]

end Expr

namespace Sample

-- Evaluating a sample goes through the frame of all required names.
set_option maxRecDepth 2000

def parameterFirst : Expr :=
  -- `n = 1`
  .binary (node 0) ⟨node 1, .equal⟩ (.var (node 2) ⟨node 3, "n"⟩)
    (.const (node 4) (.integer (node 5) ⟨node 6, "1"⟩))

def parameterLast : Expr :=
  -- `1 = n`
  .binary (node 10) ⟨node 11, .equal⟩ (.const (node 14) (.integer (node 15) ⟨node 16, "1"⟩))
    (.var (node 12) ⟨node 13, "n"⟩)

def comparing : Routine :=
  -- `procedure q(n : integer); var b : boolean; begin b := n = 1; b := 1 = n end`
  .procedure (node 20) ⟨node 21, "q"⟩
    (some [⟨node 22, .value, [⟨node 23, "n"⟩], ⟨node 24, ⟨node 25, .integer⟩⟩⟩])
    (.mk (node 26) none
      (some ⟨node 27, [⟨node 28, [⟨node 29, "b"⟩], .named ⟨node 30, ⟨node 31, .boolean⟩⟩⟩]⟩) .absent
      ⟨node 32, .compound (node 33)
        [.assign (node 34) ⟨node 35, ⟨node 36, "b"⟩⟩ parameterFirst,
         .assign (node 37) ⟨node 38, ⟨node 39, "b"⟩⟩ parameterLast]⟩)

def ordering : Program :=
  -- `program p; procedure q(n : integer); ...; begin end.`
  ⟨node 40, ⟨node 41, ⟨node 42, "p"⟩, []⟩,
    .mk (node 43) none none (.present (node 44) [comparing]) ⟨node 45, .empty (node 46)⟩⟩

theorem parameterLast_reported :
    (∃ after, ordering.checkWith Required.table .empty = .ok after ∧ after.diagnostics =
      [.error (node 10).span (.notComparable .equal "integer" "integer")]) ∧
    ∃ c, ordering.block.Reaches (ordering.starting [] .empty) comparing.block c ∧
      (parameterFirst.check (comparing.block.declare c).scope).type = .boolean ∧
      (parameterFirst.check (comparing.block.declare c).scope).findings.diagnostics.length = 0 ∧
      (parameterLast.check (comparing.block.declare c).scope).type = .error ∧
      (parameterLast.check (comparing.block.declare c).scope).findings.diagnostics.length = 1 := by
  have hroutines : ordering.block.routines = [] ++ comparing :: [] := rfl
  refine ⟨⟨_, rfl, ?_⟩, _, .inside .start hroutines, rfl, rfl, rfl, rfl⟩
  simp only [Program.check_eq, Block.check_eq, Program.starting, Heading.check_eq]
  rfl

theorem parameterLast_misplaced :
    ((parameterFirst.check Sample.scope).type = .boolean ∧
      (parameterLast.check Sample.scope).type = .error) ∧
    (parameterLast.check Sample.scope).findings.diagnostics =
      [.error (node 10).span (.notComparable .equal "integer" "integer")] := by
  have hsimple : Ty.integer.Simple := .inl (.inl rfl)
  have hparameter : Ty.StandsFor (.parameter 7 .formal .value .integer) .integer :=
    ⟨hsimple, rfl, by simp⟩
  obtain ⟨-, hmatters⟩ := Expr.comparison_order_matters_iff Sample.scope ⟨node 1, .equal⟩ rfl
    (node 0) (node 10) (.var (node 2) ⟨node 3, "n"⟩)
    (.const (node 4) (.integer (node 5) ⟨node 6, "1"⟩))
  obtain ⟨hfirst, -, hlast, hreport⟩ := hmatters hparameter
  exact ⟨⟨hfirst, hlast⟩, hreport⟩

end Sample

end PascalCheck
