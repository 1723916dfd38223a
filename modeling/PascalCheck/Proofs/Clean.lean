import PascalCheck.Check.Findings
import PascalCheck.Check.Operator
import PascalCheck.Proofs.Frames
import PascalCheck.Proofs.Induction

/-!
Types that hold no sentinel at any depth, scopes that bind only such types, and the classes of types
that operators ask for, read off what is left of a type without its parameter wrappers.
-/

namespace PascalCheck

namespace Ty

def isSentinel : Ty → Bool
  | .sentinel _ => true
  | _ => false

def isBuiltIn : Ty → Bool
  | .primitive _ | .sentinel _ => true
  | _ => false

mutual

def isClean : Ty → Bool
  | .primitive _ => true
  | .sentinel _ => false
  | .file _ component => component.isClean
  | .parameter _ _ _ type => type.isClean
  | .procedure _ params => allClean params
  | .function _ params result => allClean params && result.isClean
  | .overload _ alternatives => allClean alternatives

def allClean : List Ty → Bool
  | [] => true
  | t :: ts => t.isClean && allClean ts

end

def isUniform : Ty → Bool
  | .overload _ alternatives => alternatives.all isFunction || alternatives.all isProcedure
  | _ => true

def bare : Ty → Ty
  | .parameter _ _ _ type => type.bare
  | t => t

def Numeric (t : Ty) : Prop :=
  t.bare = .integer ∨ t.bare = .real

def Ordinal (t : Ty) : Prop :=
  t.bare = .integer ∨ t.bare = .char ∨ t.bare = .boolean

def Simple (t : Ty) : Prop :=
  t.Ordinal ∨ t.bare = .real

theorem allClean_iff (ts : List Ty) : allClean ts = true ↔ ∀ t ∈ ts, t.isClean = true := by
  induction ts with
  | nil => simp [allClean]
  | cons t ts ih => simp [allClean, ih]

theorem isSentinel_eq_false_of_isClean {t : Ty} (h : t.isClean = true) : t.isSentinel = false := by
  cases t <;> simp_all [isClean, isSentinel]

theorem isError_eq_false {t : Ty} (h : t.isSentinel = false) : t.isError = false := by
  cases t <;> simp_all [isSentinel, isError]

theorem isInvalidConstant_iff (t : Ty) :
    t.isInvalidConstant = true ↔ t = .invalidConstant := by
  cases t with
  | sentinel s => cases s <;> simp [isInvalidConstant]
  | _ => simp [isInvalidConstant]

theorem isInvalidConstant_eq_false {t : Ty} (h : t.isSentinel = false) :
    t.isInvalidConstant = false := by
  cases t <;> simp_all [isSentinel, isInvalidConstant]

theorem isSentinel_eq_false_iff (t : Ty) :
    t.isSentinel = false ↔ t.isError = false ∧ t.isInvalidConstant = false := by
  constructor
  . intro h
    exact ⟨isError_eq_false h, isInvalidConstant_eq_false h⟩
  . rintro ⟨he, hc⟩
    cases t with
    | sentinel s => cases s <;> simp_all [isError, isInvalidConstant]
    | _ => rfl

theorem isClean_of_result {t r : Ty} (h : t.isClean = true) (hr : t.result? = some r) :
    r.isClean = true := by
  cases t with
  | function tag params result =>
    rw [isClean, Bool.and_eq_true] at h
    injection hr with hr
    rw [← hr]
    exact h.2
  | _ => cases hr

theorem isClean_of_mem_alternatives {tag : Nat} {alternatives : List Ty} {t : Ty}
    (h : (Ty.overload tag alternatives).isClean = true) (ht : t ∈ alternatives) :
    t.isClean = true := by
  rw [isClean, allClean_iff] at h
  exact h t ht

theorem equiv_primitive_iff (t : Ty) (p : Primitive) :
    t.equiv (.primitive p) = true ↔ t.bare = .primitive p := by
  fun_induction bare t with
  | case1 tag role mode type ih =>
    rw [equiv]
    exact ih
  | case2 t h => cases t <;> simp_all [equiv]

@[simp]
theorem isInteger_iff (t : Ty) : t.isInteger = true ↔ t.bare = .integer :=
  equiv_primitive_iff t .integer

@[simp]
theorem isReal_iff (t : Ty) : t.isReal = true ↔ t.bare = .real :=
  equiv_primitive_iff t .real

@[simp]
theorem isChar_iff (t : Ty) : t.isChar = true ↔ t.bare = .char :=
  equiv_primitive_iff t .char

@[simp]
theorem isBoolean_iff (t : Ty) : t.isBoolean = true ↔ t.bare = .boolean :=
  equiv_primitive_iff t .boolean

@[simp]
theorem isString_iff (t : Ty) : t.isString = true ↔ t.bare = .string :=
  equiv_primitive_iff t .string

theorem isNumeric_iff (t : Ty) : t.isNumeric = true ↔ t.Numeric := by
  simp [isNumeric, Numeric]

theorem isOrdinal_iff (t : Ty) : t.isOrdinal = true ↔ t.Ordinal := by
  simp [isOrdinal, Ordinal, or_assoc]

theorem isSimple_iff (t : Ty) : t.isSimple = true ↔ t.Simple := by
  simp [isSimple, Simple, isOrdinal_iff]

end Ty

namespace BinaryOp

theorem judgeLogical_isBuiltIn (left right : Ty) :
    (judgeLogical left right).type.isBuiltIn = true := by
  rw [judgeLogical, apply_ite Ty.isBuiltIn]
  simp [Ty.isBuiltIn]

theorem judgeRelational_isBuiltIn (left right : Ty) :
    (judgeRelational left right).type.isBuiltIn = true := by
  unfold judgeRelational
  split
  . rfl
  . split
    . rfl
    . split <;> rfl

theorem judgeArithmetic_isBuiltIn (op : BinaryOp) (left right : Ty) :
    (judgeArithmetic op left right).type.isBuiltIn = true := by
  unfold judgeArithmetic
  split
  . rfl
  . split
    . rfl
    . split
      . rfl
      . rfl
      . rfl
      . rw [apply_ite Ty.isBuiltIn]
        simp [Ty.isBuiltIn]

theorem judge_isBuiltIn (op : BinaryOp) (left right : Ty) :
    (op.judge left right).type.isBuiltIn = true := by
  unfold judge
  split
  . rfl
  . split
    . rfl
    . split
      . apply judgeLogical_isBuiltIn
      . apply judgeLogical_isBuiltIn
      . split
        . apply judgeRelational_isBuiltIn
        . apply judgeArithmetic_isBuiltIn
        . apply judgeArithmetic_isBuiltIn

end BinaryOp

namespace Scope

def entries (scope : Scope) : List Entry :=
  (scope.inner :: scope.outer).flatMap (·.entries)

structure Sound (scope : Scope) : Prop where
  clean : ∀ e ∈ scope.entries, e.type.isClean = true
  uniform : ∀ e ∈ scope.entries, e.type.isUniform = true

variable [Naming]

theorem mem_entries_of_get? {scope : Scope} {name : String} {e : Entry}
    (h : scope.get? name = some e) : e ∈ scope.entries := by
  unfold get? at h
  obtain ⟨frame, hframe, h⟩ := List.exists_of_findSome?_eq_some h
  unfold entries
  rw [List.mem_flatMap]
  rw [Frame.get?_eq_find?] at h
  exact ⟨frame, hframe, List.mem_of_find?_eq_some h⟩

theorem exists_entry_of_lookup? {scope : Scope} {name : String} {t : Ty}
    (h : scope.lookup? name = some t) : ∃ e ∈ scope.entries, e.type = t := by
  unfold lookup? at h
  obtain ⟨e, he, rfl⟩ := Option.map_eq_some_iff.mp h
  exact ⟨e, mem_entries_of_get? he, rfl⟩

theorem Sound.clean_of_lookup? {scope : Scope} (h : scope.Sound) {name : String} {t : Ty}
    (ht : scope.lookup? name = some t) : t.isClean = true := by
  obtain ⟨e, he, rfl⟩ := exists_entry_of_lookup? ht
  exact h.clean e he

theorem Sound.uniform_of_lookup? {scope : Scope} (h : scope.Sound) {name : String} {t : Ty}
    (ht : scope.lookup? name = some t) : t.isUniform = true := by
  obtain ⟨e, he, rfl⟩ := exists_entry_of_lookup? ht
  exact h.uniform e he

theorem bounds_eq (scope : Scope) : scope.bounds = .integer := by
  unfold bounds
  -- `maxint` may be bound to anything, but only integers have bounds.
  cases h : scope.lookup? "maxint" with
  | none => rfl
  | some t =>
    cases t with
    | primitive p => cases p <;> rfl
    | _ => rfl

end Scope

end PascalCheck
