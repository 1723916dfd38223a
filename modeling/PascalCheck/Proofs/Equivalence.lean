import PascalCheck.Proofs.Induction
import PascalCheck.Types.Equiv

/-!
Equivalence of types as a relation. A type is equivalent to another one if that one is plain and both
have the same core, so the relation is transitive, and an equivalence on plain types.
-/

namespace PascalCheck.Ty

mutual

/--
Neither a parameter nor an overload set. What a file holds is plain too, and so is what each parameter
of a routine stands for; the result of a function does not matter.
-/
def isPlain : Ty → Bool
  | .primitive _ | .sentinel _ => true
  | .file _ component => component.isPlain
  | .procedure _ params | .function _ params _ => arePlainParams params
  | .parameter _ _ _ _ | .overload _ _ => false

def arePlainParams : List Ty → Bool
  | [] => true
  | .parameter _ _ _ type :: params => type.isPlain && arePlainParams params
  | _ :: _ => false

end

mutual

/-- What is compared of a type: parameters are looked through, tags, roles and results are left out. -/
def core : Ty → Ty
  | .primitive p => .primitive p
  | .sentinel s => .sentinel s
  | .file _ component => .file 0 component.core
  | .parameter _ _ _ type => type.core
  | .procedure _ params => .procedure 0 (coreParams params)
  | .function _ params _ => .function 0 (coreParams params) .undefined
  | .overload _ _ => .overload 0 []

-- What is no parameter gets the core of an overload set, which no plain type has.
def coreParams : List Ty → List Ty
  | [] => []
  | .parameter _ _ mode type :: params => .parameter 0 .formal mode type.core :: coreParams params
  | _ :: params => .overload 0 [] :: coreParams params

end

theorem equivParams_iff {ps qs : List Ty}
    (ih : ∀ p ∈ ps, ∀ b : Ty, p.equiv b = true ↔ b.isPlain = true ∧ p.core = b.core) :
    equivParams ps qs = true ↔ arePlainParams qs = true ∧ coreParams ps = coreParams qs := by
  induction ps generalizing qs with
  | nil =>
    cases qs with
    | nil => simp [equivParams, arePlainParams]
    | cons q qs => cases q <;> simp [equivParams, coreParams]
  | cons p ps ihps =>
    rw [List.forall_mem_cons] at ih
    cases qs with
    | nil => cases p <;> simp [equivParams, coreParams]
    | cons q qs =>
      cases q with
      | parameter tag role n b =>
        cases p with
        | parameter tag' role' m a =>
          have hab := ih.1 b
          rw [equiv, core] at hab
          simp only [equivParams, arePlainParams, coreParams, Bool.and_eq_true, beq_iff_eq,
            List.cons.injEq, parameter.injEq, hab, ihps ih.2]
          grind
        | _ => simp [equivParams, coreParams]
      | _ => simp [equivParams, arePlainParams]

theorem equiv_iff (a b : Ty) : a.equiv b = true ↔ b.isPlain = true ∧ a.core = b.core := by
  induction a using Ty.induction generalizing b with
  | primitive p => cases b <;> simp [equiv, isPlain, core]
  | sentinel s => cases b <;> simp [equiv, isPlain, core]
  | file tag component ih =>
    cases b with
    | file tag' component' => simp [equiv, isPlain, core, ih]
    | _ => simp [equiv, isPlain, core]
  | parameter tag role mode type ih =>
    rw [equiv, core]
    exact ih b
  | procedure tag params ih =>
    cases b with
    | procedure tag' params' => simp [equiv, isPlain, core, equivParams_iff ih]
    | _ => simp [equiv, isPlain, core]
  | function tag params result ih _ =>
    cases b with
    | function tag' params' result' => simp [equiv, isPlain, core, equivParams_iff ih]
    | _ => simp [equiv, isPlain, core]
  | overload tag alternatives ih => cases b <;> simp [equiv, isPlain, core]

theorem equiv_self_iff (a : Ty) : a.equiv a = true ↔ a.isPlain = true := by
  simp [equiv_iff]

theorem equiv_trans {a b c : Ty} (hab : a.equiv b = true) (hbc : b.equiv c = true) :
    a.equiv c = true := by
  rw [equiv_iff] at hab hbc ⊢
  exact ⟨hbc.1, hab.2.trans hbc.2⟩

theorem isPlain_of_equiv {a b : Ty} (hab : a.equiv b = true) : b.isPlain = true :=
  ((equiv_iff a b).mp hab).1

theorem equiv_symm {a b : Ty} (ha : a.isPlain = true) (hab : a.equiv b = true) :
    b.equiv a = true := by
  rw [equiv_iff] at hab ⊢
  exact ⟨ha, hab.2.symm⟩

theorem equiv_is_equivalence_on_plain (a b c : Ty) :
    (a.equiv b = true → b.equiv c = true → a.equiv c = true) ∧
    (a.equiv b = true → b.equiv b = true) ∧
    (a.equiv b = true → a.equiv a = true → b.equiv a = true) ∧
    (a.equiv a = true ↔ a.isPlain = true) ∧
    Equivalence fun s t : { t : Ty // t.isPlain = true } => s.val.equiv t.val = true := by
  refine ⟨equiv_trans, ?_, ?_, equiv_self_iff a, ?_, ?_, equiv_trans⟩
  . intro hab
    exact (equiv_self_iff b).mpr (isPlain_of_equiv hab)
  . intro hab ha
    exact equiv_symm ((equiv_self_iff a).mp ha) hab
  . intro t
    exact (equiv_self_iff t.val).mpr t.property
  . intro s t hst
    exact equiv_symm s.property hst

end PascalCheck.Ty

namespace PascalCheck.Sample

def passedProcedure : Ty :=
  .parameter 4 .actual .var
    (.procedure 3 [.parameter 2 .formal .var (.file 1 (.parameter 0 .formal .value .char))])

def fileProcedure (tag : Nat) (role : Role) : Ty :=
  .procedure (tag + 2) [.parameter (tag + 1) role .var (.file tag .char)]

theorem passedProcedure_equiv :
    passedProcedure.equiv (fileProcedure 9 .actual) = true ∧
    passedProcedure.equiv (fileProcedure 5 .formal) = true ∧
    (fileProcedure 5 .formal).equiv (fileProcedure 9 .actual) = true ∧
    passedProcedure.equiv passedProcedure = false := by
  have hpassed : passedProcedure.equiv (fileProcedure 9 .actual) = true := by decide
  have hprocedure : (fileProcedure 9 .actual).equiv (fileProcedure 5 .formal) = true := by decide
  obtain ⟨htrans, hright, -, hself, -⟩ := Ty.equiv_is_equivalence_on_plain passedProcedure
    (fileProcedure 9 .actual) (fileProcedure 5 .formal)
  obtain ⟨-, -, hsymm, -, -⟩ := Ty.equiv_is_equivalence_on_plain
    (fileProcedure 9 .actual) (fileProcedure 5 .formal) passedProcedure
  refine ⟨hpassed, htrans hpassed hprocedure, hsymm hprocedure (hright hpassed), ?_⟩
  rw [Bool.eq_false_iff, ne_eq, hself]
  decide

end PascalCheck.Sample
