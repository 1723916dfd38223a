import PascalCheck.Check.Operator
import PascalCheck.Check.Findings
import PascalCheck.Proofs.Induction
import PascalCheck.Types.Text

/-!
Types with other tags. Nothing that is asked of a type depends on its tags, except whether it is the
same as another one.
-/

namespace PascalCheck

namespace Ty

mutual

def relabel (f : Nat → Nat) : Ty → Ty
  | .primitive p => .primitive p
  | .sentinel s => .sentinel s
  | .file tag component => .file (f tag) (component.relabel f)
  | .parameter tag role mode type => .parameter (f tag) role mode (type.relabel f)
  | .procedure tag params => .procedure (f tag) (relabelAll f params)
  | .function tag params result => .function (f tag) (relabelAll f params) (result.relabel f)
  | .overload tag alternatives => .overload (f tag) (relabelAll f alternatives)

def relabelAll (f : Nat → Nat) : List Ty → List Ty
  | [] => []
  | t :: ts => t.relabel f :: relabelAll f ts

end

mutual

def tags : Ty → List Nat
  | .primitive _ => []
  | .sentinel _ => []
  | .file tag component => tag :: component.tags
  | .parameter tag _ _ type => tag :: type.tags
  | .procedure tag params => tag :: allTags params
  | .function tag params result => tag :: (allTags params ++ result.tags)
  | .overload tag alternatives => tag :: allTags alternatives

def allTags : List Ty → List Nat
  | [] => []
  | t :: ts => t.tags ++ allTags ts

end

/-- What is left of a type if types are told apart by their structure only. -/
def form (t : Ty) : Ty :=
  t.relabel fun _ => 0

theorem relabelAll_eq_map (f : Nat → Nat) (ts : List Ty) :
    relabelAll f ts = ts.map (relabel f) := by
  induction ts with
  | nil => rfl
  | cons t ts ih => rw [relabelAll, ih, List.map_cons]

theorem allTags_eq_flatMap (ts : List Ty) : allTags ts = ts.flatMap tags := by
  induction ts with
  | nil => rfl
  | cons t ts ih => rw [allTags, ih, List.flatMap_cons]

theorem relabel_congr {f g : Nat → Nat} {t : Ty} (h : ∀ k ∈ t.tags, f k = g k) :
    t.relabel f = t.relabel g := by
  induction t using Ty.induction with
  | primitive p => rfl
  | sentinel s => rfl
  | file tag component ih =>
    simp only [tags, List.forall_mem_cons] at h
    rw [relabel, relabel, h.1, ih h.2]
  | parameter tag role mode type ih =>
    simp only [tags, List.forall_mem_cons] at h
    rw [relabel, relabel, h.1, ih h.2]
  | procedure tag params ih =>
    simp only [tags, allTags_eq_flatMap, List.forall_mem_cons, List.forall_mem_flatMap] at h
    rw [relabel, relabel, relabelAll_eq_map, relabelAll_eq_map, h.1]
    congr 1
    exact List.map_congr_left fun t ht => ih t ht (h.2 t ht)
  | function tag params result ih ihresult =>
    simp only [tags, allTags_eq_flatMap, List.forall_mem_cons, List.forall_mem_append,
      List.forall_mem_flatMap] at h
    rw [relabel, relabel, relabelAll_eq_map, relabelAll_eq_map, h.1, ihresult h.2.2]
    congr 1
    exact List.map_congr_left fun t ht => ih t ht (h.2.1 t ht)
  | overload tag alternatives ih =>
    simp only [tags, allTags_eq_flatMap, List.forall_mem_cons, List.forall_mem_flatMap] at h
    rw [relabel, relabel, relabelAll_eq_map, relabelAll_eq_map, h.1]
    congr 1
    exact List.map_congr_left fun t ht => ih t ht (h.2 t ht)

theorem relabel_relabel (f g : Nat → Nat) (t : Ty) :
    (t.relabel f).relabel g = t.relabel fun k => g (f k) := by
  induction t using Ty.induction with
  | primitive p => rfl
  | sentinel s => rfl
  | file tag component ih => rw [relabel, relabel, ih, relabel]
  | parameter tag role mode type ih => rw [relabel, relabel, ih, relabel]
  | procedure tag params ih =>
    simp only [relabel, relabelAll_eq_map, List.map_map]
    congr 1
    exact List.map_congr_left ih
  | function tag params result ih ihresult =>
    simp only [relabel, relabelAll_eq_map, List.map_map, ihresult]
    congr 1
    exact List.map_congr_left ih
  | overload tag alternatives ih =>
    simp only [relabel, relabelAll_eq_map, List.map_map]
    congr 1
    exact List.map_congr_left ih

theorem form_procedure (tag : Nat) (params : List Ty) :
    (Ty.procedure tag params).form = .procedure 0 (params.map form) :=
  congrArg (Ty.procedure 0) (relabelAll_eq_map _ params)

theorem form_function (tag : Nat) (params : List Ty) (result : Ty) :
    (Ty.function tag params result).form = .function 0 (params.map form) result.form :=
  congrArg (Ty.function 0 · result.form) (relabelAll_eq_map _ params)

theorem form_overload (tag : Nat) (alternatives : List Ty) :
    (Ty.overload tag alternatives).form = .overload 0 (alternatives.map form) :=
  congrArg (Ty.overload 0) (relabelAll_eq_map _ alternatives)

@[simp]
theorem relabel_primitive (f : Nat → Nat) (p : Primitive) :
    (Ty.primitive p).relabel f = .primitive p := rfl

@[simp]
theorem relabel_sentinel (f : Nat → Nat) (s : Sentinel) :
    (Ty.sentinel s).relabel f = .sentinel s := rfl

section

variable (f : Nat → Nat)

@[simp]
theorem isError_relabel (t : Ty) : (t.relabel f).isError = t.isError := by
  cases t <;> rfl

@[simp]
theorem isInvalidConstant_relabel (t : Ty) :
    (t.relabel f).isInvalidConstant = t.isInvalidConstant := by
  cases t <;> rfl

@[simp]
theorem isFunction_relabel (t : Ty) : (t.relabel f).isFunction = t.isFunction := by
  cases t <;> rfl

@[simp]
theorem bounds?_relabel (t : Ty) : (t.relabel f).bounds? = t.bounds? := by
  cases t <;> rfl

@[simp]
theorem parameter?_relabel (t : Ty) :
    (t.relabel f).parameter? = t.parameter?.map fun (mode, type) => (mode, type.relabel f) := by
  cases t <;> rfl

@[simp]
theorem result?_relabel (t : Ty) : (t.relabel f).result? = t.result?.map (relabel f) := by
  cases t <;> rfl

@[simp]
theorem params_relabel (t : Ty) : (t.relabel f).params = t.params.map (relabel f) := by
  cases t with
  | procedure tag params => exact relabelAll_eq_map f params
  | function tag params result => exact relabelAll_eq_map f params
  | _ => rfl

@[simp]
theorem alternatives?_relabel (t : Ty) :
    (t.relabel f).alternatives? = t.alternatives?.map (List.map (relabel f)) := by
  cases t with
  | overload tag alternatives => exact congrArg some (relabelAll_eq_map f alternatives)
  | _ => rfl

@[simp]
theorem routineKind?_relabel (t : Ty) : (t.relabel f).routineKind? = t.routineKind? := by
  cases t with
  | overload tag alternatives =>
    cases alternatives with
    | nil => rfl
    | cons t ts => cases t <;> rfl
  | _ => rfl

theorem equivParams_relabel (g : Nat → Nat) {ps : List Ty}
    (h : ∀ p ∈ ps, ∀ q : Ty, (p.relabel f).equiv (q.relabel g) = p.equiv q) (qs : List Ty) :
    equivParams (ps.map (relabel f)) (qs.map (relabel g)) = equivParams ps qs := by
  induction ps generalizing qs with
  | nil => cases qs <;> rfl
  | cons p ps ih =>
    rw [List.forall_mem_cons] at h
    cases qs with
    | nil => cases p <;> rfl
    | cons q qs =>
      cases p with
      | parameter tag role mode type =>
        cases q with
        | parameter tag' role' mode' type' =>
          have htype := h.1 type'
          rw [relabel, equiv, equiv] at htype
          simp only [List.map_cons, relabel, equivParams]
          rw [htype, ih h.2]
        | _ => rfl
      | _ => rfl

@[simp]
theorem equiv_relabel (g : Nat → Nat) (a b : Ty) :
    (a.relabel f).equiv (b.relabel g) = a.equiv b := by
  induction a using Ty.induction generalizing b with
  | primitive p => cases b <;> rfl
  | sentinel s => cases b <;> rfl
  | file tag component ih =>
    cases b with
    | file tag' component' =>
      simp only [relabel, equiv]
      exact ih component'
    | _ => rfl
  -- Only a parameter on the left is looked through, so `b` stays as it is.
  | parameter tag role mode type ih =>
    simp only [relabel, equiv]
    exact ih b
  | procedure tag params ih =>
    cases b with
    | procedure tag' params' =>
      simp only [relabel, relabelAll_eq_map, equiv]
      exact equivParams_relabel f g ih params'
    | _ => rfl
  | function tag params result ih _ =>
    cases b with
    | function tag' params' result' =>
      simp only [relabel, relabelAll_eq_map, equiv]
      exact equivParams_relabel f g ih params'
    | _ => rfl
  | overload tag alternatives _ => cases b <;> rfl

theorem equiv_primitive_relabel (t : Ty) (p : Primitive) :
    (t.relabel f).equiv (.primitive p) = t.equiv (.primitive p) := by
  rw [← relabel_primitive f p]
  apply equiv_relabel

@[simp]
theorem isInteger_relabel (t : Ty) : (t.relabel f).isInteger = t.isInteger :=
  equiv_primitive_relabel f t .integer

@[simp]
theorem isReal_relabel (t : Ty) : (t.relabel f).isReal = t.isReal :=
  equiv_primitive_relabel f t .real

@[simp]
theorem isChar_relabel (t : Ty) : (t.relabel f).isChar = t.isChar :=
  equiv_primitive_relabel f t .char

@[simp]
theorem isBoolean_relabel (t : Ty) : (t.relabel f).isBoolean = t.isBoolean :=
  equiv_primitive_relabel f t .boolean

@[simp]
theorem isString_relabel (t : Ty) : (t.relabel f).isString = t.isString :=
  equiv_primitive_relabel f t .string

@[simp]
theorem isNumeric_relabel (t : Ty) : (t.relabel f).isNumeric = t.isNumeric := by
  simp [isNumeric]

@[simp]
theorem isOrdinal_relabel (t : Ty) : (t.relabel f).isOrdinal = t.isOrdinal := by
  simp [isOrdinal]

@[simp]
theorem isSimple_relabel (t : Ty) : (t.relabel f).isSimple = t.isSimple := by
  simp [isSimple]

theorem texts_eq_map (ts : List Ty) : texts ts = ts.map text := by
  induction ts with
  | nil => rfl
  | cons t ts ih => rw [texts, ih, List.map_cons]

theorem texts_relabelAll {ts : List Ty} (h : ∀ t ∈ ts, (t.relabel f).text = t.text) :
    texts (relabelAll f ts) = texts ts := by
  rw [relabelAll_eq_map, texts_eq_map, texts_eq_map, List.map_map]
  exact List.map_congr_left h

@[simp]
theorem text_relabel (t : Ty) : (t.relabel f).text = t.text := by
  induction t using Ty.induction with
  | primitive p => rfl
  | sentinel s => rfl
  | file tag component ih => rw [relabel, text, text, ih]
  | parameter tag role mode type ih =>
    cases mode with
    | value => rw [relabel, text, text, ih]
    | var => rw [relabel, text, text, ih]
  | procedure tag params ih => rw [relabel, text, text, texts_relabelAll f ih]
  | function tag params result ih ihresult =>
    rw [relabel, text, text, texts_relabelAll f ih, ihresult]
  | overload tag alternatives ih => rw [relabel, text, text, texts_relabelAll f ih]

end

end Ty

end PascalCheck
