import Mathlib.Data.List.Perm.Basic
import PascalCheck.Proofs.Equivalence
import PascalCheck.Proofs.Fresh
import PascalCheck.Proofs.Typing.Call

/-!
Which alternative of an overload set a call refers to. Alternatives that take the same arguments have
equivalent parameters, so of alternatives that can be told apart at most one takes the arguments of a
call, and which one is found first does not depend on their order.
-/

namespace PascalCheck

namespace Ty

def IsPlainValue (formal : Ty) : Prop :=
  ∃ tag role type, formal = .parameter tag role .value type ∧ type.equiv type = true

def TakesValues (routine : Ty) : Prop :=
  ∀ formal ∈ routine.params, formal.IsPlainValue

theorem equivParams_of_accepts {ps qs : List Ty} {actuals : List Actual}
    (hps : ∀ p ∈ ps, p.IsPlainValue) (hqs : ∀ q ∈ qs, q.IsPlainValue)
    (hp : List.Forall₂ Accepts ps actuals) (hq : List.Forall₂ Accepts qs actuals) :
    equivParams ps qs = true := by
  induction hp generalizing qs with
  | nil =>
    cases hq
    rfl
  | @cons p actual ps actuals hp _ ih =>
    cases hq with
    | @cons q _ qs _ hq hrest =>
      rw [List.forall_mem_cons] at hps hqs
      obtain ⟨tag, role, a, rfl, ha⟩ := hps.1
      obtain ⟨tag', role', b, rfl, hb⟩ := hqs.1
      obtain ⟨_, _, hparam, -, ha'⟩ := hp
      cases hparam
      obtain ⟨_, _, hparam, -, hb'⟩ := hq
      cases hparam
      -- Both types are equivalent to that of the argument, and so to each other.
      have hab : a.equiv b = true :=
        equiv_trans ha' (equiv_symm ((equiv_self_iff b).mp hb) hb')
      simp [equivParams, hab, ih hps.2 hqs.2 hrest]

end Ty

namespace Call

theorem equivParams_of_takes {args : List Argument} {a b : Ty} (ha : a.TakesValues)
    (hb : b.TakesValues) (htakes : takes args a = true) (htakes' : takes args b = true) :
    Ty.equivParams a.params b.params = true := by
  rw [takes_iff] at htakes htakes'
  exact Ty.equivParams_of_accepts ha hb htakes htakes'

structure Distinguishable (alternatives : List Ty) : Prop where
  values : ∀ a ∈ alternatives, a.TakesValues
  distinct : alternatives.Pairwise fun a b => Ty.equivParams a.params b.params = false

theorem countP_le_one {α : Type} {p : α → Bool} {l : List α}
    (h : l.Pairwise fun a b => p a = true → p b = false) : l.countP p ≤ 1 := by
  induction l with
  | nil => simp
  | cons a l ih =>
    rw [List.pairwise_cons] at h
    rw [List.countP_cons]
    split
    next ha =>
      have hrest : l.countP p = 0 := by
        rw [List.countP_eq_zero]
        intro b hb
        rw [h.1 b hb ha]
        exact Bool.false_ne_true
      omega
    next => exact ih h.2

theorem find?_eq_of_perm {α : Type} {p : α → Bool} {l l' : List α} (hperm : l.Perm l')
    (hone : l.countP p ≤ 1) : l.find? p = l'.find? p := by
  rw [← List.head?_filter, ← List.head?_filter]
  have hfilter := hperm.filter p
  rw [List.countP_eq_length_filter] at hone
  generalize l.filter p = found at hfilter hone
  cases found with
  | nil => rw [List.nil_perm.mp hfilter]
  | cons a found =>
    have hnil : found = [] := List.eq_nil_of_length_eq_zero (by simpa using hone)
    rw [hnil] at hfilter ⊢
    rw [List.singleton_perm.mp hfilter]

namespace Distinguishable

variable {alternatives : List Ty} (h : Distinguishable alternatives)

include h

theorem countP_takes_le_one (args : List Argument) : alternatives.countP (takes args) ≤ 1 := by
  apply countP_le_one
  refine h.distinct.imp_of_mem ?_
  intro a b ha hb hdistinct htakes
  by_contra htakes'
  rw [Bool.not_eq_false] at htakes'
  have hequiv := equivParams_of_takes (h.values a ha) (h.values b hb) htakes htakes'
  rw [hdistinct] at hequiv
  cases hequiv

theorem find?_takes {alternatives' : List Ty} (hperm : alternatives.Perm alternatives')
    (args : List Argument) : alternatives.find? (takes args) = alternatives'.find? (takes args) :=
  find?_eq_of_perm hperm (h.countP_takes_le_one args)

theorem resolveOverloaded {alternatives' : List Ty} (hperm : alternatives.Perm alternatives')
    (scope : Scope) (c : Call) :
    c.resolveOverloaded scope alternatives = c.resolveOverloaded scope alternatives' := by
  rw [Call.resolveOverloaded, h.find?_takes hperm, Call.resolveOverloaded]

end Distinguishable

end Call

theorem Predefined.SameForm.exists_of_mem {made table : Predefined} (h : made.SameForm table)
    {entry : Attempt} (hentry : entry ∈ made) :
    ∃ model ∈ table, entry.type.form = model.type.form := by
  induction h with
  | nil => cases hentry
  | @cons first model made table hfirst _ ih =>
    obtain rfl | hrest := List.mem_cons.mp hentry
    . exact ⟨model, List.mem_cons_self, hfirst.form⟩
    . obtain ⟨found, hfound, hform⟩ := ih hrest
      exact ⟨found, List.mem_cons_of_mem _ hfound, hform⟩

namespace Required

theorem form_function_eq (params : List Primitive) (result : Primitive) :
    (function params result).form = function params result := by
  rw [function, Ty.form_function, List.map_map]
  rfl

theorem equivParams_function (ps qs : List Primitive) (r s : Primitive) :
    Ty.equivParams (function ps r).params (function qs s).params = true ↔ ps = qs := by
  simp only [function, Ty.params]
  induction ps generalizing qs with
  | nil => cases qs <;> simp [Ty.equivParams]
  | cons p ps ih => cases qs <;> simp [Ty.equivParams, Ty.equiv, ih]

theorem isPlainValue_of_form {formal : Ty} {p : Primitive}
    (h : formal.form = .parameter 0 .formal .value (.primitive p)) : formal.IsPlainValue := by
  cases formal with
  | parameter tag role mode type =>
    cases type with
    | primitive q =>
      cases h
      exact ⟨tag, .formal, .primitive p, rfl, (Ty.equiv_self_iff _).mpr rfl⟩
    | _ => cases h
  | _ => cases h

theorem takesValues_of_form {t : Ty} {params : List Primitive} {result : Primitive}
    (h : t.form = function params result) : t.TakesValues := by
  intro formal hformal
  have hparams : t.params.map Ty.form = (function params result).params := by
    rw [← h]
    exact (Ty.params_relabel _ t).symm
  have hmem := List.mem_map_of_mem (f := Ty.form) hformal
  rw [hparams] at hmem
  obtain ⟨p, -, hp⟩ := List.mem_map.mp hmem
  exact isPlainValue_of_form hp.symm

theorem isFunction_of_form {t : Ty} {params : List Primitive} {result : Primitive}
    (h : t.form = function params result) : t.isFunction = true := by
  rw [← Ty.isFunction_relabel (fun _ => 0) t]
  exact congrArg Ty.isFunction h

theorem exists_of_form_eq_overload {entry : Attempt} (hentry : entry ∈ table)
    {alternatives : List Ty} (h : entry.type.form = .overload 0 alternatives) :
    ∃ f ∈ functions, alternatives = f.2.map fun s => function s.1 s.2 := by
  rw [table, List.mem_append, List.mem_map, List.mem_map] at hentry
  obtain ⟨name, -, rfl⟩ | ⟨f, hf, rfl⟩ := hentry
  . rw [Ty.form_procedure] at h
    cases h
  . refine ⟨f, hf, ?_⟩
    have hforms : (f.2.map fun s => function s.1 s.2).map Ty.form =
        f.2.map fun s => function s.1 s.2 := by
      rw [List.map_map]
      exact List.map_congr_left fun s _ => form_function_eq s.1 s.2
    dsimp only [functionType] at h
    split at h
    next type hsingle =>
      rw [hsingle, List.map_singleton] at hforms
      rw [(List.cons.inj hforms).1] at h
      obtain ⟨s, -, rfl⟩ := List.mem_map.mp (hsingle.symm ▸ List.mem_singleton_self type)
      cases h
    next =>
      rw [Ty.form_overload, hforms] at h
      cases h
      rfl

theorem functions_distinct : ∀ f ∈ functions, (f.2.map Prod.fst).Nodup := by
  decide

theorem distinguishable_of_fresh {n next : Nat} {made : Predefined}
    (h : table.fresh n = .ok (made, next)) {entry : Attempt} (hmem : entry ∈ made) {tag : Nat}
    {alternatives : List Ty} (htype : entry.type = .overload tag alternatives) :
    Call.Distinguishable alternatives ∧ ∀ a ∈ alternatives, a.isFunction = true := by
  obtain ⟨-, hsame, -⟩ := Predefined.fresh_makes Ty.Invariant.trivial h
  obtain ⟨model, hmodel, hform⟩ := hsame.exists_of_mem hmem
  rw [htype, Ty.form_overload] at hform
  obtain ⟨f, hf, hforms⟩ := exists_of_form_eq_overload hmodel hform.symm
  have hsignature : ∀ a ∈ alternatives, ∃ s ∈ f.2, a.form = function s.1 s.2 := by
    intro a ha
    have hmem := List.mem_map_of_mem (f := Ty.form) ha
    rw [hforms] at hmem
    obtain ⟨s, hs, hs'⟩ := List.mem_map.mp hmem
    exact ⟨s, hs, hs'.symm⟩
  refine ⟨⟨?_, ?_⟩, ?_⟩
  . intro a ha
    obtain ⟨s, -, hs⟩ := hsignature a ha
    exact takesValues_of_form hs
  . have hdistinct := functions_distinct f hf
    rw [List.Nodup, List.pairwise_map] at hdistinct
    have hpairs : (alternatives.map Ty.form).Pairwise fun a b =>
        Ty.equivParams a.params b.params = false := by
      rw [hforms, List.pairwise_map]
      refine hdistinct.imp ?_
      intro s t hne
      rw [Bool.eq_false_iff, ne_eq, equivParams_function]
      exact hne
    rw [List.pairwise_map] at hpairs
    refine hpairs.imp ?_
    intro a b hab
    rw [← hab, Ty.form, Ty.form, Ty.params_relabel, Ty.params_relabel]
    exact (Ty.equivParams_relabel _ _ (fun p _ q => Ty.equiv_relabel _ _ p q) b.params).symm
  . intro a ha
    obtain ⟨s, -, hs⟩ := hsignature a ha
    exact isFunction_of_form hs

end Required

end PascalCheck
