import Mathlib.Data.List.Forall2
import PascalCheck.Check.Program
import PascalCheck.Proofs.Findings
import PascalCheck.Proofs.Relabel.Types

/-!
New types. A type that is made anew has the form of its model, whose tags do not matter, and its own
tags are drawn one after another from the next free one on.
-/

namespace PascalCheck

theorem exists_of_bind_eq_ok {ε α β : Type} {x : Except ε α} {f : α → Except ε β} {b : β}
    (h : x.bind f = .ok b) : ∃ a, x = .ok a ∧ f a = .ok b := by
  cases x with
  | error e => cases h
  | ok a => exact ⟨a, rfl, h⟩

theorem exists_of_map_eq_ok {ε α β : Type} {x : Except ε α} {f : α → β} {b : β}
    (h : x.map f = .ok b) : ∃ a, x = .ok a ∧ f a = b := by
  cases x with
  | error e => cases h
  | ok a => exact ⟨a, rfl, Except.ok.inj h⟩

namespace Ty

theorem fresh_primitive (p : Primitive) (n : Nat) :
    (Ty.primitive p).fresh n = .ok (.primitive p, n) := by
  rw [fresh]
  rfl

theorem fresh_sentinel (s : Sentinel) (n : Nat) :
    (Ty.sentinel s).fresh n = .ok (.sentinel s, n) := by
  rw [fresh]
  rfl

theorem fresh_file (tag : Nat) (component : Ty) (n : Nat) :
    (Ty.file tag component).fresh n =
      (component.fresh n).map fun (component, n) => (.file n component, n + 1) := by
  rw [fresh]
  rfl

theorem fresh_parameter (tag : Nat) (role : Role) (mode : Mode) (type : Ty) (n : Nat) :
    (Ty.parameter tag role mode type).fresh n =
      (type.fresh n).map fun (type, n) => (.parameter n role mode type, n + 1) := by
  rw [fresh]
  rfl

theorem fresh_procedure (tag : Nat) (params : List Ty) (n : Nat) :
    (Ty.procedure tag params).fresh n =
      (freshAll params n).map fun (params, n) => (.procedure n params, n + 1) := by
  rw [fresh]
  rfl

theorem fresh_function (tag : Nat) (params : List Ty) (result : Ty) (n : Nat) :
    (Ty.function tag params result).fresh n =
      (freshAll params n).bind fun (params, n) =>
        (result.fresh n).map fun (result, n) => (.function n params result, n + 1) := by
  rw [fresh]
  rfl

theorem fresh_overload (tag : Nat) (alternatives : List Ty) (n : Nat) :
    (Ty.overload tag alternatives).fresh n =
      (freshAll alternatives n).bind fun (alternatives, n) =>
        if alternatives.isEmpty then .error .emptyOverload
        else .ok (.overload n alternatives, n + 1) := by
  rw [fresh]
  cases h : freshAll alternatives n with
  | error fault => simp [bind, StateT.bind, h, Except.bind]
  | ok made =>
    by_cases hempty : made.1.isEmpty <;>
      simp [bind, StateT.bind, h, Except.bind, hempty] <;> rfl

theorem freshAll_nil (n : Nat) : freshAll [] n = .ok ([], n) := by
  rw [freshAll]
  rfl

theorem freshAll_cons (t : Ty) (ts : List Ty) (n : Nat) :
    freshAll (t :: ts) n =
      (t.fresh n).bind fun (t, n) => (freshAll ts n).map fun (ts, n) => (t :: ts, n) := by
  rw [freshAll]
  rfl

/-- A property of types, given the next free tag, that holds of every type as it is made. -/
structure Invariant (P : Nat → Ty → Prop) : Prop where
  closed : ∀ n, Closed (P n)
  mono : ∀ {n m : Nat} {t : Ty}, n ≤ m → P n t → P m t
  file : ∀ {n : Nat} {component : Ty}, P n component → P (n + 1) (.file n component)
  parameter : ∀ {n : Nat} {type : Ty} (role : Role) (mode : Mode), P n type →
    P (n + 1) (.parameter n role mode type)
  procedure : ∀ {n : Nat} {params : List Ty}, (∀ t ∈ params, P n t) →
    P (n + 1) (.procedure n params)
  function : ∀ {n : Nat} {params : List Ty} {result : Ty}, (∀ t ∈ params, P n t) → P n result →
    P (n + 1) (.function n params result)
  overload : ∀ {n : Nat} {alternatives : List Ty}, alternatives ≠ [] →
    (∀ t ∈ alternatives, P n t) → P (n + 1) (.overload n alternatives)

theorem Invariant.trivial : Invariant fun _ _ => True where
  closed _ := ⟨fun _ _ => .intro, fun _ _ _ _ => .intro, fun _ _ _ _ _ _ => .intro⟩
  mono _ _ := .intro
  file _ := .intro
  parameter _ _ _ := .intro
  procedure _ := .intro
  function _ _ := .intro
  overload _ _ := .intro

variable {P : Nat → Ty → Prop}

structure Makes (P : Nat → Ty → Prop) (t : Ty) (n : Nat) (made : Ty) (next : Nat) : Prop where
  le : n ≤ next
  form : made.form = t.form
  holds : P next made

theorem freshAll_makes (hP : Invariant P) {ts : List Ty}
    (ih : ∀ t ∈ ts, ∀ n made next, t.fresh n = .ok (made, next) → Makes P t n made next)
    {n next : Nat} {made : List Ty} (h : freshAll ts n = .ok (made, next)) :
    n ≤ next ∧ made.map form = ts.map form ∧ ∀ t ∈ made, P next t := by
  induction ts generalizing n made with
  | nil =>
    rw [freshAll_nil] at h
    cases h
    simp
  | cons t ts ihts =>
    rw [List.forall_mem_cons] at ih
    rw [freshAll_cons] at h
    obtain ⟨⟨t', k⟩, ht, h⟩ := exists_of_bind_eq_ok h
    obtain ⟨⟨ts', m⟩, hts, h⟩ := exists_of_map_eq_ok h
    cases h
    have hhead := ih.1 n t' k ht
    obtain ⟨hle, hforms, hholds⟩ := ihts ih.2 hts
    refine ⟨Nat.le_trans hhead.le hle, ?_, ?_⟩
    . rw [List.map_cons, List.map_cons, hhead.form, hforms]
    . rw [List.forall_mem_cons]
      exact ⟨hP.mono hle hhead.holds, hholds⟩

theorem fresh_makes (hP : Invariant P) (t : Ty) (n : Nat) (made : Ty) (next : Nat)
    (h : t.fresh n = .ok (made, next)) : Makes P t n made next := by
  induction t using Ty.induction generalizing n made next with
  | primitive p =>
    rw [fresh_primitive] at h
    cases h
    exact ⟨Nat.le_refl n, rfl, (hP.closed n).builtIn _ rfl⟩
  | sentinel s =>
    rw [fresh_sentinel] at h
    cases h
    exact ⟨Nat.le_refl n, rfl, (hP.closed n).builtIn _ rfl⟩
  | file tag component ih =>
    rw [fresh_file] at h
    obtain ⟨⟨component', m⟩, hcomponent, h⟩ := exists_of_map_eq_ok h
    cases h
    obtain ⟨hle, hform, hholds⟩ := ih n component' m hcomponent
    refine ⟨Nat.le_succ_of_le hle, ?_, hP.file hholds⟩
    exact congrArg (Ty.file 0) hform
  | parameter tag role mode type ih =>
    rw [fresh_parameter] at h
    obtain ⟨⟨type', m⟩, htype, h⟩ := exists_of_map_eq_ok h
    cases h
    obtain ⟨hle, hform, hholds⟩ := ih n type' m htype
    refine ⟨Nat.le_succ_of_le hle, ?_, hP.parameter role mode hholds⟩
    exact congrArg (Ty.parameter 0 role mode) hform
  | procedure tag params ih =>
    rw [fresh_procedure] at h
    obtain ⟨⟨params', m⟩, hparams, h⟩ := exists_of_map_eq_ok h
    cases h
    obtain ⟨hle, hforms, hholds⟩ := freshAll_makes hP ih hparams
    refine ⟨Nat.le_succ_of_le hle, ?_, hP.procedure hholds⟩
    rw [form_procedure, form_procedure, hforms]
  | function tag params result ih ihresult =>
    rw [fresh_function] at h
    obtain ⟨⟨params', k⟩, hparams, h⟩ := exists_of_bind_eq_ok h
    obtain ⟨⟨result', m⟩, hresult, h⟩ := exists_of_map_eq_ok h
    cases h
    obtain ⟨hle, hforms, hholds⟩ := freshAll_makes hP ih hparams
    obtain ⟨hle', hform, hholds'⟩ := ihresult k result' m hresult
    refine ⟨Nat.le_succ_of_le (Nat.le_trans hle hle'), ?_, ?_⟩
    . rw [form_function, form_function, hforms, hform]
    -- The parameters were made before the result, when fewer tags had been drawn.
    . exact hP.function (fun t ht => hP.mono hle' (hholds t ht)) hholds'
  | overload tag alternatives ih =>
    rw [fresh_overload] at h
    obtain ⟨⟨alternatives', m⟩, halternatives, h⟩ := exists_of_bind_eq_ok h
    obtain ⟨hle, hforms, hholds⟩ := freshAll_makes hP ih halternatives
    simp only at h
    split at h
    . cases h
    next hempty =>
      cases h
      refine ⟨Nat.le_succ_of_le hle, ?_, hP.overload ?_ hholds⟩
      . rw [form_overload, form_overload, hforms]
      . intro hnil
        exact hempty (List.isEmpty_iff.mpr hnil)

theorem fresh_le {t : Ty} {n : Nat} {made : Ty × Nat} (h : t.fresh n = .ok made) : n ≤ made.2 :=
  (fresh_makes .trivial t n made.1 made.2 h).le

theorem freshAll_le {ts : List Ty} {n : Nat} {made : List Ty × Nat}
    (h : freshAll ts n = .ok made) : n ≤ made.2 :=
  (freshAll_makes .trivial (fun t _ => fresh_makes .trivial t) h).1

theorem freshAll_relabelAll {f : Nat → Nat} {ts : List Ty}
    (ih : ∀ t ∈ ts, (t.relabel f).fresh = t.fresh) :
    freshAll (relabelAll f ts) = freshAll ts := by
  induction ts with
  | nil => rfl
  | cons t ts ihts =>
    rw [List.forall_mem_cons] at ih
    rw [relabelAll, freshAll, freshAll, ih.1, ihts ih.2]

theorem fresh_relabel (f : Nat → Nat) (t : Ty) : (t.relabel f).fresh = t.fresh := by
  induction t using Ty.induction with
  | primitive p => rfl
  | sentinel s => rfl
  | file tag component ih => rw [relabel, fresh, fresh, ih]
  | parameter tag role mode type ih => rw [relabel, fresh, fresh, ih]
  | procedure tag params ih => rw [relabel, fresh, fresh, freshAll_relabelAll ih]
  | function tag params result ih ihresult =>
    rw [relabel, fresh, fresh, freshAll_relabelAll ih, ihresult]
  | overload tag alternatives ih => rw [relabel, fresh, fresh, freshAll_relabelAll ih]

theorem fresh_eq_of_form_eq {t u : Ty} (h : t.form = u.form) : t.fresh = u.fresh :=
  calc t.fresh
    _ = t.form.fresh := (fresh_relabel _ t).symm
    _ = u.form.fresh := by rw [h]
    _ = u.fresh := fresh_relabel _ u

/-- From `start` on, `f` takes consecutive tags to consecutive tags. -/
def Shifts (f : Nat → Nat) (start : Nat) : Prop :=
  ∀ n, start ≤ n → f (n + 1) = f n + 1

theorem freshAll_shift {f : Nat → Nat} {start : Nat} {ts : List Ty}
    (ih : ∀ t ∈ ts, ∀ n, start ≤ n →
      t.fresh (f n) = (t.fresh n).map fun (made, n) => (made.relabel f, f n))
    {n : Nat} (hn : start ≤ n) :
    freshAll ts (f n) = (freshAll ts n).map fun (made, n) => (relabelAll f made, f n) := by
  induction ts generalizing n with
  | nil =>
    rw [freshAll_nil, freshAll_nil]
    rfl
  | cons t ts ihts =>
    rw [List.forall_mem_cons] at ih
    rw [freshAll_cons, freshAll_cons, ih.1 n hn]
    cases ht : t.fresh n with
    | error fault => rfl
    | ok made =>
      have hts := ihts ih.2 (Nat.le_trans hn (fresh_le ht))
      simp only [Except.map, Except.bind, hts]
      cases freshAll ts made.2 <;> rfl

theorem fresh_shift {f : Nat → Nat} {start : Nat} (hf : Shifts f start) (t : Ty) (n : Nat)
    (hn : start ≤ n) :
    t.fresh (f n) = (t.fresh n).map fun (made, n) => (made.relabel f, f n) := by
  induction t using Ty.induction generalizing n with
  | primitive p =>
    rw [fresh_primitive, fresh_primitive]
    rfl
  | sentinel s =>
    rw [fresh_sentinel, fresh_sentinel]
    rfl
  | file tag component ih =>
    rw [fresh_file, fresh_file, ih n hn]
    cases h : component.fresh n with
    | error fault => rfl
    | ok made => simp only [Except.map, relabel, hf made.2 (Nat.le_trans hn (fresh_le h))]
  | parameter tag role mode type ih =>
    rw [fresh_parameter, fresh_parameter, ih n hn]
    cases h : type.fresh n with
    | error fault => rfl
    | ok made => simp only [Except.map, relabel, hf made.2 (Nat.le_trans hn (fresh_le h))]
  | procedure tag params ih =>
    rw [fresh_procedure, fresh_procedure, freshAll_shift ih hn]
    cases h : freshAll params n with
    | error fault => rfl
    | ok made => simp only [Except.map, relabel, hf made.2 (Nat.le_trans hn (freshAll_le h))]
  | function tag params result ih ihresult =>
    rw [fresh_function, fresh_function, freshAll_shift ih hn]
    cases h : freshAll params n with
    | error fault => rfl
    | ok made =>
      have hmade := Nat.le_trans hn (freshAll_le h)
      simp only [Except.map, Except.bind, ihresult made.2 hmade]
      cases hresult : result.fresh made.2 with
      | error fault => rfl
      | ok made' => simp only [relabel, hf made'.2 (Nat.le_trans hmade (fresh_le hresult))]
  | overload tag alternatives ih =>
    rw [fresh_overload, fresh_overload, freshAll_shift ih hn]
    cases h : freshAll alternatives n with
    | error fault => rfl
    | ok made =>
      simp only [Except.map, Except.bind, relabelAll_eq_map, List.isEmpty_map]
      split
      . rfl
      . simp only [relabel, relabelAll_eq_map, hf made.2 (Nat.le_trans hn (freshAll_le h))]

end Ty

structure Attempt.SameForm (a b : Attempt) : Prop where
  name : a.name = b.name
  form : a.type.form = b.type.form
  place : a.place = b.place

namespace Predefined

def SameForm (a b : Predefined) : Prop :=
  List.Forall₂ Attempt.SameForm a b

theorem SameForm.refl (table : Predefined) : SameForm table table :=
  List.forall₂_same.mpr fun _ _ => ⟨rfl, rfl, rfl⟩

theorem fresh_nil (n : Nat) : Predefined.fresh [] n = .ok ([], n) := rfl

theorem fresh_cons (entry : Attempt) (table : Predefined) (n : Nat) :
    Predefined.fresh (entry :: table) n =
      (entry.type.fresh n).bind fun (type, n) =>
        (Predefined.fresh table n).map fun (table, n) => ({ entry with type } :: table, n) := by
  unfold Predefined.fresh
  rw [List.mapM_cons]
  simp only [bind, StateT.bind, Except.bind]
  cases entry.type.fresh n <;> rfl

theorem fresh_eq_of_sameForm {a b : Predefined} (h : SameForm a b) : a.fresh = b.fresh := by
  induction h with
  | nil => rfl
  | cons hentry _ ih =>
    funext n
    rw [fresh_cons, fresh_cons, hentry.name, hentry.place, Ty.fresh_eq_of_form_eq hentry.form, ih]

theorem fresh_makes {P : Nat → Ty → Prop} (hP : Ty.Invariant P) {table made : Predefined}
    {n next : Nat} (h : table.fresh n = .ok (made, next)) :
    n ≤ next ∧ SameForm made table ∧ ∀ entry ∈ made, P next entry.type := by
  induction table generalizing n made with
  | nil =>
    rw [fresh_nil] at h
    cases h
    exact ⟨Nat.le_refl _, .nil, by simp⟩
  | cons entry table ih =>
    rw [fresh_cons] at h
    obtain ⟨⟨type, k⟩, htype, h⟩ := exists_of_bind_eq_ok h
    obtain ⟨⟨table', m⟩, htable, h⟩ := exists_of_map_eq_ok h
    cases h
    obtain ⟨hle, hform, hholds⟩ := Ty.fresh_makes hP entry.type n type k htype
    obtain ⟨hle', hforms, hholds'⟩ := ih htable
    refine ⟨Nat.le_trans hle hle', .cons ⟨rfl, hform, rfl⟩ hforms, ?_⟩
    rw [List.forall_mem_cons]
    exact ⟨hP.mono hle' hholds, hholds'⟩

def relabel (f : Nat → Nat) (table : Predefined) : Predefined :=
  table.map fun a => { a with type := a.type.relabel f }

theorem fresh_shift {f : Nat → Nat} {start : Nat} (hf : Ty.Shifts f start) (table : Predefined)
    {n : Nat} (hn : start ≤ n) :
    table.fresh (f n) = (table.fresh n).map fun (made, n) => (made.relabel f, f n) := by
  induction table generalizing n with
  | nil => rfl
  | cons entry table ih =>
    rw [fresh_cons, fresh_cons, Ty.fresh_shift hf entry.type n hn]
    cases htype : entry.type.fresh n with
    | error fault => rfl
    | ok made =>
      have htable := ih (Nat.le_trans hn (Ty.fresh_le htype))
      simp only [Except.map, Except.bind, htable]
      cases Predefined.fresh table made.2 <;> rfl

end Predefined

namespace Program

variable [Naming]

theorem checkWith_eq (p : Program) (table : Predefined) (ctx : Context) :
    p.checkWith table ctx = (table.fresh ctx.nextTag).bind fun (made, next) =>
      .ok (p.check made { ctx with nextTag := next }) := rfl

theorem checkWith_of_fresh (p : Program) {table made : Predefined} {ctx : Context} {next : Nat}
    (h : table.fresh ctx.nextTag = .ok (made, next)) :
    p.checkWith table ctx = .ok (p.check made { ctx with nextTag := next }) := by
  rw [checkWith_eq, h]
  rfl

theorem checkWith_of_fault (p : Program) {table : Predefined} {ctx : Context} {fault : Fault}
    (h : table.fresh ctx.nextTag = .error fault) : p.checkWith table ctx = .error fault := by
  rw [checkWith_eq, h]
  rfl

end Program

end PascalCheck
