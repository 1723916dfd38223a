import PascalCheck.Proofs.Clean
import PascalCheck.Proofs.Relabel.Types

/-!
Types kept by identity. An arena has a descriptor for every type that was made, in the order in which
they were made. A descriptor names the types inside by their identities, so whoever looks into a type
has to find them in the arena. Where the types inside were made before, that succeeds and comes to an
end, with the same outcome as on the type itself.
-/

namespace PascalCheck

/-- One level of a type, with identities for the types inside. -/
inductive Kind where
  | primitive (primitive : Primitive)
  | sentinel (sentinel : Sentinel)
  | file (component : Ty.Identity)
  | parameter (role : Role) (mode : Mode) (type : Ty.Identity)
  | procedure (params : List Ty.Identity)
  | function (params : List Ty.Identity) (result : Ty.Identity)
  | overload (alternatives : List Ty.Identity)

def Kind.inner : Kind → List Ty.Identity
  | .primitive _ | .sentinel _ => []
  | .file id | .parameter _ _ id => [id]
  | .procedure ids | .overload ids => ids
  | .function ids id => ids ++ [id]

def Kind.isMade : Kind → Bool
  | .primitive _ | .sentinel _ | .overload [] => false
  | _ => true

namespace Ty

def parts : Ty → List Ty
  | .primitive _ | .sentinel _ => []
  | .file _ type | .parameter _ _ _ type => [type]
  | .procedure _ types | .overload _ types => types
  | .function _ types type => types ++ [type]

def kind : Ty → Kind
  | .primitive p => .primitive p
  | .sentinel s => .sentinel s
  | .file _ component => .file component.identity
  | .parameter _ role mode type => .parameter role mode type.identity
  | .procedure _ params => .procedure (params.map identity)
  | .function _ params result => .function (params.map identity) result.identity
  | .overload _ alternatives => .overload (alternatives.map identity)

theorem inner_kind (t : Ty) : t.kind.inner = t.parts.map identity := by
  cases t <;> simp [kind, Kind.inner, parts]

theorem eq_of_parts {t u : Ty} (hidentity : t.identity = u.identity) (hkind : t.kind = u.kind)
    (hparts : t.parts = u.parts) : t = u := by
  cases t <;> cases u <;> simp_all [kind, identity, parts]

/-- The age of a type: what is built in was there before anything was made. -/
def Identity.rank : Identity → Nat
  | .made tag => tag + 1
  | _ => 0

end Ty

abbrev Arena := List Kind

namespace Arena

def kind? (arena : Arena) : Ty.Identity → Option Kind
  | .primitive p => some (.primitive p)
  | .sentinel s => some (.sentinel s)
  | .made tag => arena[tag]?

structure Founded (arena : Arena) : Prop where
  inner : ∀ {id : Ty.Identity} {kind : Kind}, arena.kind? id = some kind →
    ∀ inner ∈ kind.inner, inner.rank < id.rank ∧ (arena.kind? inner).isSome
  made : ∀ kind ∈ arena, kind.isMade = true

inductive Has (arena : Arena) : Ty → Prop where
  | intro {t : Ty} : arena.kind? t.identity = some t.kind → (∀ part ∈ t.parts, arena.Has part) →
    arena.Has t

section Growth

variable {arena : Arena}

theorem kind?_append {id : Ty.Identity} {kind : Kind} (h : arena.kind? id = some kind)
    (more : Arena) : (arena ++ more).kind? id = some kind := by
  cases id with
  | made tag =>
    have hlt : tag < arena.length := (List.getElem?_eq_some_iff.mp h).1
    rw [kind?, List.getElem?_append_left hlt]
    exact h
  | _ => exact h

theorem kind?_last (arena : Arena) (kind : Kind) :
    (arena ++ [kind]).kind? (.made arena.length) = some kind := by
  simp [kind?]

theorem rank_le {id : Ty.Identity} (h : (arena.kind? id).isSome) : id.rank ≤ arena.length := by
  cases id with
  | made tag =>
    rw [kind?, isSome_getElem?] at h
    exact h
  | _ => exact Nat.zero_le _

theorem Has.append {t : Ty} (h : arena.Has t) (more : Arena) : Arena.Has (arena ++ more) t := by
  induction h with
  | intro hkind _ ih => exact .intro (kind?_append hkind more) ih

theorem Has.known {t : Ty} (h : arena.Has t) : arena.kind? t.identity = some t.kind := by
  cases h with
  | intro hkind _ => exact hkind

theorem Has.rank_le {t : Ty} (h : arena.Has t) : t.identity.rank ≤ arena.length := by
  apply Arena.rank_le
  rw [h.known]
  rfl

theorem Has.part {t part : Ty} (h : arena.Has t) (hpart : part ∈ t.parts) : arena.Has part := by
  cases h with
  | intro _ hparts => exact hparts part hpart

theorem Has.eq_of_identity {t u : Ty} (ht : arena.Has t) (hu : arena.Has u)
    (h : t.identity = u.identity) : t = u := by
  induction ht generalizing u with
  | @intro t hkind _ ih =>
    have hkinds : t.kind = u.kind := by
      have hknown := hu.known
      rw [← h, hkind] at hknown
      exact Option.some.inj hknown
    have hidentities : t.parts.map Ty.identity = u.parts.map Ty.identity := by
      rw [← Ty.inner_kind, ← Ty.inner_kind, hkinds]
    apply Ty.eq_of_parts h hkinds
    apply List.ext_getElem
    . simpa using congrArg List.length hidentities
    . intro i hi hi'
      apply ih _ (List.getElem_mem hi) (hu.part (List.getElem_mem hi'))
      simpa [hi, hi'] using congrArg (·[i]?) hidentities

theorem Has.of_isBuiltIn {t : Ty} (h : t.isBuiltIn = true) : arena.Has t := by
  cases t with
  | primitive p => exact .intro rfl (by simp [Ty.parts])
  | sentinel s => exact .intro rfl (by simp [Ty.parts])
  | _ => cases h

theorem Has.last {t : Ty} (htag : t.identity = .made arena.length)
    (hparts : ∀ part ∈ t.parts, arena.Has part) : Arena.Has (arena ++ [t.kind]) t := by
  refine .intro ?_ fun part hpart => (hparts part hpart).append _
  rw [htag, kind?_last]

theorem founded_nil : Founded [] := by
  constructor
  . intro id kind h
    cases id with
    | made tag => cases h
    | _ =>
      cases h
      simp [Kind.inner]
  . simp

theorem Founded.append (h : arena.Founded) {kind : Kind} (hmade : kind.isMade = true)
    (hinner : ∀ inner ∈ kind.inner, (arena.kind? inner).isSome) : Founded (arena ++ [kind]) := by
  have hmono {id : Ty.Identity} (hid : (arena.kind? id).isSome) :
      ((arena ++ [kind]).kind? id).isSome := by
    obtain ⟨found, hfound⟩ := Option.isSome_iff_exists.mp hid
    rw [kind?_append hfound]
    rfl
  have hold {id : Ty.Identity} (hid : id ≠ .made arena.length) :
      (arena ++ [kind]).kind? id = arena.kind? id := by
    cases id with
    | made tag =>
      simp only [kind?, List.getElem?_append]
      grind
    | _ => rfl
  constructor
  . intro id found hfound inner hmem
    by_cases hid : id = .made arena.length
    . rw [hid, kind?_last] at hfound
      cases hfound
      rw [hid]
      exact ⟨Nat.lt_succ_of_le (rank_le (hinner inner hmem)), hmono (hinner inner hmem)⟩
    . rw [hold hid] at hfound
      obtain ⟨hrank, hknown⟩ := h.inner hfound inner hmem
      exact ⟨hrank, hmono hknown⟩
  . rw [List.forall_mem_append]
    exact ⟨h.made, by simpa using hmade⟩

theorem Founded.isMade (h : arena.Founded) {tag : Nat} {kind : Kind}
    (hkind : arena.kind? (.made tag) = some kind) : kind.isMade = true :=
  h.made kind (List.mem_of_getElem? hkind)

theorem exists_types {ids : List Ty.Identity}
    (h : ∀ id ∈ ids, ∃ t : Ty, t.identity = id ∧ arena.Has t) :
    ∃ ts : List Ty, ts.map Ty.identity = ids ∧ ∀ t ∈ ts, arena.Has t := by
  induction ids with
  | nil => exact ⟨[], rfl, by simp⟩
  | cons id ids ih =>
    rw [List.forall_mem_cons] at h
    obtain ⟨t, ht, hhas⟩ := h.1
    obtain ⟨ts, hts, hall⟩ := ih h.2
    refine ⟨t :: ts, ?_, List.forall_mem_cons.mpr ⟨hhas, hall⟩⟩
    rw [List.map_cons, ht, hts]

theorem Founded.exists_type (h : arena.Founded) {id : Ty.Identity} {kind : Kind}
    (hkind : arena.kind? id = some kind) : ∃ t : Ty, t.identity = id ∧ arena.Has t := by
  induction hrank : id.rank using Nat.strongRecOn generalizing id kind with
  | ind rank ih =>
    have hinner (inner : Ty.Identity) (hmem : inner ∈ kind.inner) :
        ∃ t : Ty, t.identity = inner ∧ arena.Has t := by
      obtain ⟨hlt, hknown⟩ := h.inner hkind inner hmem
      obtain ⟨found, hfound⟩ := Option.isSome_iff_exists.mp hknown
      rw [hrank] at hlt
      exact ih _ hlt hfound rfl
    cases id with
    | primitive p => exact ⟨.primitive p, rfl, .of_isBuiltIn rfl⟩
    | sentinel s => exact ⟨.sentinel s, rfl, .of_isBuiltIn rfl⟩
    | made tag =>
      have hmade := h.isMade hkind
      cases kind with
      | primitive p => cases hmade
      | sentinel s => cases hmade
      | file id =>
        obtain ⟨t, rfl, ht⟩ := hinner id (List.mem_singleton_self id)
        exact ⟨.file tag t, rfl, .intro hkind (by simpa [Ty.parts] using ht)⟩
      | parameter role mode id =>
        obtain ⟨t, rfl, ht⟩ := hinner id (List.mem_singleton_self id)
        exact ⟨.parameter tag role mode t, rfl, .intro hkind (by simpa [Ty.parts] using ht)⟩
      | procedure ids =>
        obtain ⟨ts, rfl, hts⟩ := exists_types hinner
        exact ⟨.procedure tag ts, rfl, .intro hkind hts⟩
      | function ids id =>
        rw [Kind.inner, List.forall_mem_append] at hinner
        obtain ⟨ts, rfl, hts⟩ := exists_types hinner.1
        obtain ⟨t, rfl, ht⟩ := hinner.2 id (List.mem_singleton_self id)
        refine ⟨.function tag ts t, rfl, .intro hkind ?_⟩
        exact List.forall_mem_append.mpr ⟨hts, by simpa using ht⟩
      | overload ids =>
        obtain ⟨ts, rfl, hts⟩ := exists_types hinner
        exact ⟨.overload tag ts, rfl, .intro hkind hts⟩

end Growth

def equivParams? (arena : Arena) (equiv? : Ty.Identity → Ty.Identity → Option Bool) :
    List Ty.Identity → List Ty.Identity → Option Bool
  | [], [] => some true
  | p :: ps, q :: qs => do
    match ← arena.kind? p, ← arena.kind? q with
    | .parameter _ m a, .parameter _ n b =>
      return m == n && (← equiv? a b) && (← arena.equivParams? equiv? ps qs)
    | _, _ => return false
  | _, _ => some false

/-- The comparison of types by their identities; each look into a type takes one unit of fuel. -/
def equiv? (arena : Arena) : Nat → Ty.Identity → Ty.Identity → Option Bool
  | 0, _, _ => none
  | fuel + 1, a, b => do
    match ← arena.kind? a, ← arena.kind? b with
    | .parameter _ _ type, _ => arena.equiv? fuel type b
    | .primitive p, .primitive q => return p == q
    | .sentinel s, .sentinel t => return s == t
    | .file c, .file d => arena.equiv? fuel c d
    | .procedure ps, .procedure qs => arena.equivParams? (arena.equiv? fuel) ps qs
    | .function ps _, .function qs _ => arena.equivParams? (arena.equiv? fuel) ps qs
    | _, _ => return false

def text? (arena : Arena) : Nat → Ty.Identity → Option String
  | 0, _ => none
  | fuel + 1, id => do
    match ← arena.kind? id with
    | .primitive p => return p.text
    | .sentinel s => return (Ty.sentinel s).text
    | .file component => return "file of " ++ (← arena.text? fuel component)
    | .parameter _ .value type => arena.text? fuel type
    | .parameter _ .var type => return "var " ++ (← arena.text? fuel type)
    | .procedure params => return "procedure" ++ Ty.paramsText (← params.mapM (arena.text? fuel))
    | .function params result =>
      return "function" ++ Ty.paramsText (← params.mapM (arena.text? fuel)) ++ ": " ++
        (← arena.text? fuel result)
    | .overload alternatives => return " | ".intercalate (← alternatives.mapM (arena.text? fuel))

def routineKind? (arena : Arena) (id : Ty.Identity) : Option (Option RoutineKind) := do
  let kind ← match ← arena.kind? id with
    | .overload alternatives => alternatives.head?.bind arena.kind?
    | kind => some kind
  return match kind with
    | .procedure _ => some .procedure
    | .function _ _ => some .function
    | _ => none

def parameter? (arena : Arena) (id : Ty.Identity) : Option (Option (Mode × Ty.Identity)) := do
  match ← arena.kind? id with
  | .parameter _ mode type => return some (mode, type)
  | _ => return none

def mismatch? (arena : Arena) (fuel : Nat) (formal actual : Ty.Identity) :
    Option (Option Mismatch) := do
  match ← arena.parameter? formal, ← arena.parameter? actual with
  | some (mode, type), some (mode', type') =>
    if mode = .var ∧ mode' ≠ .var then return some .notVariable
    else if ← arena.equiv? fuel type type' then return none
    else return some .type
  | _, _ => return some .type

section Agreement

variable {arena : Arena}

theorem equivParams?_eq {f : Ty.Identity → Ty.Identity → Option Bool} {ps qs : List Ty}
    (hps : ∀ p ∈ ps, arena.Has p) (hqs : ∀ q ∈ qs, arena.Has q)
    (hf : ∀ p ∈ ps, ∀ a ∈ p.parts, ∀ b, arena.Has b → f a.identity b.identity = some (a.equiv b)) :
    arena.equivParams? f (ps.map Ty.identity) (qs.map Ty.identity) =
      some (Ty.equivParams ps qs) := by
  induction ps generalizing qs with
  | nil => cases qs <;> simp [equivParams?, Ty.equivParams]
  | cons p ps ih =>
    cases qs with
    | nil => simp [equivParams?, Ty.equivParams]
    | cons q qs =>
      rw [List.forall_mem_cons] at hps hqs hf
      rw [List.map_cons, List.map_cons, equivParams?, hps.1.known, hqs.1.known]
      cases p with
      | parameter tag role m a =>
        cases q with
        | parameter tag' role' n b =>
          have hb : arena.Has b := hqs.1.part (List.mem_singleton_self b)
          have hab := hf.1 a (List.mem_singleton_self a) b hb
          simp [Ty.kind, hab, ih hps.2 hqs.2 hf.2, Ty.equivParams]
        | _ => rfl
      | _ => rfl

theorem Founded.rank_part_lt (h : arena.Founded) {t part : Ty} (ht : arena.Has t)
    (hpart : part ∈ t.parts) : part.identity.rank < t.identity.rank := by
  refine (h.inner ht.known part.identity ?_).1
  rw [Ty.inner_kind]
  exact List.mem_map_of_mem hpart

theorem kind?_of_append {id : Ty.Identity} {more : Arena} (hrank : id.rank ≤ arena.length) :
    (arena ++ more).kind? id = arena.kind? id := by
  cases id with
  | made tag => exact List.getElem?_append_left hrank
  | _ => rfl

theorem Has.of_append {more : Arena} (hfounded : Founded (arena ++ more)) {t : Ty}
    (h : Has (arena ++ more) t) (hrank : t.identity.rank ≤ arena.length) : arena.Has t := by
  induction h with
  | @intro t hkind hparts ih =>
    refine .intro ((kind?_of_append hrank).symm.trans hkind) ?_
    intro part hpart
    have hlt := hfounded.rank_part_lt (.intro hkind hparts) hpart
    exact ih part hpart (Nat.le_trans (Nat.le_of_lt hlt) hrank)

theorem Founded.of_append {more : Arena} (h : Founded (arena ++ more)) : arena.Founded := by
  constructor
  . intro id kind hkind inner hinner
    have hrank : id.rank ≤ arena.length := rank_le (by rw [hkind]; rfl)
    obtain ⟨hlt, hknown⟩ := h.inner (kind?_append hkind more) inner hinner
    rw [kind?_of_append (Nat.le_trans (Nat.le_of_lt hlt) hrank)] at hknown
    exact ⟨hlt, hknown⟩
  . intro kind hkind
    exact h.made kind (List.mem_append_left more hkind)

theorem equiv?_eq (h : arena.Founded) {fuel : Nat} {t u : Ty} (ht : arena.Has t) (hu : arena.Has u)
    (hfuel : t.identity.rank < fuel) :
    arena.equiv? fuel t.identity u.identity = some (t.equiv u) := by
  induction fuel generalizing t u with
  | zero => cases hfuel
  | succ fuel ih =>
    have hpart (a : Ty) (ha : a ∈ t.parts) : arena.Has a ∧ a.identity.rank < fuel :=
      ⟨ht.part ha, Nat.lt_of_lt_of_le (h.rank_part_lt ht ha) (Nat.le_of_lt_succ hfuel)⟩
    -- The types that parameters stand for are two levels down.
    have hinner (p : Ty) (hp : p ∈ t.parts) (a : Ty) (ha : a ∈ p.parts) (b : Ty)
        (hb : arena.Has b) : arena.equiv? fuel a.identity b.identity = some (a.equiv b) := by
      have hrank := h.rank_part_lt (hpart p hp).1 ha
      exact ih ((hpart p hp).1.part ha) hb (Nat.lt_trans hrank (hpart p hp).2)
    rw [equiv?, ht.known, hu.known]
    cases t with
    | parameter tag role mode type =>
      obtain ⟨htype, hrank⟩ := hpart type (List.mem_singleton_self type)
      rw [Ty.equiv]
      exact ih htype hu hrank
    | file tag c =>
      cases u with
      | file tag' d =>
        obtain ⟨hc, hrank⟩ := hpart c (List.mem_singleton_self c)
        rw [Ty.equiv]
        exact ih hc (hu.part (List.mem_singleton_self d)) hrank
      | _ => rfl
    | procedure tag ps =>
      cases u with
      | procedure tag' qs =>
        rw [Ty.equiv]
        exact equivParams?_eq (fun p hp => (hpart p hp).1) (fun q hq => hu.part hq) hinner
      | _ => rfl
    | function tag ps result =>
      cases u with
      | function tag' qs result' =>
        have hps (p : Ty) (hp : p ∈ ps) := List.mem_append_left [result] hp
        rw [Ty.equiv]
        exact equivParams?_eq (fun p hp => (hpart p (hps p hp)).1)
          (fun q hq => hu.part (List.mem_append_left [result'] hq)) fun p hp => hinner p (hps p hp)
      | _ => rfl
    | primitive p => cases u <;> rfl
    | sentinel s => cases u <;> rfl
    | overload tag alternatives => cases u <;> rfl

theorem mapM_eq_texts {f : Ty.Identity → Option String} {ts : List Ty}
    (h : ∀ t ∈ ts, f t.identity = some t.text) :
    (ts.map Ty.identity).mapM f = some (Ty.texts ts) := by
  induction ts with
  | nil => rfl
  | cons t ts ih =>
    rw [List.forall_mem_cons] at h
    simp [List.mapM_cons, h.1, ih h.2, Ty.texts]

theorem text?_eq (h : arena.Founded) {fuel : Nat} {t : Ty} (ht : arena.Has t)
    (hfuel : t.identity.rank < fuel) : arena.text? fuel t.identity = some t.text := by
  induction fuel generalizing t with
  | zero => cases hfuel
  | succ fuel ih =>
    have hpart (a : Ty) (ha : a ∈ t.parts) : arena.text? fuel a.identity = some a.text :=
      ih (ht.part ha) (Nat.lt_of_lt_of_le (h.rank_part_lt ht ha) (Nat.le_of_lt_succ hfuel))
    rw [text?, ht.known]
    cases t with
    | primitive p => rfl
    | sentinel s => rfl
    | file tag component =>
      simp [Ty.kind, hpart component (List.mem_singleton_self component), Ty.text]
    | parameter tag role mode type =>
      have htype := hpart type (List.mem_singleton_self type)
      cases mode <;> simp [Ty.kind, htype, Ty.text]
    | procedure tag params =>
      have hparams (p : Ty) (hp : p ∈ params) := hpart p hp
      simp [Ty.kind, mapM_eq_texts hparams, Ty.text]
    | function tag params result =>
      have hparams (p : Ty) (hp : p ∈ params) := hpart p (List.mem_append_left [result] hp)
      have hresult := hpart result (List.mem_append_right params (List.mem_singleton_self result))
      simp [Ty.kind, mapM_eq_texts hparams, hresult, Ty.text]
    | overload tag alternatives =>
      have halternatives (a : Ty) (ha : a ∈ alternatives) := hpart a ha
      simp [Ty.kind, mapM_eq_texts halternatives, Ty.text]

theorem routineKind?_eq (h : arena.Founded) {t : Ty} (ht : arena.Has t) :
    arena.routineKind? t.identity = some t.routineKind? := by
  rw [routineKind?, ht.known]
  cases t with
  | overload tag alternatives =>
    cases alternatives with
    | nil => cases h.isMade ht.known
    | cons first rest =>
      have hfirst := (ht.part List.mem_cons_self : arena.Has first).known
      simp only [Ty.kind, List.map_cons, List.head?_cons, Option.bind_some, bind, hfirst]
      cases first <;> rfl
  | _ => rfl

theorem parameter?_eq {t : Ty} (ht : arena.Has t) :
    arena.parameter? t.identity = some (t.parameter?.map fun p => (p.1, p.2.identity)) := by
  rw [parameter?, ht.known]
  cases t <;> rfl

theorem mismatch?_eq (h : arena.Founded) {fuel : Nat} {formal : Ty} {a : Argument} {tag : Nat}
    (hformal : arena.Has formal) (ha : arena.Has (.parameter tag .actual a.mode a.type))
    (hfuel : formal.identity.rank < fuel) :
    arena.mismatch? fuel formal.identity (.made tag) = some (a.mismatch? formal) := by
  have hactual : arena.parameter? (.made tag) = some (some (a.mode, a.type.identity)) :=
    parameter?_eq ha
  have htype : arena.Has a.type := ha.part (List.mem_singleton_self _)
  rw [mismatch?, parameter?_eq hformal, hactual]
  cases formal with
  | parameter tag role mode type =>
    have hlt := h.rank_part_lt hformal (List.mem_singleton_self type)
    have hequiv := equiv?_eq h (hformal.part (List.mem_singleton_self type)) htype
      (Nat.lt_trans hlt hfuel)
    simp only [Argument.mismatch?, Ty.parameter?, Option.map_some, bind, Option.bind_some, hequiv]
    split
    . rfl
    . split <;> rfl
  | _ => rfl

end Agreement

end Arena

end PascalCheck
