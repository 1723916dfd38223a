import Mathlib.Data.List.Induction
import PascalCheck.Proofs.Arena.Check
import PascalCheck.Proofs.Regions.Depth

/-!
Contexts that are worked on in any order: types are made, names are bound, regions are opened and
closed, programs are checked. No operation on a type that such a context holds can fail, neither
between these steps nor at any moment of a check.
-/

namespace PascalCheck

section

variable [Naming]

/-- The contexts that can be reached from an empty one, with the types made on the way. -/
inductive Context.Reachable : Context → Arena → Prop where
  | new : Reachable .empty []
  | make {ctx : Context} {arena : Arena} {t : Ty} : Reachable ctx arena → arena.Allows t →
    Reachable { ctx with nextTag := ctx.nextTag + 1 } (arena ++ [t.kind])
  | define {ctx : Context} {arena : Arena} {t : Ty} (name : String) (place : Option Span) :
    Reachable ctx arena → arena.Has t →
    Reachable { ctx with scope := (ctx.scope.define? name t place).getD ctx.scope } arena
  | push {ctx : Context} {arena : Arena} : Reachable ctx arena → Reachable ctx.push arena
  | pop {ctx : Context} {arena : Arena} {scope : Scope} : Reachable ctx arena →
    ctx.scope.pop? = some scope → Reachable { ctx with scope } arena
  | check {ctx : Context} {arena : Arena} (p : Program) {table : Predefined} :
    Reachable ctx arena → (∀ entry ∈ table, arena.Has entry.type) →
    Reachable (p.check table ctx) (arena.after ctx (p.plan table ctx))

namespace Context.Reachable

variable {ctx : Context} {arena : Arena}

theorem supports (h : ctx.Reachable arena) : arena.Supports ctx := by
  induction h with
  | new =>
    refine ⟨Arena.founded_nil, rfl, ?_, ?_⟩
    . simp [Scope.Within, Scope.entries, Context.empty, Scope.empty]
    . simp [Context.empty]
  | make _ ht ih => exact ih.make ht
  | define name place _ ht ih =>
    exact ⟨ih.founded, ih.size, ih.scope.define_getD name place ht, ih.records⟩
  | push _ ih => exact ⟨ih.founded, ih.size, ih.scope.push, ih.records⟩
  | pop _ hpop ih =>
    have hscope := ih.scope.pop
    rw [hpop] at hscope
    exact ⟨ih.founded, ih.size, hscope, ih.records⟩
  | @check ctx arena p table _ htable ih =>
    rw [← p.plan_does]
    exact ih.run (p.plan_fits table arena ctx ih (List.forall_mem_map.mpr htable))

end Context.Reachable

namespace Ty

mutual

def kinds : Ty → List Kind
  | .primitive _ | .sentinel _ => []
  | .file tag type => type.kinds ++ [(Ty.file tag type).kind]
  | .parameter tag role mode type => type.kinds ++ [(Ty.parameter tag role mode type).kind]
  | .procedure tag params => allKinds params ++ [(Ty.procedure tag params).kind]
  | .function tag params result =>
    allKinds params ++ result.kinds ++ [(Ty.function tag params result).kind]
  | .overload tag alternatives => allKinds alternatives ++ [(Ty.overload tag alternatives).kind]

def allKinds : List Ty → List Kind
  | [] => []
  | t :: ts => t.kinds ++ allKinds ts

end

theorem allKinds_append (ts us : List Ty) : allKinds (ts ++ us) = allKinds ts ++ allKinds us := by
  induction ts with
  | nil => rfl
  | cons t ts ih => rw [List.cons_append, allKinds, allKinds, ih, List.append_assoc]

theorem allKinds_singleton (t : Ty) : allKinds [t] = t.kinds := by
  rw [allKinds, allKinds, List.append_nil]

theorem kinds_of_isBuiltIn {t : Ty} (h : t.isBuiltIn = true) : t.kinds = [] := by
  cases t with
  | primitive _ | sentinel _ => rw [kinds]
  | _ => cases h

theorem kinds_of_identity {t : Ty} {tag : Nat} (h : t.identity = .made tag) :
    t.kinds = allKinds t.parts ++ [t.kind] := by
  cases t with
  | primitive _ | sentinel _ => cases h
  | file _ _ | parameter _ _ _ _ => rw [kinds, parts, allKinds_singleton]
  | procedure _ _ | overload _ _ => rw [kinds, parts]
  | function _ _ _ => rw [kinds, parts, allKinds_append, allKinds_singleton]

end Ty

namespace Context

structure Makes (ctx : Context) (arena : Arena) (made : List Ty) (next : Nat) : Prop where
  reachable : Reachable { ctx with nextTag := next } (arena ++ Ty.allKinds made)
  has : ∀ t ∈ made, Arena.Has (arena ++ Ty.allKinds made) t

namespace Makes

variable {ctx : Context} {arena : Arena}

theorem nothing (h : ctx.Reachable arena) : ctx.Makes arena [] ctx.nextTag := by
  refine ⟨?_, by simp⟩
  rw [Ty.allKinds, List.append_nil]
  exact h

theorem builtIn (h : ctx.Reachable arena) {t : Ty} (ht : t.isBuiltIn = true) :
    ctx.Makes arena [t] ctx.nextTag := by
  refine ⟨?_, List.forall_mem_singleton.mpr (.of_isBuiltIn ht)⟩
  rw [Ty.allKinds_singleton, Ty.kinds_of_isBuiltIn ht, List.append_nil]
  exact h

theorem andThen {first second : List Ty} {k next : Nat} (hfirst : ctx.Makes arena first k)
    (hsecond : ∀ arena, Reachable { ctx with nextTag := k } arena →
      Makes { ctx with nextTag := k } arena second next) :
    ctx.Makes arena (first ++ second) next := by
  obtain ⟨hreachable, hhas⟩ := hsecond _ hfirst.reachable
  rw [List.append_assoc, ← Ty.allKinds_append] at hreachable hhas
  refine ⟨hreachable, List.forall_mem_append.mpr ⟨?_, hhas⟩⟩
  intro t ht
  rw [Ty.allKinds_append, ← List.append_assoc]
  exact (hfirst.has t ht).append _

theorem outer {t : Ty} {next : Nat} (h : ctx.Makes arena t.parts next)
    (htag : t.identity = .made next) (hmade : t.kind.isMade = true) :
    ctx.Makes arena [t] (next + 1) := by
  -- A type is made after the types inside it.
  have hsize : (arena ++ Ty.allKinds t.parts).length = next := h.reachable.supports.size
  have hkinds : arena ++ Ty.allKinds [t] = arena ++ Ty.allKinds t.parts ++ [t.kind] := by
    rw [Ty.allKinds_singleton, Ty.kinds_of_identity htag, List.append_assoc]
  rw [← hsize] at htag
  constructor
  . rw [hkinds]
    exact h.reachable.make ⟨htag, h.has, hmade⟩
  . rw [hkinds]
    exact List.forall_mem_singleton.mpr (.last htag h.has)

end Makes

end Context

namespace Ty

mutual

def isMakeable : Ty → Bool
  | .primitive _ | .sentinel _ => true
  | .file _ type | .parameter _ _ _ type => type.isMakeable
  | .procedure _ params => allMakeable params
  | .function _ params result => allMakeable params && result.isMakeable
  | .overload _ alternatives => !alternatives.isEmpty && allMakeable alternatives

def allMakeable : List Ty → Bool
  | [] => true
  | t :: ts => t.isMakeable && allMakeable ts

end

theorem freshAll_total {ts : List Ty}
    (ih : ∀ t ∈ ts, t.isMakeable = true → ∀ n, ∃ made next, t.fresh n = .ok (made, next))
    (h : allMakeable ts = true) (n : Nat) :
    ∃ made next, freshAll ts n = .ok (made, next) ∧ made.isEmpty = ts.isEmpty := by
  induction ts generalizing n with
  | nil => exact ⟨[], n, freshAll_nil n, rfl⟩
  | cons t ts ihts =>
    rw [List.forall_mem_cons] at ih
    rw [allMakeable, Bool.and_eq_true] at h
    obtain ⟨t', k, ht⟩ := ih.1 h.1 n
    obtain ⟨ts', m, hts, -⟩ := ihts ih.2 h.2 k
    refine ⟨t' :: ts', m, ?_, rfl⟩
    simp only [freshAll_cons, ht, Except.bind, hts, Except.map]

theorem fresh_total (t : Ty) (h : t.isMakeable = true) (n : Nat) :
    ∃ made next, t.fresh n = .ok (made, next) := by
  induction t using Ty.induction generalizing n with
  | primitive p => exact ⟨.primitive p, n, fresh_primitive p n⟩
  | sentinel s => exact ⟨.sentinel s, n, fresh_sentinel s n⟩
  | file tag component ih =>
    rw [isMakeable] at h
    obtain ⟨made, next, hmade⟩ := ih h n
    exact ⟨.file next made, next + 1, by rw [fresh_file, hmade, Except.map]⟩
  | parameter tag role mode type ih =>
    rw [isMakeable] at h
    obtain ⟨made, next, hmade⟩ := ih h n
    exact ⟨.parameter next role mode made, next + 1, by rw [fresh_parameter, hmade, Except.map]⟩
  | procedure tag params ih =>
    rw [isMakeable] at h
    obtain ⟨made, next, hmade, -⟩ := freshAll_total ih h n
    exact ⟨.procedure next made, next + 1, by rw [fresh_procedure, hmade, Except.map]⟩
  | function tag params result ih ihresult =>
    rw [isMakeable, Bool.and_eq_true] at h
    obtain ⟨params', k, hparams, -⟩ := freshAll_total ih h.1 n
    obtain ⟨result', m, hresult⟩ := ihresult h.2 k
    refine ⟨.function m params' result', m + 1, ?_⟩
    simp only [fresh_function, hparams, Except.bind, hresult, Except.map]
  | overload tag alternatives ih =>
    rw [isMakeable, Bool.and_eq_true, Bool.not_eq_true'] at h
    obtain ⟨made, next, hmade, hempty⟩ := freshAll_total ih h.2 n
    refine ⟨.overload next made, next + 1, ?_⟩
    simp only [fresh_overload, hmade, Except.bind, hempty, h.1, Bool.false_eq_true, if_false]

open Context (Reachable)

theorem freshAll_reachable {ts : List Ty}
    (ih : ∀ t ∈ ts, ∀ (ctx : Context) (arena : Arena) (made : Ty) (next : Nat),
      ctx.Reachable arena → t.fresh ctx.nextTag = .ok (made, next) → ctx.Makes arena [made] next)
    {ctx : Context} {arena : Arena} {made : List Ty} {next : Nat} (h : ctx.Reachable arena)
    (hfresh : freshAll ts ctx.nextTag = .ok (made, next)) : ctx.Makes arena made next := by
  induction ts generalizing ctx arena made with
  | nil =>
    rw [freshAll_nil] at hfresh
    cases hfresh
    exact .nothing h
  | cons t ts ihts =>
    rw [List.forall_mem_cons] at ih
    rw [freshAll_cons] at hfresh
    obtain ⟨⟨t', k⟩, ht, hfresh⟩ := exists_of_bind_eq_ok hfresh
    obtain ⟨⟨ts', m⟩, hts, hfresh⟩ := exists_of_map_eq_ok hfresh
    cases hfresh
    exact (ih.1 ctx arena t' k h ht).andThen fun arena' h' => ihts ih.2 h' hts

theorem fresh_reachable (t : Ty) (ctx : Context) (arena : Arena) (made : Ty) (next : Nat)
    (h : ctx.Reachable arena) (hfresh : t.fresh ctx.nextTag = .ok (made, next)) :
    ctx.Makes arena [made] next := by
  induction t using Ty.induction generalizing ctx arena made next with
  | primitive p =>
    rw [fresh_primitive] at hfresh
    cases hfresh
    exact .builtIn h rfl
  | sentinel s =>
    rw [fresh_sentinel] at hfresh
    cases hfresh
    exact .builtIn h rfl
  | file tag component ih =>
    rw [fresh_file] at hfresh
    obtain ⟨⟨component', m⟩, hcomponent, hfresh⟩ := exists_of_map_eq_ok hfresh
    cases hfresh
    exact (ih ctx arena component' m h hcomponent).outer rfl rfl
  | parameter tag role mode type ih =>
    rw [fresh_parameter] at hfresh
    obtain ⟨⟨type', m⟩, htype, hfresh⟩ := exists_of_map_eq_ok hfresh
    cases hfresh
    exact (ih ctx arena type' m h htype).outer rfl rfl
  | procedure tag params ih =>
    rw [fresh_procedure] at hfresh
    obtain ⟨⟨params', m⟩, hparams, hfresh⟩ := exists_of_map_eq_ok hfresh
    cases hfresh
    exact (freshAll_reachable ih h hparams).outer rfl rfl
  | function tag params result ih ihresult =>
    rw [fresh_function] at hfresh
    obtain ⟨⟨params', k⟩, hparams, hfresh⟩ := exists_of_bind_eq_ok hfresh
    obtain ⟨⟨result', m⟩, hresult, hfresh⟩ := exists_of_map_eq_ok hfresh
    cases hfresh
    have hparts := (freshAll_reachable ih h hparams).andThen
      fun arena' h' => ihresult _ arena' result' m h' hresult
    exact Context.Makes.outer hparts rfl rfl
  | overload tag alternatives ih =>
    rw [fresh_overload] at hfresh
    obtain ⟨⟨alternatives', m⟩, halternatives, hfresh⟩ := exists_of_bind_eq_ok hfresh
    simp only at hfresh
    split at hfresh
    . cases hfresh
    next hempty =>
      cases hfresh
      refine (freshAll_reachable ih h halternatives).outer rfl ?_
      cases alternatives' with
      | nil => exact absurd rfl hempty
      | cons first rest => rfl

end Ty

theorem Predefined.fresh_reachable {table made : Predefined} {ctx : Context} {arena : Arena}
    {next : Nat} (h : ctx.Reachable arena) (hfresh : table.fresh ctx.nextTag = .ok (made, next)) :
    ctx.Makes arena (made.map (·.type)) next := by
  induction table generalizing ctx arena made with
  | nil =>
    rw [fresh_nil] at hfresh
    cases hfresh
    exact .nothing h
  | cons entry table ih =>
    rw [fresh_cons] at hfresh
    obtain ⟨⟨type, k⟩, htype, hfresh⟩ := exists_of_bind_eq_ok hfresh
    obtain ⟨⟨table', m⟩, htable, hfresh⟩ := exists_of_map_eq_ok hfresh
    cases hfresh
    exact (entry.type.fresh_reachable ctx arena type k h htype).andThen fun arena' h' => ih h' htable

theorem Predefined.fresh_total {table : Predefined}
    (h : ∀ entry ∈ table, entry.type.isMakeable = true) (n : Nat) :
    ∃ made next, table.fresh n = .ok (made, next) := by
  induction table generalizing n with
  | nil => exact ⟨[], n, fresh_nil n⟩
  | cons entry table ih =>
    rw [List.forall_mem_cons] at h
    obtain ⟨type, k, htype⟩ := entry.type.fresh_total h.1 n
    obtain ⟨table', m, htable⟩ := ih h.2 k
    refine ⟨{ entry with type } :: table', m, ?_⟩
    simp only [fresh_cons, htype, Except.bind, htable, Except.map]

theorem Predefined.exists_not_isMakeable {table : Predefined} {n : Nat} {fault : Fault}
    (h : table.fresh n = .error fault) : ∃ entry ∈ table, entry.type.isMakeable = false := by
  by_contra hmakeable
  simp only [not_exists, not_and, Bool.not_eq_false] at hmakeable
  obtain ⟨made, next, htotal⟩ := fresh_total hmakeable n
  rw [h] at htotal
  cases htotal

namespace Arena

variable {arena : Arena}

theorem Founded.reachable (h : arena.Founded) :
    Context.Reachable { Context.empty with nextTag := arena.length } arena := by
  induction arena using List.reverseRecOn with
  | nil => exact .new
  | append_singleton arena kind ih =>
    have hreachable := ih h.of_append
    obtain ⟨t, hidentity, ht⟩ := h.exists_type (kind?_last arena kind)
    have hknown := ht.known
    rw [hidentity, kind?_last] at hknown
    cases hknown
    -- What is inside the last type is older, so the arena has it without this type.
    have hparts : ∀ part ∈ t.parts, Has arena part := by
      intro part hpart
      have hlt := h.rank_part_lt ht hpart
      rw [hidentity] at hlt
      exact (ht.part hpart).of_append h (Nat.le_of_lt_succ hlt)
    have hmade : t.kind.isMade = true := h.made t.kind (by simp)
    rw [List.length_append]
    exact hreachable.make ⟨hidentity, hparts, hmade⟩

def predefining (arena : Arena) (made : Predefined) : Arena :=
  arena ++ Ty.allKinds (made.map (·.type))

theorem Supports.fresh {ctx : Context} (h : arena.Supports ctx) {table made : Predefined}
    {next : Nat} (hfresh : table.fresh ctx.nextTag = .ok (made, next)) :
    (arena.predefining made).Supports { ctx with nextTag := next } ∧
      ∀ entry ∈ made, (arena.predefining made).Has entry.type := by
  rw [← h.size] at hfresh
  obtain ⟨hreachable, hmade⟩ := Predefined.fresh_reachable h.founded.reachable hfresh
  have hsupports := hreachable.supports
  refine ⟨⟨hsupports.founded, hsupports.size, ?_, ?_⟩, List.forall_mem_map.mp hmade⟩
  . exact fun e he => (h.scope e he).append _
  . exact fun r hr => (h.records r hr).append _

end Arena

def Scope.stack (s : Scope) : List Frame :=
  s.frames.reverse

theorem Scope.stack_current (s : Scope) : s.stack[s.depth - 1]? = some s.inner := by
  simp [stack, frames, depth]

/-- Every look at a type that the context holds, or that is found in it, succeeds. -/
structure Arena.Serves (arena : Arena) (ctx : Context) : Prop where
  entries : ∀ e ∈ ctx.scope.entries, arena.Has e.type
  records : ∀ r ∈ ctx.records, arena.Has r.type
  consts : ∀ c : Const, arena.Has (c.check ctx.scope).type
  exprs : ∀ e : Expr, arena.Has (e.check ctx.scope).type
  kinds : ∀ t, arena.Has t → arena.kind? t.identity = some t.kind
  types : ∀ id, (arena.kind? id).isSome → ∃ t : Ty, t.identity = id ∧ arena.Has t
  inner : ∀ id kind, arena.kind? id = some kind →
    ∀ inner ∈ kind.inner, (arena.kind? inner).isSome ∧ inner.rank < id.rank
  overload : ∀ id, arena.kind? id ≠ some (.overload [])
  equiv : ∀ t u fuel, arena.Has t → arena.Has u → arena.length < fuel →
    arena.equiv? fuel t.identity u.identity = some (t.equiv u)
  text : ∀ t fuel, arena.Has t → arena.length < fuel → arena.text? fuel t.identity = some t.text
  routineKind : ∀ t, arena.Has t → arena.routineKind? t.identity = some t.routineKind?
  arguments : ∀ (a : Argument) tag formal fuel, arena.Has (.parameter tag .actual a.mode a.type) →
    arena.Has formal → arena.length < fuel →
    arena.mismatch? fuel formal.identity (.made tag) = some (a.mismatch? formal)
  frames : ∀ frame ∈ ctx.scope.frames, ∀ name, frame.read? name = some (frame.get? name)
  current : ctx.scope.stack[ctx.scope.depth - 1]? = some ctx.scope.inner

/--
While the calls of a statement are checked, the types of the arguments that were passed so far are
there.
-/
structure Arena.ServesCalls (arena : Arena) (ctx : Context) (passed : List Findings.Actual) :
    Prop where
  descriptors : ∀ (i : Nat) (a : Findings.Actual), passed[i]? = some a →
    Has (arena ++ passed.map (·.kind)) (a.descriptor (ctx.nextTag + i))
  serves : Serves (arena ++ passed.map (·.kind)) ctx

theorem Arena.Supports.serves {arena : Arena} {ctx : Context} (h : arena.Supports ctx) :
    arena.Serves ctx where
  entries := h.scope
  records := h.records
  consts c := (c.check_within arena.has_closed.builtIn h.scope).type
  exprs e := (e.check_within arena.has_closed h.scope).type
  kinds t ht := ht.known
  types id hid := by
    obtain ⟨kind, hkind⟩ := Option.isSome_iff_exists.mp hid
    exact h.founded.exists_type hkind
  inner id kind hkind inner hinner := (h.founded.inner hkind inner hinner).symm
  overload id hempty := by
    cases id with
    | made tag => cases h.founded.isMade hempty
    | _ => cases hempty
  equiv t u fuel ht hu hfuel := equiv?_eq h.founded ht hu (Nat.lt_of_le_of_lt ht.rank_le hfuel)
  text t fuel ht hfuel := text?_eq h.founded ht (Nat.lt_of_le_of_lt ht.rank_le hfuel)
  routineKind t ht := routineKind?_eq h.founded ht
  arguments a tag formal fuel ha hformal hfuel :=
    mismatch?_eq h.founded hformal ha (Nat.lt_of_le_of_lt hformal.rank_le hfuel)
  frames frame _ := frame.read?_eq_get?
  current := ctx.scope.stack_current

theorem Arena.Supports.servesCalls {arena : Arena} {ctx : Context} (h : arena.Supports ctx)
    {stmt : Stmt} {passed : List Findings.Actual}
    (hpassed : passed <+: (stmt.check ctx.scope).actuals) : arena.ServesCalls ctx passed := by
  have htypes : ∀ a ∈ passed, arena.Has a.type := fun a ha =>
    (stmt.check_within arena.has_closed h.scope).actuals a (hpassed.subset ha)
  have hserves := (h.pass htypes).serves
  exact ⟨fun i a ha => h.has_descriptor htypes ha, { hserves with }⟩

namespace Context

theorem Reachable.types_never_fail {ctx : Context} {arena : Arena} (h : ctx.Reachable arena) :
    arena.Serves ctx ∧
    (∀ (p : Program) (table : Predefined), (∀ entry ∈ table, arena.Has entry.type) →
      ctx.run (p.plan table ctx) = p.check table ctx ∧
      ∀ done, done <+: p.plan table ctx →
        (arena.after ctx done).Serves (ctx.run done) ∧
        (done ++ [.leave] <+: p.plan table ctx → (ctx.run done).scope.pop?.isSome) ∧
        ∀ (stmt : Stmt) (passed : List Findings.Actual),
          passed <+: (stmt.check (ctx.run done).scope).actuals →
          (arena.after ctx done).ServesCalls (ctx.run done) passed) ∧
    ∀ table : Predefined, (∀ entry ∈ table, entry.type.isMakeable = true) →
      ∃ made next, ctx.Makes arena (made.map (·.type)) next ∧
        ∀ p : Program, p.checkWith table ctx = .ok (p.check made { ctx with nextTag := next }) := by
  refine ⟨h.supports.serves, ?_, ?_⟩
  . intro p table htable
    refine ⟨p.plan_does table ctx, ?_⟩
    rintro done ⟨rest, hrest⟩
    have hfits := p.plan_fits table arena ctx h.supports (List.forall_mem_map.mpr htable)
    rw [← hrest, Arena.fits_append] at hfits
    have hsupports := h.supports.run hfits.1
    exact ⟨hsupports.serves, fun hleave => Program.pop?_isSome hleave,
      fun _ _ hpassed => hsupports.servesCalls hpassed⟩
  . intro table htable
    obtain ⟨made, next, hmade⟩ := Predefined.fresh_total htable ctx.nextTag
    exact ⟨made, next, Predefined.fresh_reachable h hmade, fun p => p.checkWith_of_fresh hmade⟩

end Context

end

theorem Required.table_isMakeable : ∀ entry ∈ Required.table, entry.type.isMakeable = true := by
  decide

def Sample.callsRepeated : Stmt :=
  -- `q(1)`
  .call (node 42) ⟨node 43, "q"⟩ (some [.const (node 44) (.integer (node 45) ⟨node 46, "1"⟩)])

theorem Sample.repeated_types_never_fail :
    (Arena.after [] Context.empty.push (Sample.repeated.plan [] Context.empty.push)).Serves
      (Sample.repeated.check [] Context.empty.push) ∧
    ((callsRepeated.check (Sample.repeated.check [] Context.empty.push).scope).actuals ≠ [] ∧
      (Arena.after [] Context.empty.push (Sample.repeated.plan [] Context.empty.push)).ServesCalls
        (Sample.repeated.check [] Context.empty.push)
        (callsRepeated.check (Sample.repeated.check [] Context.empty.push).scope).actuals) ∧
    ∃ after, Sample.answer.checkWith Required.table (Sample.repeated.check [] Context.empty.push) =
      .ok after := by
  have hactuals :
      (callsRepeated.check (Sample.repeated.check [] Context.empty.push).scope).actuals ≠ [] := by
    decide +kernel
  have hreachable : (Sample.repeated.check [] Context.empty.push).Reachable
      (Arena.after [] Context.empty.push (Sample.repeated.plan [] Context.empty.push)) :=
    .check Sample.repeated (.push .new) (by simp)
  generalize Sample.repeated.check [] Context.empty.push = ctx,
    Arena.after [] Context.empty.push _ = arena at hactuals hreachable
  have h := hreachable.types_never_fail
  obtain ⟨-, hmoments⟩ := h.2.1 Sample.answer [] (by simp)
  obtain ⟨-, -, hcalls⟩ := hmoments [] List.nil_prefix
  have hserves := hcalls callsRepeated _ List.prefix_rfl
  rw [Arena.after, Context.made, List.append_nil] at hserves
  obtain ⟨made, next, -, hcheck⟩ := h.2.2 Required.table Required.table_isMakeable
  exact ⟨h.1, ⟨hactuals, hserves⟩, _, hcheck Sample.answer⟩

end PascalCheck
