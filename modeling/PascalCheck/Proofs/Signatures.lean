import PascalCheck.Proofs.Equivalence
import PascalCheck.Proofs.Functions.Result

/-!
The parameter list of a routine. It is read off the region of the routine before the routine's own
name is put there, and the routine is given it twice, in its region and around it. The list has one
parameter for each name, that of the first group with the name.
-/

namespace PascalCheck

namespace Attempt

theorem isSome_find?_firsts (as : List Attempt) (key : String) :
    (Entry.find? (firsts as) key).isSome = true ↔ key ∈ as.map Attempt.key := by
  rw [find?_firsts, Option.isSome_map, List.find?_isSome]
  simp

theorem map_name_firsts (as : List Attempt) :
    (firsts as).map (·.name) = (as.map Attempt.key).eraseDups := by
  induction as using List.reverseRecOn with
  | nil => rfl
  | append_singleton as a ih =>
    rw [firsts_append, Entry.add, List.map_append, List.eraseDups_append, ← ih,
      List.map_singleton, List.removeAll]
    by_cases hkey : a.key ∈ as.map Attempt.key
    . rw [if_pos ((isSome_find?_firsts as a.entry.name).mpr hkey),
        List.filter_cons_of_neg (by simpa using hkey)]
      exact (List.append_nil _).symm
    . rw [if_neg (mt (isSome_find?_firsts as a.entry.name).mp hkey),
        List.filter_cons_of_pos (by simpa using hkey), List.map_append]
      rfl

theorem find?_of_mem_firsts {as : List Attempt} {e : Entry} (he : e ∈ firsts as) :
    ∃ a, as.find? (·.key == e.name) = some a ∧ a.entry = e := by
  induction as using List.reverseRecOn with
  | nil => cases he
  | append_singleton as a ih =>
    rw [firsts_append, Entry.add] at he
    rw [List.find?_append]
    have hold (he : e ∈ firsts as) :
        ∃ b, (as.find? (·.key == e.name)).or ([a].find? (·.key == e.name)) = some b ∧
          b.entry = e := by
      obtain ⟨b, hb, hentry⟩ := ih he
      exact ⟨b, by rw [hb, Option.some_or], hentry⟩
    split at he
    . exact hold he
    next hfree =>
      rcases List.mem_append.mp he with he | he
      . exact hold he
      . cases List.mem_singleton.mp he
        rw [Bool.not_eq_true, Option.isSome_eq_false_iff, Option.isNone_iff_eq_none,
          find?_firsts, Option.map_eq_none_iff] at hfree
        refine ⟨a, ?_, rfl⟩
        rw [hfree]
        simp [entry]

end Attempt

namespace Group

def declares (g : Group) (key : String) : Bool :=
  g.names.any (canonicalName ·.value == key)

def attempts (g : Group) (tag : Nat) : List Attempt :=
  g.names.map fun name => ⟨name.value, .parameter tag .formal g.mode g.type.type, some name.span⟩

def allAttempts : List Group → Nat → List Attempt
  | [], _ => []
  | g :: groups, tag => g.attempts tag ++ allAttempts groups (tag + 1)

theorem map_key_allAttempts (groups : List Group) (tag : Nat) :
    (allAttempts groups tag).map Attempt.key =
      (groups.flatMap (·.names)).map (canonicalName ·.value) := by
  induction groups generalizing tag with
  | nil => rfl
  | cons g groups ih =>
    rw [allAttempts, List.map_append, ih, List.flatMap_cons, List.map_append]
    congr 1
    rw [attempts, List.map_map]
    rfl

theorem find?_attempts {g : Group} {tag : Nat} {key : String} {a : Attempt}
    (h : (g.attempts tag).find? (·.key == key) = some a) :
    g.declares key = true ∧ a.type = .parameter tag .formal g.mode g.type.type := by
  rw [attempts, List.find?_map, Option.map_eq_some_iff] at h
  obtain ⟨name, hname, rfl⟩ := h
  refine ⟨?_, rfl⟩
  rw [declares, List.any_eq_true]
  have hkey := List.find?_some hname
  exact ⟨name, List.mem_of_find?_eq_some hname, hkey⟩

theorem find?_attempts_eq_none_iff {g : Group} {tag : Nat} {key : String} :
    (g.attempts tag).find? (·.key == key) = none ↔ g.declares key = false := by
  rw [attempts, List.find?_map, Option.map_eq_none_iff, List.find?_eq_none, declares,
    List.any_eq_false]
  rfl

theorem find?_allAttempts {groups : List Group} {tag : Nat} {key : String} {a : Attempt}
    (h : (allAttempts groups tag).find? (·.key == key) = some a) :
    ∃ g tag', groups.find? (·.declares key) = some g ∧
      a.type = .parameter tag' .formal g.mode g.type.type := by
  induction groups generalizing tag with
  | nil => cases h
  | cons g groups ih =>
    rw [allAttempts, List.find?_append, Option.or_eq_some_iff] at h
    rcases h with hfirst | ⟨hnone, hrest⟩
    . obtain ⟨hdeclares, htype⟩ := find?_attempts hfirst
      exact ⟨g, tag, List.find?_cons_of_pos hdeclares, htype⟩
    . rw [find?_attempts_eq_none_iff] at hnone
      rw [List.find?_cons_of_neg (Bool.not_eq_true _ ▸ hnone)]
      exact ih hrest

end Group

theorem Context.inner_defineAll (ctx : Context) (names : List Name) (type : Ty) :
    (ctx.defineAll names type).scope.inner =
      (names.map fun name => Attempt.mk name.value type (some name.span)).foldl Frame.attempt
        ctx.scope.inner := by
  induction names generalizing ctx with
  | nil => rfl
  | cons name names ih =>
    rw [List.map_cons, List.foldl_cons]
    refine (ih (ctx.define name type)).trans ?_
    rw [scope_define, Scope.define?_getD]
    rfl

theorem Context.nextTag_defineAll (ctx : Context) (names : List Name) (type : Ty) :
    (ctx.defineAll names type).nextTag = ctx.nextTag := by
  induction names generalizing ctx with
  | nil => rfl
  | cons name names ih => exact (ih (ctx.define name type)).trans (ctx.nextTag_define name type)

theorem Group.inner_checkAll (groups : List Group) (ctx : Context) :
    (groups.foldl (fun ctx g => g.check ctx) ctx).scope.inner =
      (allAttempts groups ctx.nextTag).foldl Frame.attempt ctx.scope.inner := by
  induction groups generalizing ctx with
  | nil => rfl
  | cons g groups ih =>
    have htag : (g.check ctx).nextTag = ctx.nextTag + 1 := by
      rw [check_eq]
      exact Context.nextTag_defineAll _ _ _
    have hinner : (g.check ctx).scope.inner =
        (g.attempts ctx.nextTag).foldl Frame.attempt ctx.scope.inner := by
      rw [check_eq]
      exact Context.inner_defineAll _ _ _
    rw [List.foldl_cons, ih, htag, hinner, allAttempts, List.foldl_append]

namespace Routine

def parameterNames (r : Routine) : List String :=
  (r.groups.flatMap (·.names)).map (canonicalName ·.value)

def IsFormal (r : Routine) (key : String) (type : Ty) : Prop :=
  ∃ g tag, r.groups.find? (·.declares key) = some g ∧
    type = .parameter tag .formal g.mode g.type.type

variable (r : Routine) (ctx : Context)

theorem entries_entered :
    (r.entered ctx).scope.inner.entries =
      Attempt.firsts (Group.allAttempts r.groups ctx.nextTag) := by
  rw [entered, Group.inner_checkAll, ← Frame.entries_attempts_empty]
  cases r.result? <;> rfl

theorem params_formal : List.Forall₂ r.IsFormal r.parameterNames.eraseDups (r.params ctx) := by
  rw [params, entries_entered, parameterNames, ← Group.map_key_allAttempts r.groups ctx.nextTag,
    ← Attempt.map_name_firsts, List.forall₂_map_left_iff, List.forall₂_map_right_iff,
    List.forall₂_same]
  intro e he
  obtain ⟨a, ha, rfl⟩ := Attempt.find?_of_mem_firsts he
  exact Group.find?_allAttempts ha

theorem params_own : (r.own ctx).params = r.params ctx := by
  unfold own type
  split <;> rfl

theorem params_outer : (r.outer ctx).params = r.params ctx := by
  unfold outer type
  split <;> rfl

theorem arePlain_params : Ty.arePlainParams (r.params ctx) = true := by
  have hformal := r.params_formal ctx
  generalize r.parameterNames.eraseDups = names, r.params ctx = params at hformal
  induction hformal with
  | nil => rfl
  | cons htype _ ih =>
    obtain ⟨g, tag, -, rfl⟩ := htype
    rw [Ty.arePlainParams, ih, TypeName.type, Ty.isPlain, Bool.and_self]

theorem type_equiv (tag tag' : Nat) :
    (r.type (r.params ctx) tag).equiv (r.type (r.params ctx) tag') = true := by
  rw [Ty.equiv_iff]
  unfold type
  split
  . exact ⟨r.arePlain_params ctx, rfl⟩
  . exact ⟨r.arePlain_params ctx, rfl⟩

theorem type?_check : (r.check ctx).records.type? r.name.id = some (r.outer ctx) := by
  rw [check_eq_inside, Context.leave]
  simp only [Context.records_define]
  split <;> simp [Context.make, Context.add, Context.note, Context.noteScope, Context.pop,
    Findings.record, Records.type?, outer, Findings.error]

theorem getInner?_check (h : ctx.scope.getInner? r.name.value = none) :
    (r.check ctx).scope.getInner? r.name.value =
      some ⟨canonicalName r.name.value, r.outer ctx, some r.name.span⟩ := by
  rw [scope_check, ← Context.scope_define]
  exact Context.getInner?_define_self _ h

end Routine

theorem Block.above_moment {b : Block} {ctx : Context} {done : List Action}
    (h : done <+: b.plan ctx) : ∃ count, ctx.scope.Above (ctx.run done).scope count := by
  obtain ⟨rest, hrest⟩ := h
  have hdeclares : b.plan.Declares b b _ _ := Block.plan_declares b
  obtain ⟨horderly, -⟩ := hdeclares ctx (.ofFrame ctx.scope.inner) [] rfl
  rw [← hrest, Context.orderly_append] at horderly
  exact ⟨_, ((Context.Shows.ofFrame b ctx).run horderly.1).above⟩

namespace Routine

variable {r : Routine} {ctx : Context}

theorem frames_moment (h : ¬ r.Hidden) {done : List Action}
    (hdone : done <+: r.block.plan (r.inside ctx)) :
    ∃ further frame, ((r.inside ctx).run done).scope.frames =
        further ++ frame :: ctx.scope.frames ∧
      frame.get? (canonicalName r.name.value) =
        some ⟨canonicalName r.name.value, r.own ctx, some r.name.span⟩ := by
  obtain ⟨count, habove⟩ := Block.above_moment hdone
  obtain ⟨further, inner, hframes, -, entries, hentries⟩ := habove.frames
  have houter : (r.inside ctx).scope.outer = ctx.scope.frames :=
    (r.inside_grows ctx).outer.trans (r.entered_grows ctx).outer
  have hinside : (r.inside ctx).scope.getInner? r.name.value = some _ :=
    Context.getInner?_define_self (r.own ctx) ((r.getInner?_entered ctx).mpr h)
  refine ⟨further, inner, ?_, ?_⟩
  . rw [hframes, houter]
  . rw [Scope.getInner?_eq_find?] at hinside
    rw [Frame.get?_eq_find?, ← hentries, Entry.find?_append, hinside, Option.some_or]

theorem signature_inside_and_outside (r : Routine) (ctx : Context) :
    ctx.run (r.plan ctx) = r.check ctx ∧
    r.plan.ComesTo ctx r.block.plan (r.inside ctx) ∧
    (¬ r.Hidden → ∀ done, done <+: r.block.plan (r.inside ctx) →
      ∃ further frame, ((r.inside ctx).run done).scope.frames =
          further ++ frame :: ctx.scope.frames ∧
        frame.get? (canonicalName r.name.value) =
          some ⟨canonicalName r.name.value, r.own ctx, some r.name.span⟩) ∧
    (r.check ctx).records.type? r.name.id = some (r.outer ctx) ∧
    (ctx.scope.getInner? r.name.value = none → (r.check ctx).scope.getInner? r.name.value =
      some ⟨canonicalName r.name.value, r.outer ctx, some r.name.span⟩) ∧
    (r.own ctx).params = (r.outer ctx).params ∧
    (r.own ctx).equiv (r.outer ctx) = true ∧
    (r.outer ctx).equiv (r.own ctx) = true ∧
    List.Forall₂ r.IsFormal r.parameterNames.eraseDups (r.outer ctx).params := by
  refine ⟨r.plan_does ctx, r.plan_comesTo_block ctx, ?_, r.type?_check ctx,
    r.getInner?_check ctx, ?_, r.type_equiv ctx _ _, r.type_equiv ctx _ _, ?_⟩
  . exact fun h done hdone => frames_moment h hdone
  . rw [params_own, params_outer]
  . rw [params_outer]
    exact r.params_formal ctx

end Routine

namespace Sample

def sharedNames : Routine :=
  -- `procedure p(a, B : integer; var A, c : real); var P : char; begin end`
  .procedure (node 0) ⟨node 1, "p"⟩
    (some [⟨node 2, .value, [⟨node 3, "a"⟩, ⟨node 4, "B"⟩], ⟨node 5, ⟨node 6, .integer⟩⟩⟩,
      ⟨node 7, .var, [⟨node 8, "A"⟩, ⟨node 9, "c"⟩], ⟨node 10, ⟨node 11, .real⟩⟩⟩])
    (.mk (node 12) none
      (some ⟨node 13, [⟨node 14, [⟨node 15, "P"⟩], .named ⟨node 16, ⟨node 17, .char⟩⟩⟩]⟩) .absent
      ⟨node 18, .empty (node 19)⟩)

theorem sharedNames_signature :
    (∃ further frame, (sharedNames.block.check (sharedNames.inside .empty)).scope.frames =
        further ++ frame :: Context.empty.scope.frames ∧
      frame.get? "p" = some ⟨"p", sharedNames.own .empty, some sharedNames.name.span⟩) ∧
    (sharedNames.check .empty).scope.getInner? "p" =
      some ⟨"p", sharedNames.outer .empty, some sharedNames.name.span⟩ ∧
    List.Forall₂ sharedNames.IsFormal ["a", "b", "c"] (sharedNames.outer .empty).params := by
  obtain ⟨-, -, hinside, -, hcheck, -, -, -, hformal⟩ :=
    sharedNames.signature_inside_and_outside .empty
  have hshown : ¬ sharedNames.Hidden := by
    rw [← Routine.getInner?_entered sharedNames .empty]
    rfl
  refine ⟨?_, hcheck rfl, hformal⟩
  rw [← sharedNames.block.plan_does]
  exact hinside hshown _ (List.prefix_refl _)

end Sample

end PascalCheck
