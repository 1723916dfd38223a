import PascalCheck.Proofs.Blocks
import PascalCheck.Proofs.Isolation

/-!
When a function is reported to lack its result. The result is given by an assignment right in the
statement part whose target is the function itself, whatever is assigned, unless that is a function
with the same parameters. The check finds it by the type that the assignment is recorded with, and
no other function has that type.
-/

namespace PascalCheck

namespace Stmt

variable {scope : Scope}

def resultType? (scope : Scope) : Stmt → Option Ty
  | .assign info target value =>
    if (Stmt.assign info target value).givesResult scope then
      some (Name.check scope target.name).type
    else none
  | _ => none

theorem exists_entry_of_resultType? {s : Stmt} {t : Ty} (h : s.resultType? scope = some t) :
    t.isFunction = true ∧ ∃ e ∈ scope.entries, e.type = t := by
  cases s with
  | assign info target value =>
    rw [resultType?, Option.ite_none_right_eq_some, Option.some_inj] at h
    obtain ⟨hresult, rfl⟩ := h
    have hfunction := (Bool.and_eq_true_iff.mp hresult).1
    refine ⟨hfunction, ?_⟩
    unfold Name.check at hfunction ⊢
    cases hlookup : scope.lookup? target.name.value with
    | none =>
      rw [hlookup] at hfunction
      cases hfunction
    | some t => exact Scope.exists_entry_of_lookup? hlookup
  | _ => cases h

theorem ids_check_subset (s : Stmt) : (s.check scope).ids ⊆ s.all.flatMap ids := by
  intro id hid
  obtain ⟨c, hc, hid⟩ := (s.mem_ids_check scope id).mp hid
  exact List.mem_flatMap.mpr ⟨c, hc, c.annotated_subset scope hid⟩

theorem info_mem_ids (s : Stmt) : s.info.id ∈ s.all.flatMap ids := by
  rw [all_eq, List.flatMap_cons]
  exact List.mem_append_left _ List.mem_cons_self

theorem info_not_mem_ids_check {s : Stmt} (hnodup : (s.all.flatMap ids).Nodup)
    (h : s.givesResult scope = false) : s.info.id ∉ (s.check scope).ids := by
  rw [all_eq, List.flatMap_cons, List.nodup_append'] at hnodup
  obtain ⟨hids, -, hdisjoint⟩ := hnodup
  rw [mem_ids_check_step]
  rintro (hown | ⟨c, hc, hid⟩)
  . rw [ids, List.nodup_cons, List.mem_append, not_or] at hids
    rw [annotated, h, if_neg Bool.false_ne_true, List.append_nil, List.mem_append] at hown
    rcases hown with htarget | hinspected
    . exact hids.1.1 htarget
    . have hperm := s.ids_inspected_append_skipped_perm scope
      exact hids.1.2 (hperm.subset (List.mem_append_left _ hinspected))
  . apply hdisjoint List.mem_cons_self
    rw [List.flatMap_assoc]
    exact List.mem_flatMap.mpr ⟨c, hc, c.ids_check_subset hid⟩

theorem type?_check {s : Stmt} (hnodup : (s.all.flatMap ids).Nodup) :
    (s.check scope).records.type? s.info.id = s.resultType? scope := by
  cases hresult : s.givesResult scope with
  | false =>
    rw [Records.type?_eq_none (info_not_mem_ids_check hnodup hresult)]
    cases s with
    | assign info target value => rw [resultType?, hresult, if_neg Bool.false_ne_true]
    | _ => rfl
  | true =>
    cases s with
    | assign info target value =>
      rw [resultType?, if_pos hresult, check]
      rw [givesResult, ← judgeAssignment_givesResult _ _ value.isCharLiteral] at hresult
      -- The record of the result is the newest one.
      simp only [checkAssignment, Typing.record, hresult, if_true, Findings.records_append]
      simp [Records.type?, Findings.record, Stmt.info]
    | _ => cases hresult

theorem type?_checkAll {stmts : List Stmt}
    (hnodup : (stmts.flatMap fun s => s.all.flatMap ids).Nodup) {s : Stmt} (hs : s ∈ stmts) :
    (checkAll scope stmts).records.type? s.info.id = s.resultType? scope := by
  induction stmts with
  | nil => cases hs
  | cons t stmts ih =>
    rw [List.flatMap_cons, List.nodup_append'] at hnodup
    obtain ⟨ht, hstmts, hdisjoint⟩ := hnodup
    rw [checkAll, Findings.records_append]
    rcases List.mem_cons.mp hs with rfl | hs
    . rw [Records.type?_append_of_not_mem, type?_check ht]
      intro hid
      obtain ⟨c, hc, hid⟩ := (mem_ids_checkAll scope stmts s.info.id).mp hid
      exact hdisjoint s.info_mem_ids (List.mem_flatMap.mpr ⟨c, hc, c.ids_check_subset hid⟩)
    . rw [Records.type?_append, ih hstmts hs]
      have hother : s.info.id ∉ (t.check scope).ids := fun hid =>
        hdisjoint (t.ids_check_subset hid) (List.mem_flatMap.mpr ⟨s, hs, s.info_mem_ids⟩)
      rw [Records.type?_eq_none hother, Option.or_none]

end Stmt

theorem Block.topLevel_subset (b : Block) : b.topLevelStmts ⊆ b.body.stmt.all := by
  intro s hs
  rw [Stmt.all_eq]
  unfold topLevelStmts at hs
  split at hs
  next info stmts hbody =>
    rw [hbody]
    refine List.mem_cons_of_mem _ (List.mem_flatMap.mpr ⟨s, hs, ?_⟩)
    rw [Stmt.all_eq]
    exact List.mem_cons_self
  next =>
    rw [List.mem_singleton.mp hs]
    exact List.mem_cons_self

theorem Block.type?_topLevel {b : Block} {scope : Scope}
    (hnodup : (b.body.stmt.all.flatMap Stmt.ids).Nodup) {s : Stmt} (hs : s ∈ b.topLevelStmts) :
    (b.body.stmt.check scope).records.type? s.info.id = s.resultType? scope := by
  unfold topLevelStmts at hs
  split at hs
  next info stmts hbody =>
    rw [hbody] at hnodup ⊢
    rw [Stmt.all_eq, List.flatMap_cons, List.nodup_append'] at hnodup
    rw [Stmt.check]
    refine Stmt.type?_checkAll ?_ hs
    rw [← List.flatMap_assoc]
    exact hnodup.2.1
  next =>
    rw [List.mem_singleton.mp hs]
    exact Stmt.type?_check hnodup

namespace Context

theorem diagnostics_define (ctx : Context) (name : Name) (type : Ty) :
    ∃ again, (ctx.define name type).diagnostics = ctx.diagnostics ++ again ∧
      ∀ d ∈ again, d.isRedeclaration = true := by
  unfold define
  split
  . exact ⟨[], (List.append_nil _).symm, by simp⟩
  . exact ⟨_, rfl, List.forall_mem_singleton.mpr rfl⟩

theorem getInner?_define (ctx : Context) (n : Name) (type : Ty) (name : String) :
    (ctx.define n type).scope.getInner? name = none ↔
      ctx.scope.getInner? name = none ∧ canonicalName n.value ≠ canonicalName name := by
  cases hn : ctx.scope.getInner? n.value with
  | none =>
    rw [scope_define_of_free type hn]
    simp only [Scope.getInner?_eq_find?, Frame.entries_append, Entry.find?_append,
      Option.or_eq_none_iff, Entry.find?_cons]
    simp [Entry.find?]
  | some e =>
    rw [define_of_bound type hn]
    constructor
    . intro hnone
      refine ⟨hnone, fun heq => ?_⟩
      rw [Scope.getInner?, heq] at hn
      exact Option.some_ne_none e (hn.symm.trans hnone)
    . exact fun h => h.1

theorem getInner?_foldl {α : Type} {f : Context → α → Context} {P : α → Prop} {name : String}
    (h : ∀ ctx x, (f ctx x).scope.getInner? name = none ↔
      ctx.scope.getInner? name = none ∧ P x) (xs : List α) (ctx : Context) :
    (xs.foldl f ctx).scope.getInner? name = none ↔
      ctx.scope.getInner? name = none ∧ ∀ x ∈ xs, P x := by
  induction xs generalizing ctx with
  | nil => simp
  | cons x xs ih => rw [List.foldl_cons, ih, h, List.forall_mem_cons, and_assoc]

end Context

namespace Routine

variable (r : Routine) (ctx : Context)

def bodyScope : Scope :=
  (r.block.declare (r.inside ctx)).scope

/--
A statement gives a function its result: it assigns to what the function is in its own region, and
does not assign a function with the same parameters.
-/
def TakesResultFrom : Stmt → Prop
  | .assign _ target value =>
    (r.bodyScope ctx).lookup? target.name.value = some (r.own ctx) ∧
      ∀ tag params result, (value.check (r.bodyScope ctx)).type = .function tag params result →
        Ty.equivParams (r.params ctx) params = false
  | _ => False

theorem scope_block_check : (r.block.check (r.inside ctx)).scope = r.bodyScope ctx := by
  rw [Block.check_eq_declare]
  rfl

variable {r ctx}

theorem inside_of_bound {e : Entry} (h : (r.entered ctx).scope.getInner? r.name.value = some e) :
    r.inside ctx = ((r.entered ctx).make (r.type (r.params ctx))).2.add
      (.reports [Context.redeclaration r.name e.place]) :=
  Context.define_of_bound (r.own ctx) h

theorem own_of_result? {result : TypeName} (h : r.result? = some result) :
    r.own ctx = .function (r.entered ctx).nextTag (r.params ctx) result.type := by
  rw [own, type, h]

theorem identity_own : (r.own ctx).identity = .made (r.entered ctx).nextTag := by
  unfold own type
  split <;> rfl

theorem resultType?_eq_own_iff {result : TypeName} (h : r.result? = some result) (s : Stmt) :
    s.resultType? (r.bodyScope ctx) = some (r.own ctx) ↔ r.TakesResultFrom ctx s := by
  cases s with
  | assign info target value =>
    rw [Stmt.resultType?, TakesResultFrom, Option.ite_none_right_eq_some, Option.some_inj]
    have hname : (Name.check (r.bodyScope ctx) target.name).type = r.own ctx ↔
        (r.bodyScope ctx).lookup? target.name.value = some (r.own ctx) := by
      unfold Name.check
      cases (r.bodyScope ctx).lookup? target.name.value with
      | none =>
        rw [own_of_result? h]
        exact ⟨nofun, nofun⟩
      | some t => exact ⟨congrArg some, Option.some.inj⟩
    rw [← hname, and_comm]
    apply and_congr_right
    intro htype
    simp only [Stmt.givesResult, htype, own_of_result? h]
    cases (value.check (r.bodyScope ctx)).type with
    | function tag params result => simp [Ty.isFunction, Ty.equiv]
    | _ => simp [Ty.isFunction, Ty.equiv]
  | _ => simp [Stmt.resultType?, TakesResultFrom]

theorem entered_supports {arena : Arena} (h : arena.Supports ctx) :
    ∃ more, Arena.Supports (arena ++ more) (r.entered ctx) := by
  have hfits : r.opening.Fits [] := r.opening_fits
  have hrun := h.run (hfits arena ctx h (by simp))
  rw [r.opening_does] at hrun
  exact ⟨_, hrun⟩

theorem own_same_of_has {arena : Arena} (h : arena.Supports ctx) {t : Ty} (ht : arena.Has t) :
    (r.own ctx).same t = false := by
  -- What was there before the function has another type.
  obtain ⟨more, hentered⟩ := r.entered_supports h
  have hsize := hentered.size
  have hrank := ht.rank_le
  rw [List.length_append] at hsize
  rw [Ty.same, identity_own, beq_eq_false_iff_ne]
  intro hidentity
  rw [← hidentity, Ty.Identity.rank] at hrank
  omega

theorem eq_own_of_same {arena : Arena} (h : arena.Supports ctx) {e : Entry}
    (he : e ∈ (r.bodyScope ctx).entries) (hfunction : e.type.isFunction = true)
    (hsame : (r.own ctx).same e.type = true) :
    e.type = r.own ctx ∧ (r.entered ctx).scope.getInner? r.name.value = none := by
  obtain ⟨more, hentered⟩ := r.entered_supports h
  rw [Ty.same, beq_iff_eq, identity_own, ← hentered.size] at hsame
  have hhas {arena' : Arena} (hinside : arena'.Supports (r.inside ctx)) :
      (arena'.after (r.inside ctx) (r.block.plan (r.inside ctx))).Has e.type := by
    have hfits : r.block.plan.Fits [] := r.block.plan_fits
    have hblock := hinside.run (hfits arena' _ hinside (by simp))
    rw [r.block.plan_does] at hblock
    refine hblock.scope e ?_
    rw [scope_block_check]
    exact he
  cases hname : (r.entered ctx).scope.getInner? r.name.value with
  | none =>
    have hparams : ∀ p ∈ r.params ctx, Arena.Has (arena ++ more) p := by
      rw [params, List.forall_mem_map]
      exact fun e he => hentered.scope e (List.mem_append_left _ he)
    have hallows := r.allows_type hentered hparams
    have hinside := (hentered.make hallows).define r.name hallows.has
    have hown := hallows.has.after (r.inside ctx) (r.block.plan (r.inside ctx))
    refine ⟨(hhas hinside).eq_of_identity hown ?_, rfl⟩
    rw [← hsame, identity_own, hentered.size]
  | some entry =>
    -- The function stays undeclared, so the arena may as well hold a procedure in its place.
    have hallows : Arena.Allows (arena ++ more) (.procedure (arena ++ more).length []) :=
      ⟨rfl, by simp [Ty.parts], rfl⟩
    have hinside : Arena.Supports (arena ++ more ++ [.procedure []]) (r.inside ctx) := by
      have hmake := hentered.make hallows
      rw [inside_of_bound hname]
      exact ⟨hmake.founded, hmake.size, hmake.scope, hmake.records⟩
    have hknown := (hhas hinside).known
    rw [← hsame, Arena.after, Arena.kind?_append (Arena.kind?_last _ _)] at hknown
    generalize e.type = t at hfunction hknown
    cases t with
    | function tag params result => cases hknown
    | _ => cases hfunction

theorem type?_block_check (hnodup : (r.items.flatMap Item.ids).Nodup) {s : Stmt}
    (hs : s ∈ r.block.topLevelStmts) :
    (r.block.check (r.inside ctx)).records.type? s.info.id =
      (s.resultType? (r.bodyScope ctx)).or (ctx.records.type? s.info.id) := by
  have hcomesTo := (r.plan_comesTo_block ctx).trans (r.block.plan_comesTo_body _)
  obtain ⟨done, ⟨rest, hrest⟩, hrun⟩ := hcomesTo
  have hitems : r.plan.Lists r.items := plan_lists r.block.plan_lists
  have hsplit : r.items = done.filterMap Action.item? ++
      .body r.block.body.stmt :: rest.filterMap Action.item? := by
    rw [← hitems ctx, ← hrest]
    simp [Plan.fixed, Action.item?]
  rw [hsplit, List.flatMap_append, List.flatMap_cons, List.nodup_append',
    List.nodup_append'] at hnodup
  obtain ⟨-, ⟨hbody, -, -⟩, hdisjoint⟩ := hnodup
  have hid : s.info.id ∈ (Item.body r.block.body.stmt).ids := by
    refine List.mem_flatMap.mpr ⟨s, r.block.topLevel_subset hs, List.mem_cons_self⟩
  -- The statements are checked last, and nothing before them has to do with their numbers.
  have hbefore : (r.block.declare (r.inside ctx)).records.type? s.info.id =
      ctx.records.type? s.info.id := by
    rw [← hrun]
    apply Context.type?_run
    intro a ha item hitem hmem
    refine hdisjoint ?_ (List.mem_append_left _ hid)
    exact List.mem_flatMap.mpr ⟨item, List.mem_filterMap.mpr ⟨a, ha, hitem⟩, hmem⟩
  rw [Block.check_eq_declare, Context.add, Records.type?_append, hbefore,
    Block.type?_topLevel hbody hs]
  rfl

theorem lacksResult_iff {arena : Arena} (hctx : arena.Supports ctx)
    (hnodup : (r.items.flatMap Item.ids).Nodup) {result : TypeName}
    (hresult : r.result? = some result) :
    r.lacksResult (r.block.check (r.inside ctx)).records (r.own ctx) = true ↔
      ∀ s ∈ r.block.topLevelStmts, ¬ r.TakesResultFrom ctx s := by
  rw [lacksResult, hresult, Option.isSome_some, Bool.true_and, Bool.not_eq_true', Block.givesResult,
    List.any_eq_false]
  apply forall₂_congr
  intro s hs
  rw [type?_block_check hnodup hs, ← resultType?_eq_own_iff hresult, not_iff_not]
  cases htype : s.resultType? (r.bodyScope ctx) with
  | none =>
    -- An older record is that of an older type.
    have holder : (ctx.records.type? s.info.id).any (r.own ctx).same = false := by
      cases hrecord : ctx.records.type? s.info.id with
      | none => rfl
      | some t =>
        obtain ⟨record, hmem, rfl⟩ := Records.exists_of_type?_eq_some hrecord
        exact own_same_of_has hctx (hctx.records record hmem)
    simp [holder]
  | some t =>
    obtain ⟨hfunction, e, he, rfl⟩ := Stmt.exists_entry_of_resultType? htype
    rw [Option.some_or, Option.any_some, Option.some_inj]
    constructor
    . exact fun hsame => (eq_own_of_same hctx he hfunction hsame).1
    . intro heq
      rw [heq, Ty.same, beq_self_eq_true]

theorem diagnostics_check (r : Routine) (ctx : Context) :
    ∃ again, (r.check ctx).diagnostics = (r.block.check (r.inside ctx)).diagnostics ++
        (if r.lacksResult (r.block.check (r.inside ctx)).records (r.own ctx) then
          [.error r.name.span (.noResult r.name.value)] else []) ++ again ∧
      ∀ d ∈ again, d.isRedeclaration = true := by
  rw [check_eq_inside]
  simp only [Context.leave]
  obtain ⟨again, hagain, hredeclaration⟩ := Context.diagnostics_define _ r.name _
  refine ⟨again, ?_, hredeclaration⟩
  rw [hagain]
  split <;> simp [Context.make, Context.add, Context.note, Context.pop, Context.noteScope,
    Findings.record, Findings.error]

def Hidden (r : Routine) : Prop :=
  ∃ g ∈ r.groups, ∃ n ∈ g.names, canonicalName n.value = canonicalName r.name.value

theorem getInner?_entered (r : Routine) (ctx : Context) :
    (r.entered ctx).scope.getInner? r.name.value = none ↔ ¬ r.Hidden := by
  have hgroup (ctx : Context) (g : Group) :
      (g.check ctx).scope.getInner? r.name.value = none ↔ ctx.scope.getInner? r.name.value = none ∧
        ∀ n ∈ g.names, canonicalName n.value ≠ canonicalName r.name.value := by
    rw [Group.check_eq]
    exact Context.getInner?_foldl (fun ctx n => ctx.getInner?_define n _ r.name.value) g.names _
  unfold entered
  rw [Context.getInner?_foldl hgroup]
  simp [Hidden, Context.push, Scope.push, Scope.getInner?_eq_find?, Entry.find?]

theorem getInner?_bodyScope (h : ¬ r.Hidden) :
    (r.bodyScope ctx).getInner? r.name.value =
      some ⟨canonicalName r.name.value, r.own ctx, some r.name.span⟩ := by
  have hfree := (r.getInner?_entered ctx).mpr h
  have hinside : (r.inside ctx).scope.getInner? r.name.value = some _ :=
    Context.getInner?_define_self (r.own ctx) hfree
  have hgrows := r.block.check_grows (r.inside ctx)
  rw [scope_block_check] at hgrows
  exact hgrows.getInner? hinside

theorem not_takesResultFrom_of_hidden {arena : Arena} (hctx : arena.Supports ctx) (h : r.Hidden)
    {result : TypeName} (hresult : r.result? = some result) (s : Stmt) :
    ¬ r.TakesResultFrom ctx s := by
  intro htakes
  rw [← resultType?_eq_own_iff hresult] at htakes
  obtain ⟨hfunction, e, he, htype⟩ := Stmt.exists_entry_of_resultType? htakes
  rw [← htype] at hfunction
  have hsame : (r.own ctx).same e.type = true := by
    rw [htype, Ty.same, beq_self_eq_true]
  exact (r.getInner?_entered ctx).mp (eq_own_of_same hctx he hfunction hsame).2 h

theorem reports_missing_result {arena : Arena} (hfunction : r.kind = .function)
    (hctx : arena.Supports ctx) (hnodup : (r.items.flatMap Item.ids).Nodup) :
    ∃ missing again,
      (r.check ctx).diagnostics = (r.block.check (r.inside ctx)).diagnostics ++ missing ++ again ∧
      (∀ d ∈ again, d.isRedeclaration = true) ∧
      (missing = [.error r.name.span (.noResult r.name.value)] ↔
        ∀ s ∈ r.block.topLevelStmts, ¬ r.TakesResultFrom ctx s) ∧
      (missing = [] ↔ ∃ s ∈ r.block.topLevelStmts, r.TakesResultFrom ctx s) ∧
      (¬ r.Hidden → (r.bodyScope ctx).getInner? r.name.value =
        some ⟨canonicalName r.name.value, r.own ctx, some r.name.span⟩) ∧
      (r.Hidden → missing = [.error r.name.span (.noResult r.name.value)]) ∧
      ∀ info target value, .assign info target value ∈ r.block.topLevelStmts →
        (r.bodyScope ctx).lookup? target.name.value = some (r.own ctx) →
        (value.check (r.bodyScope ctx)).type.isFunction = false → missing = [] := by
  obtain ⟨result, hresult⟩ : ∃ result, r.result? = some result := by
    cases r with
    | procedure => cases hfunction
    | function info name params result block => exact ⟨result, rfl⟩
  have hlacks := lacksResult_iff hctx hnodup hresult
  have hgives : r.lacksResult (r.block.check (r.inside ctx)).records (r.own ctx) = false ↔
      ∃ s ∈ r.block.topLevelStmts, r.TakesResultFrom ctx s := by
    rw [← Bool.not_eq_true, hlacks]
    simp
  obtain ⟨again, hagain, hredeclaration⟩ := r.diagnostics_check ctx
  refine ⟨_, again, hagain, hredeclaration, ?_, ?_, getInner?_bodyScope, ?_, ?_⟩
  . rw [← hlacks]
    simp
  . rw [← hgives]
    simp
  . intro hhidden
    rw [if_pos (hlacks.mpr fun s _ => not_takesResultFrom_of_hidden hctx hhidden hresult s)]
  . intro info target value hs hlookup hvalue
    have htakes : r.TakesResultFrom ctx (.assign info target value) := by
      refine ⟨hlookup, fun tag params result htype => ?_⟩
      rw [htype] at hvalue
      cases hvalue
    rw [hgives.mpr ⟨_, hs, htakes⟩, if_neg Bool.false_ne_true]

end Routine

namespace Sample

def undefinedResult : Routine :=
  -- `function f : integer; begin if true then f := 1; f := g end`, where there is no `g`.
  .function (node 0) ⟨node 1, "f"⟩ none ⟨node 2, ⟨node 3, .integer⟩⟩
    (.mk (node 4) none none .absent
      ⟨node 5, .compound (node 6)
        [.ifThen (node 7) (.const (node 8) (.bool (node 9) ⟨node 10, true⟩))
          (.assign (node 11) ⟨node 12, ⟨node 13, "f"⟩⟩
            (.const (node 14) (.integer (node 15) ⟨node 16, "1"⟩))),
        .assign (node 17) ⟨node 18, ⟨node 19, "f"⟩⟩ (.var (node 20) ⟨node 21, "g"⟩)]⟩)

def hiddenFunction : Routine :=
  -- `function f(F : integer) : integer; f := 1`
  .function (node 0) ⟨node 1, "f"⟩
    (some [⟨node 2, .value, [⟨node 3, "F"⟩], ⟨node 4, ⟨node 5, .integer⟩⟩⟩])
    ⟨node 6, ⟨node 7, .integer⟩⟩
    (.mk (node 8) none none .absent
      ⟨node 9, .assign (node 10) ⟨node 11, ⟨node 12, "f"⟩⟩
        (.const (node 13) (.integer (node 14) ⟨node 15, "1"⟩))⟩)

theorem missing_result_of_hiddenFunction :
    (∃ again, (undefinedResult.check .empty).diagnostics =
      (undefinedResult.block.check (undefinedResult.inside .empty)).diagnostics ++ [] ++ again) ∧
    ∃ again, (hiddenFunction.check .empty).diagnostics =
      (hiddenFunction.block.check (hiddenFunction.inside .empty)).diagnostics ++
        [.error hiddenFunction.name.span (.noResult "f")] ++ again := by
  have hempty : Arena.Supports [] .empty := Context.Reachable.new.supports
  constructor
  . have hnodup : (undefinedResult.items.flatMap Item.ids).Nodup := by decide
    obtain ⟨missing, again, hagain, -, -, -, -, -, hcounts⟩ :=
      Routine.reports_missing_result rfl hempty hnodup
    rw [hcounts _ _ _ (List.mem_cons_of_mem _ List.mem_cons_self) rfl rfl] at hagain
    exact ⟨again, hagain⟩
  . have hnodup : (hiddenFunction.items.flatMap Item.ids).Nodup := by decide
    obtain ⟨missing, again, hagain, -, -, -, -, hhidden, -⟩ :=
      Routine.reports_missing_result rfl hempty hnodup
    rw [hhidden ⟨_, List.mem_cons_self, _, List.mem_cons_self, rfl⟩] at hagain
    exact ⟨again, hagain⟩

end Sample

end PascalCheck
