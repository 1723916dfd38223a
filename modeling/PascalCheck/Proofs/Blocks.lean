import PascalCheck.Proofs.Growth
import PascalCheck.Proofs.Regions.Redeclaration

/-!
Where the blocks of a program are checked. A routine is given a type in its own region, after the
parameters and before its block, and another one around it once its block has been checked. Every
block inside of others is come to in some context, at some moment of the check.
-/

namespace PascalCheck

/-- The innermost frame of `s` may have grown in `s'`; the frames around it are the same. -/
structure Scope.Grows (s s' : Scope) : Prop where
  inner : s.inner.entries <+: s'.inner.entries
  outer : s'.outer = s.outer

namespace Scope.Grows

variable {s s' : Scope}

theorem refl (s : Scope) : s.Grows s :=
  ⟨List.prefix_refl _, rfl⟩

theorem trans {s'' : Scope} (h : s.Grows s') (h' : s'.Grows s'') : s.Grows s'' :=
  ⟨h.inner.trans h'.inner, h'.outer.trans h.outer⟩

theorem define (s : Scope) (name : String) (type : Ty) (place : Option Span) :
    s.Grows ((s.define? name type place).getD s) := by
  rw [define?_getD]
  refine ⟨?_, rfl⟩
  rw [Frame.entries_add, Entry.add]
  split
  . exact List.prefix_refl _
  . exact List.prefix_append _ _

theorem foldl {α : Type} {f : Context → α → Context} (xs : List α)
    (h : ∀ x ∈ xs, ∀ ctx : Context, ctx.scope.Grows (f ctx x).scope) (ctx : Context) :
    ctx.scope.Grows (xs.foldl f ctx).scope := by
  refine List.foldlRecOn (motive := fun after => ctx.scope.Grows after.scope) xs f (refl _) ?_
  intro after hafter x hx
  exact hafter.trans (h x hx after)

theorem getInner? (h : s.Grows s') {name : String} {e : Entry} (he : s.getInner? name = some e) :
    s'.getInner? name = some e := by
  obtain ⟨entries, hentries⟩ := h.inner
  rw [getInner?_eq_find?] at he ⊢
  rw [← hentries, Entry.find?_append, he, Option.some_or]

end Scope.Grows

theorem Context.define_of_bound {ctx : Context} {name : Name} (type : Ty) {e : Entry}
    (h : ctx.scope.getInner? name.value = some e) :
    ctx.define name type = ctx.add (.reports [redeclaration name e.place]) := by
  unfold define
  rw [ctx.scope.define?_of_bound _ _ h, h]
  rfl

theorem Context.scope_define_of_free {ctx : Context} {name : Name} (type : Ty)
    (h : ctx.scope.getInner? name.value = none) :
    (ctx.define name type).scope =
      ⟨ctx.scope.inner.append ⟨canonicalName name.value, type, some name.span⟩
        (ctx.scope.inner.lookup_index_of_get? h), ctx.scope.outer⟩ := by
  rw [scope_define, ctx.scope.define?_of_free _ _ h]
  rfl

theorem Scope.getInner?_last {s : Scope} {name : String} {e : Entry}
    (he : e.name = canonicalName name) (h : s.inner.index.lookup e.name = none) :
    Scope.getInner? ⟨s.inner.append e h, s.outer⟩ name = some e := by
  rw [Frame.lookup_index_eq_none_iff, he] at h
  rw [getInner?_eq_find?, Frame.entries_append, Entry.find?_append, h, Option.none_or,
    Entry.find?_cons, if_pos he]

theorem Context.getInner?_define_self {ctx : Context} {name : Name} (type : Ty)
    (h : ctx.scope.getInner? name.value = none) :
    (ctx.define name type).scope.getInner? name.value =
      some ⟨canonicalName name.value, type, some name.span⟩ := by
  rw [scope_define_of_free type h]
  exact Scope.getInner?_last rfl _

theorem Context.define_grows (ctx : Context) (name : Name) (type : Ty) :
    ctx.scope.Grows (ctx.define name type).scope := by
  rw [scope_define]
  exact .define ctx.scope name.value type (some name.span)

theorem Context.defineAll_grows (ctx : Context) (names : List Name) (type : Ty) :
    ctx.scope.Grows (ctx.defineAll names type).scope :=
  .foldl names (fun name _ ctx => ctx.define_grows name type) ctx

theorem ConstDef.check_grows (d : ConstDef) (ctx : Context) :
    ctx.scope.Grows (d.check ctx).scope := by
  simp only [check_eq]
  split
  . exact .refl _
  . exact (ctx.add (d.value.check ctx.scope).findings).define_grows d.name _

theorem TypeDenoter.scope_check (t : TypeDenoter) (ctx : Context) :
    (t.check ctx).2.scope = ctx.scope := by
  induction t with
  | named name => rfl
  | file info component ih =>
    rw [check_file]
    exact ih

theorem VarDecl.check_grows (d : VarDecl) (ctx : Context) :
    ctx.scope.Grows (d.check ctx).scope := by
  have hnames := (d.type.check ctx).2.defineAll_grows d.names (d.type.check ctx).1
  rw [d.type.scope_check] at hnames
  rw [check_eq]
  exact hnames

theorem Group.check_grows (g : Group) (ctx : Context) : ctx.scope.Grows (g.check ctx).scope := by
  rw [check_eq]
  exact (((g.type.check ctx).make (.parameter · .formal g.mode g.type.type)).2.add
    (.record g.info.id (g.typeIn ctx))).defineAll_grows g.names (g.typeIn ctx)

theorem Block.check_grows (b : Block) (ctx : Context) : ctx.scope.Grows (b.check ctx).scope := by
  have hdeclares : b.plan.Declares b b _ _ := Block.plan_declares b
  obtain ⟨horderly, values, attempts, hobserve, -⟩ :=
    hdeclares ctx (.ofFrame ctx.scope.inner) [] rfl
  have hshows := (Context.Shows.ofFrame b ctx).run horderly
  rw [hobserve, b.plan_does] at hshows
  obtain ⟨-, houter, hinner⟩ := hshows.above.settled
  exact ⟨hinner, houter⟩

namespace Routine

variable (r : Routine) (ctx : Context)

theorem entered_grows : ctx.scope.push.Grows (r.entered ctx).scope := by
  unfold entered
  cases r.result? with
  | none => exact .foldl r.groups (fun g _ => g.check_grows) (ctx.note _).push
  | some result => exact .foldl r.groups (fun g _ => g.check_grows) ((result.check ctx).note _).push

theorem inside_grows : (r.entered ctx).scope.Grows (r.inside ctx).scope :=
  ((r.entered ctx).make (r.type (r.params ctx))).2.define_grows r.name (r.own ctx)

theorem scope_check :
    (r.check ctx).scope =
      (ctx.scope.define? r.name.value (r.outer ctx) (some r.name.span)).getD ctx.scope := by
  have hblock := (r.block.check_grows (r.inside ctx)).outer
  have houter := hblock.trans ((r.inside_grows ctx).outer.trans (r.entered_grows ctx).outer)
  have hpop : (r.block.check (r.inside ctx)).scope.pop? = some ctx.scope := by
    rw [Scope.pop?, houter]
    rfl
  have hleave (done : Context) (hscope : done.scope = (r.block.check (r.inside ctx)).scope)
      (htag : done.nextTag = (r.block.check (r.inside ctx)).nextTag) :
      (done.leave r.kind r.name (r.type (r.params ctx))).scope =
        (ctx.scope.define? r.name.value (r.outer ctx) (some r.name.span)).getD ctx.scope := by
    unfold Context.leave
    rw [Context.scope_define]
    simp only [Context.make, Context.add, Context.note, Context.pop, Context.noteScope, hscope,
      htag, hpop, Option.getD_some]
    rfl
  rw [check_eq_inside]
  simp only
  split
  . exact hleave _ rfl rfl
  . exact hleave _ rfl rfl

theorem check_grows : ctx.scope.Grows (r.check ctx).scope := by
  rw [scope_check]
  exact .define ctx.scope r.name.value (r.outer ctx) (some r.name.span)

theorem block_extends : Context.Extends (r.block.check (r.inside ctx)) (r.check ctx) := by
  rw [check_eq_inside]
  refine .trans ?_ (Context.leave_extends _ _ _ _)
  split
  . exact .add _ (by simp [Findings.error, Diagnostic.error, Diagnostic.severity])
  . exact .refl _

end Routine

namespace Block

/-- The check of `root` that starts in `start` comes to the block `here` in the given context. -/
inductive Reaches (root : Block) (start : Context) : Block → Context → Prop where
  | start : Reaches root start root start
  | inside {here : Block} {ctx : Context} {before after : List Routine} {r : Routine} :
    Reaches root start here ctx → here.routines = before ++ r :: after →
    Reaches root start r.block (r.inside (here.upTo before ctx))

def Meets (root : Block) (start : Context) (r : Routine) (ctx : Context) : Prop :=
  ∃ here ctx' before after, root.Reaches start here ctx' ∧ here.routines = before ++ r :: after ∧
    ctx = here.upTo before ctx'

variable {root here : Block} {start ctx : Context}

theorem Reaches.trans {b : Block} {ctx' : Context} (h : root.Reaches start here ctx)
    (h' : here.Reaches ctx b ctx') : root.Reaches start b ctx' := by
  induction h' with
  | start => exact h
  | inside _ hr ih => exact .inside ih hr

theorem Meets.reaches {r : Routine} (h : root.Meets start r ctx) :
    root.Reaches start r.block (r.inside ctx) := by
  obtain ⟨here, ctx', before, after, hreaches, hr, rfl⟩ := h
  exact .inside hreaches hr

theorem meets_of_declaredIn {r : Routine} (h : r.DeclaredIn root) (start : Context) :
    ∃ ctx, root.Meets start r ctx := by
  induction h generalizing start with
  | here hr =>
    obtain ⟨before, after, hafter⟩ := List.append_of_mem hr
    exact ⟨_, _, _, before, after, .start, hafter, rfl⟩
  | @inside outer b houter _ ih =>
    obtain ⟨before, after, hafter⟩ := List.append_of_mem houter
    have hreaches : b.Reaches start outer.block _ := .inside .start hafter
    obtain ⟨ctx, here, ctx', before', after', hreaches', hr, hctx⟩ :=
      ih (outer.inside (b.upTo before start))
    exact ⟨ctx, here, ctx', before', after', hreaches.trans hreaches', hr, hctx⟩

theorem upTo_extends {b : Block} {before after : List Routine} (h : b.routines = before ++ after)
    (ctx : Context) : Context.Extends (b.upTo before ctx) (b.check ctx) := by
  rw [check_eq_declare b, declare, h, upTo_append]
  refine .trans (.foldl _ after fun r _ => r.check_extends) (.add _ fun d hd => ?_)
  exact ((Stmt.check_within (Ty.Invariant.trivial.closed 0) (fun _ _ => trivial)
    b.body.stmt).errors d hd).1

theorem Reaches.extends (h : root.Reaches start here ctx) :
    Context.Extends (here.check ctx) (root.check start) := by
  induction h with
  | start => exact .refl _
  | @inside here ctx before after r _ hr ih =>
    rw [← List.singleton_append, ← List.append_assoc] at hr
    have hupTo := upTo_extends hr ctx
    rw [upTo_append] at hupTo
    exact (r.block_extends _).trans (hupTo.trans ih)

end Block

namespace Plan

/-- Carried out from `ctx` on, the plan comes to the plan `part` in the context `ctx'`. -/
def ComesTo (plan : Plan) (ctx : Context) (part : Plan) (ctx' : Context) : Prop :=
  ∃ done, done ++ part ctx' <+: plan ctx ∧ ctx.run done = ctx'

theorem ComesTo.trans {plan part inner : Plan} {ctx ctx' ctx'' : Context}
    (h : plan.ComesTo ctx part ctx') (h' : part.ComesTo ctx' inner ctx'') :
    plan.ComesTo ctx inner ctx'' := by
  obtain ⟨done, hdone, rfl⟩ := h
  obtain ⟨done', hdone', rfl⟩ := h'
  refine ⟨done ++ done', ?_, Context.run_append ctx done done'⟩
  rw [List.append_assoc]
  exact ((List.prefix_append_right_inj done).mpr hdone').trans hdone

theorem comesTo_next (a b : Plan) (ctx : Context) :
    (a.andThen b).ComesTo ctx b (ctx.run (a ctx)) :=
  ⟨a ctx, List.prefix_refl _, rfl⟩

theorem comesTo_first (a b : Plan) (ctx : Context) : (a.andThen b).ComesTo ctx a ctx :=
  ⟨[], List.prefix_append _ _, rfl⟩

theorem all_append {α : Type} (plan : α → Plan) (xs ys : List α) :
    all plan (xs ++ ys) = (all plan xs).andThen (all plan ys) := by
  induction xs with
  | nil => rfl
  | cons x xs ih => rw [List.cons_append, all, ih, all, andThen_assoc]

end Plan

namespace Block

def planUpTo (b : Block) (rs : List Routine) : Plan :=
  (Plan.all ConstDef.plan b.constDefs).andThen
    ((Plan.all VarDecl.plan b.varDecls).andThen (Plan.all Routine.plan rs))

theorem planUpTo_does (b : Block) (rs : List Routine) : (b.planUpTo rs).Does (b.upTo rs) := by
  have hconsts : (Plan.all ConstDef.plan b.constDefs).Does _ :=
    .all (f := fun ctx d => d.check ctx) fun d _ => d.plan_does
  have hvars : (Plan.all VarDecl.plan b.varDecls).Does _ :=
    .all (f := fun ctx d => d.check ctx) fun d _ => d.plan_does
  have hroutines : (Plan.all Routine.plan rs).Does _ :=
    .all (f := fun ctx r => r.check ctx) fun r _ => r.plan_does
  exact hconsts.andThen (hvars.andThen hroutines)

theorem planUpTo_andThen (b : Block) (rs : List Routine) (rest : Plan) :
    (b.planUpTo rs).andThen rest = (Plan.all ConstDef.plan b.constDefs).andThen
      ((Plan.all VarDecl.plan b.varDecls).andThen ((Plan.all Routine.plan rs).andThen rest)) := by
  rw [planUpTo, Plan.andThen_assoc, Plan.andThen_assoc]

theorem plan_comesTo_body (b : Block) (ctx : Context) :
    b.plan.ComesTo ctx (.fixed [.body b.body.stmt]) (b.declare ctx) := by
  rw [declare, ← b.planUpTo_does, plan_eq, ← planUpTo_andThen]
  exact Plan.comesTo_next _ _ ctx

theorem plan_comesTo_routine (b : Block) {before after : List Routine} {r : Routine}
    (h : b.routines = before ++ r :: after) (ctx : Context) :
    b.plan.ComesTo ctx r.plan (b.upTo before ctx) := by
  rw [← b.planUpTo_does, plan_eq, h, Plan.all_append, Plan.andThen_assoc, ← planUpTo_andThen,
    Plan.all, Plan.andThen_assoc]
  exact (Plan.comesTo_next _ _ ctx).trans (Plan.comesTo_first _ _ _)

end Block

theorem Routine.plan_comesTo_block (r : Routine) (ctx : Context) :
    r.plan.ComesTo ctx r.block.plan (r.inside ctx) := by
  rw [plan_eq]
  refine (Plan.comesTo_next r.opening _ ctx).trans ?_
  rw [r.opening_does]
  exact (Plan.comesTo_next _ _ _).trans (Plan.comesTo_first _ _ _)

theorem Program.plan_comesTo_block (p : Program) (table : Predefined) (ctx : Context) :
    (p.plan table).ComesTo ctx p.block.plan (p.starting table ctx) := by
  have hstarting := p.heading.plan_does (ctx.predefineAll table)
  have htable : (ctx.run table.actions).run
      [.note (.predefined (ctx.run table.actions).scope.inner.entries.length)] =
        ctx.predefineAll table := by
    rw [table.run_actions]
    rfl
  rw [starting, ← hstarting, ← htable]
  refine (Plan.comesTo_next _ _ ctx).trans ((Plan.comesTo_next _ _ _).trans ?_)
  exact (Plan.comesTo_next _ _ _).trans (Plan.comesTo_first _ _ _)

theorem Block.Reaches.comesTo {root here : Block} {start ctx : Context}
    (h : root.Reaches start here ctx) : root.plan.ComesTo start here.plan ctx := by
  induction h with
  | start => exact ⟨[], List.prefix_refl _, rfl⟩
  | @inside here ctx before after r _ hr ih =>
    exact ih.trans ((here.plan_comesTo_routine hr ctx).trans (r.plan_comesTo_block _))

end PascalCheck
