import PascalCheck.Proofs.Regions.Basic

/-!
Which names a check attempts to bind, region by region. A routine is declared twice: in its own
region after the parameters, and around it once its region is closed.
-/

namespace PascalCheck

variable [Naming]

namespace Action

def attempt? : Action → Option Attempt
  | .define name type => some ⟨name.value, type, some name.span⟩
  | .predefine a => some a
  | _ => none

def isPlain : Action → Bool
  | .value _ | .enter _ | .leave => false
  | _ => true

theorem isPlain_defineActions (names : List Name) (type : Ty) :
    ∀ a ∈ defineActions names type, a.isPlain = true := by
  simp [defineActions, isPlain]

theorem attempts_defineActions (names : List Name) (type : Ty) :
    ((defineActions names type).filterMap attempt?).map Attempt.site = names.map Name.site := by
  induction names with
  | nil => rfl
  | cons name names ih =>
    rw [List.map_cons, ← ih]
    rfl

theorem Proper.of_isPlain {root : Block} {regions : List Region} {a : Action}
    (h : a.isPlain = true) : a.Proper root regions := by
  cases a <;> simp_all [isPlain, Proper]

theorem observe_of_isPlain (scope : Scope) (region : Region) (outer : List Region) {a : Action}
    (h : a.isPlain = true) :
    a.observe scope (region :: outer) = region.add [] a.attempt?.toList :: outer := by
  cases a <;> simp_all [isPlain, observe, attempt?]

end Action

namespace Context

variable {root : Block}

theorem orderly_of_isPlain {as : List Action} (h : ∀ a ∈ as, a.isPlain = true) (ctx : Context)
    (regions : List Region) : ctx.Orderly root regions as := by
  induction as generalizing ctx regions with
  | nil => exact .intro
  | cons a as ih =>
    rw [List.forall_mem_cons] at h
    exact ⟨.of_isPlain h.1, ih h.2 _ _⟩

theorem observe_of_isPlain {as : List Action} (h : ∀ a ∈ as, a.isPlain = true) (ctx : Context)
    (region : Region) (outer : List Region) :
    ctx.observe (region :: outer) as =
      region.add [] (as.filterMap Action.attempt?) :: outer := by
  induction as generalizing ctx region with
  | nil => simp [observe]
  | cons a as ih =>
    rw [List.forall_mem_cons] at h
    rw [observe, Action.observe_of_isPlain ctx.scope region outer h.1, ih h.2, Region.add_add,
      List.filterMap_cons]
    cases a.attempt? <;> rfl

end Context

namespace Plan

abbrev Sites := List (ConstDef × Ty) → List (String × Option Span)

/--
The plan belongs to the block `here`. Carried out in the region where that block is checked, it comes
back to that region; there it judges the values of `defs` and attempts to bind the names at `sites`.
-/
def Declares (root here : Block) (plan : Plan) (defs : List ConstDef) (sites : Sites) : Prop :=
  ∀ (ctx : Context) (region : Region) (outer : List Region),
    Region.block root (region :: outer) = here →
    ctx.Orderly root (region :: outer) (plan ctx) ∧
      ∃ values attempts, ctx.observe (region :: outer) (plan ctx) =
          region.add values attempts :: outer ∧
        values.map (·.1) = defs ∧ attempts.map Attempt.site = sites values

variable {root here : Block}

theorem andThen_assoc (a b c : Plan) : (a.andThen b).andThen c = a.andThen (b.andThen c) := by
  funext ctx
  simp [andThen]

namespace Declares

theorem of_isPlain {plan : Plan} {sites : Sites}
    (hplain : ∀ ctx, ∀ a ∈ plan ctx, a.isPlain = true)
    (hsites : ∀ ctx, ((plan ctx).filterMap Action.attempt?).map Attempt.site = sites []) :
    plan.Declares root here [] sites := by
  intro ctx region outer _
  refine ⟨Context.orderly_of_isPlain (hplain ctx) _ _, [], _, ?_, rfl, hsites ctx⟩
  rw [Context.observe_of_isPlain (hplain ctx)]

theorem andThen {a b : Plan} {defs defs' : List ConstDef} {sites sites' both : Sites}
    (ha : a.Declares root here defs sites) (hb : b.Declares root here defs' sites')
    (hboth : ∀ vs ws, vs.map (·.1) = defs → ws.map (·.1) = defs' →
      both (vs ++ ws) = sites vs ++ sites' ws) :
    (a.andThen b).Declares root here (defs ++ defs') both := by
  intro ctx region outer hhere
  obtain ⟨horderly, vs, as, hobserve, hdefs, hsites⟩ := ha ctx region outer hhere
  obtain ⟨horderly', ws, bs, hobserve', hdefs', hsites'⟩ :=
    hb (ctx.run (a ctx)) (region.add vs as) outer hhere
  refine ⟨?_, vs ++ ws, as ++ bs, ?_, ?_, ?_⟩
  . rw [Plan.andThen, Context.orderly_append, hobserve]
    exact ⟨horderly, horderly'⟩
  . rw [Plan.andThen, Context.observe_append, hobserve, hobserve', Region.add_add]
  . rw [List.map_append, hdefs, hdefs']
  . rw [List.map_append, hsites, hsites', hboth vs ws hdefs hdefs']

theorem before {a b : Plan} {defs : List ConstDef} {names : List (String × Option Span)}
    {sites : Sites} (ha : a.Declares root here [] fun _ => names)
    (hb : b.Declares root here defs sites) :
    (a.andThen b).Declares root here defs fun values => names ++ sites values := by
  apply ha.andThen hb
  intro vs ws hvs _
  rw [List.map_eq_nil_iff.mp hvs]
  rfl

theorem after {a b : Plan} {defs : List ConstDef} {names : List (String × Option Span)}
    {sites : Sites} (ha : a.Declares root here defs sites)
    (hb : b.Declares root here [] fun _ => names) :
    (a.andThen b).Declares root here defs fun values => sites values ++ names := by
  rw [← List.append_nil defs]
  apply ha.andThen hb
  intro vs ws _ hws
  rw [List.map_eq_nil_iff.mp hws, List.append_nil]

theorem all {α : Type} {plan : α → Plan} {names : α → List Name} {xs : List α}
    (h : ∀ x ∈ xs, (plan x).Declares root here [] fun _ => (names x).map Name.site) :
    (Plan.all plan xs).Declares root here [] fun _ => (xs.flatMap names).map Name.site := by
  induction xs with
  | nil => exact .of_isPlain (by simp [Plan.all, Plan.fixed]) fun _ => rfl
  | cons x xs ih =>
    rw [List.forall_mem_cons] at h
    rw [List.flatMap_cons, List.map_append]
    exact h.1.before (ih h.2)

end Declares

end Plan

variable {root here : Block}

theorem ConstDef.plan_declares (d : ConstDef) :
    d.plan.Declares root here [d] fun values => (ConstDef.declared values).map Name.site := by
  intro ctx region outer _
  simp only [plan]
  split
  next hinvalid =>
    refine ⟨⟨.intro, .intro⟩, [(d, (d.value.check ctx.scope).type)], [], rfl, rfl, ?_⟩
    simp [declared, hinvalid]
  next hvalid =>
    refine ⟨⟨.intro, .intro, .intro⟩, [(d, (d.value.check ctx.scope).type)],
      [⟨d.name.value, (d.value.check ctx.scope).type, some d.name.span⟩], ?_, rfl, ?_⟩
    . simp [Context.observe, Action.observe]
    . simp [declared, hvalid, Attempt.site, Name.site]

theorem ConstDef.planAll_declares (defs : List ConstDef) :
    (Plan.all plan defs).Declares root here defs fun values =>
      (ConstDef.declared values).map Name.site := by
  induction defs with
  | nil => exact .of_isPlain (by simp [Plan.all, Plan.fixed]) fun _ => rfl
  | cons d defs ih =>
    apply d.plan_declares.andThen ih
    intro vs ws _ _
    simp [declared]

theorem TypeDenoter.plan_isPlain (t : TypeDenoter) (ctx : Context) :
    ∀ a ∈ t.plan ctx, a.isPlain = true ∧ a.attempt? = none := by
  induction t with
  | named name => simp [plan_named, TypeName.action, Action.isPlain, Action.attempt?]
  | file info component ih =>
    simp only [plan_file, List.forall_mem_append, List.forall_mem_cons]
    exact ⟨ih, ⟨rfl, rfl⟩, ⟨rfl, rfl⟩, by simp⟩

theorem VarDecl.plan_declares (d : VarDecl) :
    d.plan.Declares root here [] fun _ => d.names.map Name.site := by
  have htype (ctx : Context) : (d.type.plan ctx).filterMap Action.attempt? = [] :=
    List.filterMap_eq_nil_iff.mpr fun a ha => (d.type.plan_isPlain ctx a ha).2
  apply Plan.Declares.of_isPlain
  . intro ctx
    rw [plan, List.forall_mem_append]
    exact ⟨fun a ha => (d.type.plan_isPlain ctx a ha).1, Action.isPlain_defineActions _ _⟩
  . intro ctx
    rw [plan, List.filterMap_append, htype, List.nil_append, Action.attempts_defineActions]

theorem Group.plan_declares (g : Group) :
    g.plan.Declares root here [] fun _ => g.names.map Name.site := by
  apply Plan.Declares.of_isPlain
  . intro ctx
    simp only [plan, List.forall_mem_append, List.forall_mem_cons]
    exact ⟨⟨rfl, rfl, rfl, by simp⟩, Action.isPlain_defineActions _ _⟩
  . intro ctx
    rw [plan, List.filterMap_append, List.map_append, Action.attempts_defineActions]
    rfl

namespace Routine

theorem ending_declares (r : Routine) (own : Ty) :
    (r.ending own).Declares root here [] fun _ => [] := by
  apply Plan.Declares.of_isPlain
  . intro ctx
    unfold ending
    split <;> simp [Action.isPlain]
  . intro ctx
    unfold ending
    split <;> rfl

theorem inside_declares {r : Routine}
    (hblock : r.block.plan.Declares root r.block r.block.constDefs fun values =>
      (r.block.declared values).map Name.site) (own : Ty) :
    ((Plan.fixed [.make own, .define r.name own]).andThen
      (r.block.plan.andThen (r.ending own))).Declares root r.block r.block.constDefs
        fun values => (r.name :: r.block.declared values).map Name.site := by
  have hown : (Plan.fixed [.make own, .define r.name own]).Declares root r.block []
      fun _ => [r.name.site] :=
    .of_isPlain (by simp [Plan.fixed, Action.isPlain]) fun _ => rfl
  have hinside := hown.before (hblock.after (r.ending_declares own))
  simp only [List.append_nil] at hinside
  exact hinside

theorem entering_observe (r : Routine) (ctx : Context) (region : Region) (outer : List Region)
    (hr : r ∈ (Region.block root (region :: outer)).routines) :
    ctx.Orderly root (region :: outer) r.entering ∧
      ctx.observe (region :: outer) r.entering = .ofRoutine r :: region :: outer := by
  have hplain : ∀ a ∈ r.result?.toList.map TypeName.action, a.isPlain = true := by
    simp [TypeName.action, Action.isPlain]
  have hresult : ctx.observe (region :: outer) (r.result?.toList.map TypeName.action) =
      region :: outer := by
    have hsilent : (r.result?.toList.map TypeName.action).filterMap Action.attempt? = [] := by
      cases r.result? <;> rfl
    rw [Context.observe_of_isPlain hplain, hsilent, Region.add_nil]
  rw [entering, Context.orderly_append, Context.observe_append, hresult]
  exact ⟨⟨Context.orderly_of_isPlain hplain _ _, .intro, hr, .intro⟩, rfl⟩

theorem opening_observe (r : Routine) (ctx : Context) (region : Region) (outer : List Region)
    (hr : r ∈ (Region.block root (region :: outer)).routines) :
    ctx.Orderly root (region :: outer) (r.opening ctx) ∧
      ∃ attempts, ctx.observe (region :: outer) (r.opening ctx) =
          (Region.ofRoutine r).add [] attempts :: region :: outer ∧
        attempts.map Attempt.site = (r.groups.flatMap (·.names)).map Name.site := by
  have hgroups : (Plan.all Group.plan r.groups).Declares root r.block [] fun _ =>
      (r.groups.flatMap (·.names)).map Name.site := .all fun g _ => g.plan_declares
  obtain ⟨hentering, hentered⟩ := r.entering_observe ctx region outer hr
  obtain ⟨horderly, values, attempts, hobserve, hvalues, hsites⟩ :=
    hgroups (ctx.run r.entering) (.ofRoutine r) (region :: outer) rfl
  rw [List.map_eq_nil_iff] at hvalues
  rw [hvalues] at hobserve
  rw [opening, Plan.andThen, Plan.fixed, Context.orderly_append, Context.observe_append, hentered]
  exact ⟨⟨hentering, horderly⟩, attempts, hobserve, hsites⟩

theorem plan_declares {r : Routine} (hr : r ∈ here.routines)
    (hblock : r.block.plan.Declares root r.block r.block.constDefs fun values =>
      (r.block.declared values).map Name.site) :
    r.plan.Declares root here [] fun _ => [r.name].map Name.site := by
  intro ctx region outer hhere
  rw [← hhere] at hr
  obtain ⟨hopening, params, hparams, hnames⟩ := r.opening_observe ctx region outer hr
  rw [plan_eq, Plan.andThen, Context.orderly_append, Context.observe_append, hparams]
  simp only [remainder]
  rw [← Plan.andThen_assoc, ← Plan.andThen_assoc, Plan.andThen_assoc _ r.block.plan]
  obtain ⟨hinside, values, attempts, hobserve, hvalues, hsites⟩ := inside_declares hblock
    (r.type ((ctx.run (r.opening ctx)).scope.inner.entries.map (·.type))
      (ctx.run (r.opening ctx)).nextTag)
    (ctx.run (r.opening ctx)) ((Region.ofRoutine r).add [] params) (region :: outer) rfl
  rw [Plan.andThen, Context.orderly_append, Context.observe_append, hobserve, Region.add_add]
  -- The region of the routine is complete here, so it may be closed.
  have hcomplete : ((Region.ofRoutine r).add ([] ++ values) (params ++ attempts)).Complete r := by
    refine ⟨hvalues, ?_⟩
    simp [Region.add, Region.ofRoutine, Routine.declared, hnames, hsites]
  exact ⟨⟨hopening, hinside, ⟨_, _, r, rfl, rfl, hcomplete⟩, .intro, .intro, .intro, .intro,
    .intro⟩, [], _, rfl, rfl, rfl⟩

end Routine

theorem Block.plan_declares (b : Block) :
    b.plan.Declares root b b.constDefs fun values => (b.declared values).map Name.site := by
  induction b using Block.nested_induction with
  | h b ih =>
    have hvars : (Plan.all VarDecl.plan b.varDecls).Declares root b [] fun _ =>
        (b.varDecls.flatMap (·.names)).map Name.site := .all fun d _ => d.plan_declares
    have hroutines : (Plan.all Routine.plan b.routines).Declares root b [] fun _ =>
        (b.routines.flatMap fun r => [r.name]).map Name.site :=
      .all fun r hr => Routine.plan_declares hr (ih r hr)
    have hbody : (Plan.fixed [.body b.body.stmt]).Declares root b [] fun _ => [] :=
      .of_isPlain (by simp [Plan.fixed, Action.isPlain]) fun _ => rfl
    have h := (ConstDef.planAll_declares b.constDefs).after
      (hvars.before (hroutines.before hbody))
    rw [plan_eq]
    simp only [← List.map_eq_flatMap, List.append_nil, ← List.map_append] at h
    exact h

theorem Name.filePlan_declares (name : Name) :
    name.filePlan.Declares root here [] fun _ => ([name].filter (·.IsFile)).map Name.site := by
  apply Plan.Declares.of_isPlain
  . intro ctx
    unfold filePlan
    split <;> simp [Action.isPlain]
  . intro ctx
    unfold filePlan
    split
    next h =>
      have hfile : [name].filter (·.IsFile) = [name] := by simp [h]
      rw [hfile]
      rfl
    next h =>
      have hfile : [name].filter (·.IsFile) = [] := by simp [h]
      rw [hfile]
      rfl

theorem Heading.plan_declares (h : Heading) :
    h.plan.Declares root here [] fun _ => (h.params.filter (·.IsFile)).map Name.site := by
  have hfiles : (Plan.all Name.filePlan h.params).Declares root here [] fun _ =>
      (h.params.flatMap fun name => [name].filter (·.IsFile)).map Name.site :=
    .all fun name _ => name.filePlan_declares
  have hnote : (Plan.fixed [.note (.program h.name.value)]).Declares root here [] fun _ => [] :=
    .of_isPlain (by simp [Plan.fixed, Action.isPlain]) fun _ => rfl
  have hflat : (h.params.flatMap fun name => [name].filter (·.IsFile)) =
      h.params.filter (·.IsFile) := by
    rw [← List.filter_flatMap, List.flatMap_singleton']
  rw [hflat] at hfiles
  exact hnote.before hfiles

def Program.sites (p : Program) (table : Predefined) : Plan.Sites := fun values =>
  Required.maxint.site :: table.map Attempt.site ++
    (p.heading.params.filter (·.IsFile) ++ p.block.declared values).map Name.site

theorem Program.plan_declares (p : Program) (table : Predefined) :
    (p.plan table).Declares p.block p.block p.block.constDefs (p.sites table) := by
  have htable : (Plan.fixed table.actions).Declares p.block p.block [] fun _ =>
      Required.maxint.site :: table.map Attempt.site := by
    apply Plan.Declares.of_isPlain
    . intro ctx a ha
      rcases List.mem_cons.mp ha with rfl | ha
      . rfl
      . obtain ⟨entry, _, rfl⟩ := List.mem_map.mp ha
        rfl
    . intro ctx
      simp [Plan.fixed, Predefined.actions, Action.attempt?, Function.comp_def]
  have hnote (entry : Context → LogEntry) :
      Plan.Declares p.block p.block (fun ctx => [.note (entry ctx)]) [] fun _ => [] :=
    .of_isPlain (by simp [Action.isPlain]) fun _ => rfl
  have hblock := p.heading.plan_declares.before
    ((Block.plan_declares p.block).after (hnote fun ctx => .finished ctx.errorCount))
  have h := htable.before
    ((hnote fun ctx => .predefined ctx.scope.inner.entries.length).before hblock)
  simp only [List.append_nil, List.nil_append, ← List.map_append] at h
  exact h

def Context.regions (ctx : Context) (done : List Action) : List Region :=
  ctx.observe [.ofFrame ctx.scope.inner] done

namespace Program

variable {p : Program} {table : Predefined} {ctx : Context} {done : List Action}

theorem orderly (p : Program) (table : Predefined) (ctx : Context) :
    ctx.Orderly p.block [.ofFrame ctx.scope.inner] (p.plan table ctx) :=
  (p.plan_declares table ctx (.ofFrame ctx.scope.inner) [] rfl).1

theorem regions_plan (p : Program) (table : Predefined) (ctx : Context) :
    ∃ values attempts, ctx.regions (p.plan table ctx) =
        [(Region.ofFrame ctx.scope.inner).add values attempts] ∧
      values.map (·.1) = p.block.constDefs ∧ attempts.map Attempt.site = p.sites table values :=
  (p.plan_declares table ctx (.ofFrame ctx.scope.inner) [] rfl).2

theorem shows_moment (h : done <+: p.plan table ctx) :
    Context.Shows p.block ctx.scope (ctx.run done) (ctx.regions done) := by
  obtain ⟨rest, hrest⟩ := h
  have horderly := p.orderly table ctx
  rw [← hrest, Context.orderly_append] at horderly
  exact (Context.Shows.ofFrame p.block ctx).run horderly.1

theorem proper_moment {a : Action} (h : done ++ [a] <+: p.plan table ctx) :
    a.Proper p.block (ctx.regions done) := by
  obtain ⟨rest, hrest⟩ := h
  have horderly := p.orderly table ctx
  rw [← hrest, List.append_assoc, Context.orderly_append] at horderly
  exact horderly.2.1

end Program

end PascalCheck
