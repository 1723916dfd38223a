import PascalCheck.Proofs.Contents
import PascalCheck.Proofs.Regions.Depth

/-!
Regions keep the first declaration of a name and report every later one, once and where it stands.
What is built in is declared silently. Nothing else is reported as declared before.
-/

namespace PascalCheck

def Region.first? (region : Region) (name : String) : Option Attempt :=
  region.attempts.find? (·.key == canonicalName name)

/-- The diagnostic reports a declaration of the name that comes after the attempt `first`. -/
structure Diagnostic.Repeats (d : Diagnostic) (name : Name) (first : Attempt) : Prop where
  severity : d.severity = .error
  place : d.place = name.span
  message : d.message = .problem (.redeclared name.value)
  places : d.places? = some first.place.toList
  details : d.details? = some (first.place.toList.map (.plain .info · .previousDeclaration))

def Action.Reports (region : Region) (reports : List Diagnostic) : Action → Prop
  | .define name _ =>
    match region.first? name.value with
    | none => reports = []
    | some first => ∃ d, reports = [d] ∧ d.Repeats name first
  | .predefine _ => reports = []
  | _ => ∀ d ∈ reports, d.isRedeclaration = false

namespace Context

variable {ctx : Context} {region : Region}

theorem define_reports (hframe : ctx.scope.inner.entries = Attempt.firsts region.attempts)
    (name : Name) (type : Ty) :
    ∃ reports, (ctx.define name type).diagnostics = ctx.diagnostics ++ reports ∧
      (Action.define name type).Reports region reports := by
  have hfirst : ctx.scope.getInner? name.value = (region.first? name.value).map Attempt.entry := by
    rw [Scope.getInner?_eq_find?, hframe, Attempt.find?_firsts]
    rfl
  simp only [define, Action.Reports]
  cases hregion : region.first? name.value with
  | none =>
    rw [hregion] at hfirst
    rw [ctx.scope.define?_of_free _ _ hfirst]
    exact ⟨[], (List.append_nil ctx.diagnostics).symm, rfl⟩
  | some first =>
    rw [hregion] at hfirst
    rw [ctx.scope.define?_of_bound _ _ hfirst, hfirst]
    exact ⟨_, rfl, _, rfl, rfl, rfl, rfl, rfl, rfl⟩

end Context

theorem Findings.Within.reports {found : Findings} (h : found.Within fun _ => True) :
    ∀ d ∈ found.diagnostics, d.isRedeclaration = false :=
  fun d hd => (h.errors d hd).2

theorem Action.apply_reports {ctx : Context} {region : Region} (a : Action)
    (hframe : ctx.scope.inner.entries = Attempt.firsts region.attempts) :
    ∃ reports, (a.apply ctx).diagnostics = ctx.diagnostics ++ reports ∧
      a.Reports region reports := by
  have hclosed : Ty.Closed fun _ => True := Ty.Invariant.trivial.closed 0
  have hscope : ctx.scope.Within fun _ => True := fun _ _ => .intro
  have hsilent : ctx.diagnostics = ctx.diagnostics ++ [] := (List.append_nil _).symm
  cases a with
  | define name type => exact Context.define_reports hframe name type
  | find name => exact ⟨_, rfl, (Name.check_within hclosed.builtIn hscope name).findings.reports⟩
  | value d => exact ⟨_, rfl, (d.value.check_within hclosed.builtIn hscope).findings.reports⟩
  | body stmt => exact ⟨_, rfl, (stmt.check_within hclosed hscope).reports⟩
  | noResult function => exact ⟨_, rfl, ((Findings.within_error _ _).mpr rfl).reports⟩
  | record id type => exact ⟨_, rfl, ((Findings.within_record _ _).mpr .intro).reports⟩
  | predefine a => exact ⟨[], hsilent, rfl⟩
  | _ => exact ⟨[], hsilent, by simp [Reports]⟩

inductive Routine.DeclaredIn : Routine → Block → Prop where
  | here {r : Routine} {b : Block} : r ∈ b.routines → DeclaredIn r b
  | inside {r outer : Routine} {b : Block} : outer ∈ b.routines → DeclaredIn r outer.block →
    DeclaredIn r b

theorem Routine.DeclaredIn.mem_items {r : Routine} {b : Block} (h : r.DeclaredIn b) :
    .routine r ∈ b.items := by
  induction h with
  | here hr =>
    rw [Block.items_eq]
    apply List.mem_append_left
    apply List.mem_append_right
    refine List.mem_flatMap.mpr ⟨r, hr, ?_⟩
    simp [Routine.items_eq, Routine.headItems]
  | inside houter _ ih =>
    rw [Block.items_eq]
    apply List.mem_append_left
    apply List.mem_append_right
    refine List.mem_flatMap.mpr ⟨_, houter, ?_⟩
    rw [Routine.items_eq]
    exact List.mem_append_left _ (List.mem_append_right _ ih)

theorem Program.enters {p : Program} {r : Routine} (h : r.DeclaredIn p.block) (table : Predefined)
    (ctx : Context) : .enter r ∈ p.plan table ctx := by
  have hitem := h.mem_items
  rw [← p.plan_lists table ctx] at hitem
  obtain ⟨a, ha, hroutine⟩ := List.mem_filterMap.mp hitem
  cases a with
  | enter r' =>
    cases hroutine
    exact ha
  | _ => cases hroutine

theorem Region.Stack.initial_eq_empty {root : Block} {regions : List Region}
    (h : Stack root .empty regions) : ∀ region ∈ regions, region.initial = .empty := by
  induction h with
  | program _ hinitial => simpa using hinitial
  | routine _ hinitial _ _ ih => exact List.forall_mem_cons.mpr ⟨hinitial, ih⟩

theorem Context.Shows.entries_eq_firsts {root : Block} {start : Scope} {ctx : Context}
    {regions : List Region} (h : Shows root start ctx regions) (hstart : start.inner.entries = []) :
    ∀ region ∈ regions, region.frame.entries = Attempt.firsts region.attempts := by
  have hstack := h.stack
  rw [Frame.eq_empty hstart] at hstack
  intro region hregion
  exact Region.entries_of_initial (hstack.initial_eq_empty region hregion)

namespace Program

theorem check_keeps_first_declarations (p : Program) (table : Predefined) {ctx : Context}
    (hfresh : ctx.scope.inner.entries = []) :
    ctx.run (p.plan table ctx) = p.check table ctx ∧
    (∀ r : Routine, r.DeclaredIn p.block → .enter r ∈ p.plan table ctx) ∧
    (∀ done, done <+: p.plan table ctx → ∃ frames,
      (ctx.run done).scope.frames = frames ++ ctx.scope.outer ∧
      frames.map (·.entries) =
        (ctx.regions done).map fun region => Attempt.firsts region.attempts) ∧
    (∃ region, ctx.regions (p.plan table ctx) = [region] ∧
      region.values.map (·.1) = p.block.constDefs ∧
      region.attempts.map Attempt.site = p.sites table region.values) ∧
    ∀ done a, done ++ [a] <+: p.plan table ctx → ∃ region outer reports,
      ctx.regions done = region :: outer ∧
      (ctx.run (done ++ [a])).diagnostics = (ctx.run done).diagnostics ++ reports ∧
      a.Reports region reports ∧
      (a = .leave → ∃ r, region.routine? = some r ∧ region.Complete r) := by
  refine ⟨p.plan_does table ctx, ?_, ?_, ?_, ?_⟩
  . intro r hr
    exact enters hr table ctx
  . intro done hdone
    have hshows := shows_moment hdone
    refine ⟨_, hshows.frames, ?_⟩
    rw [List.map_map]
    exact List.map_congr_left (hshows.entries_eq_firsts hfresh)
  . obtain ⟨values, attempts, hregions, hvalues, hattempts⟩ := p.regions_plan table ctx
    exact ⟨_, hregions, hvalues, hattempts⟩
  . intro done a hdone
    have hshows := shows_moment ((List.prefix_append done [a]).trans hdone)
    have hentries := hshows.entries_eq_firsts hfresh
    have hframes := hshows.frames
    obtain ⟨region, outer, hregions⟩ := hshows.stack.exists_cons
    rw [hregions] at hframes hentries
    have hinner : (ctx.run done).scope.inner.entries = Attempt.firsts region.attempts := by
      rw [(List.cons.inj hframes).1]
      exact hentries region List.mem_cons_self
    obtain ⟨reports, happly, hreports⟩ := a.apply_reports hinner
    refine ⟨region, outer, reports, hregions, ?_, hreports, ?_⟩
    . rw [Context.run_append]
      exact happly
    . intro hleave
      have hproper := proper_moment hdone
      rw [hleave, hregions] at hproper
      obtain ⟨_, _, r, heq, hroutine, hcomplete⟩ := hproper
      cases heq
      exact ⟨r, hroutine, hcomplete⟩

end Program

theorem Sample.repeated_reported :
    ∃ d, (Context.empty.run ((Sample.repeated.plan [] .empty).take 9)).diagnostics = [d] ∧
      d.Repeats ⟨node 11, "N"⟩ ⟨"n", .integer, some (.point 1 7)⟩ := by
  have h := Sample.repeated.check_keeps_first_declarations []
    (rfl : Context.empty.scope.inner.entries = [])
  obtain ⟨region, outer, reports, hregions, hdiagnostics, hreports, -⟩ :=
    h.2.2.2.2 ((Sample.repeated.plan [] .empty).take 8) (.define ⟨node 11, "N"⟩ .integer)
      ⟨(Sample.repeated.plan [] .empty).drop 9, rfl⟩
  cases hregions
  obtain ⟨d, rfl, hd⟩ := hreports
  exact ⟨d, hdiagnostics, hd⟩

end PascalCheck
