import PascalCheck.Proofs.Arena.Basic
import PascalCheck.Proofs.Regions.Names
import PascalCheck.Proofs.Steps

/-!
A check and the arena of the types that it makes. Every type that an action binds, records or makes
another type from is in the arena by then, so the arena keeps up with all that the context holds.
-/

namespace PascalCheck

variable [Naming]

namespace Arena

structure Allows (arena : Arena) (t : Ty) : Prop where
  tag : t.identity = .made arena.length
  parts : ∀ part ∈ t.parts, arena.Has part
  made : t.kind.isMade = true

/-- All types that a context holds are in the arena. -/
structure Supports (arena : Arena) (ctx : Context) : Prop where
  founded : arena.Founded
  size : arena.length = ctx.nextTag
  scope : ctx.scope.Within arena.Has
  records : ∀ r ∈ ctx.records, arena.Has r.type

end Arena

def Findings.Actual.kind (a : Findings.Actual) : Kind :=
  .parameter .actual a.mode a.type.identity

namespace Action

def made (ctx : Context) : Action → List Kind
  | .make type => [type.kind]
  | .body stmt => (stmt.check ctx.scope).actuals.map (·.kind)
  | _ => []

def Fits (arena : Arena) : Action → Prop
  | .make type => arena.Allows type
  | .define _ type | .record _ type => arena.Has type
  | .predefine a => arena.Has a.type
  | _ => True

end Action

def Context.made : Context → List Action → List Kind
  | _, [] => []
  | ctx, a :: as => a.made ctx ++ (a.apply ctx).made as

theorem Context.made_append (ctx : Context) (as bs : List Action) :
    ctx.made (as ++ bs) = ctx.made as ++ (ctx.run as).made bs := by
  induction as generalizing ctx with
  | nil => rfl
  | cons a as ih => rw [List.cons_append, made, made, ih, List.append_assoc, run_cons]

namespace Arena

def after (arena : Arena) (ctx : Context) (done : List Action) : Arena :=
  arena ++ ctx.made done

def Fits : Arena → Context → List Action → Prop
  | _, _, [] => True
  | arena, ctx, a :: as => a.Fits arena ∧ Fits (arena.after ctx [a]) (a.apply ctx) as

variable {arena : Arena} {ctx : Context}

theorem after_nil (arena : Arena) (ctx : Context) : arena.after ctx [] = arena :=
  List.append_nil arena

theorem after_singleton (arena : Arena) (ctx : Context) (a : Action) :
    arena.after ctx [a] = arena ++ a.made ctx := by
  rw [after, Context.made, Context.made, List.append_nil]

theorem after_of_made {a : Action} (h : a.made ctx = []) : arena.after ctx [a] = arena := by
  rw [after_singleton, h, List.append_nil]

theorem after_append (arena : Arena) (ctx : Context) (as bs : List Action) :
    arena.after ctx (as ++ bs) = (arena.after ctx as).after (ctx.run as) bs := by
  rw [after, after, after, Context.made_append, List.append_assoc]

theorem fits_append (as bs : List Action) :
    arena.Fits ctx (as ++ bs) ↔ arena.Fits ctx as ∧ (arena.after ctx as).Fits (ctx.run as) bs := by
  induction as generalizing arena ctx with
  | nil => simp [Fits, after_nil]
  | cons a as ih =>
    rw [List.cons_append, Fits, Fits, ih, Context.run_cons, and_assoc,
      show arena.after ctx (a :: as) = _ from after_append arena ctx [a] as]
    rfl

theorem fits_cons {a : Action} (as : List Action) (h : a.made ctx = []) :
    arena.Fits ctx (a :: as) ↔ a.Fits arena ∧ arena.Fits (a.apply ctx) as := by
  rw [Fits, after_of_made h]

theorem Has.after {t : Ty} (h : arena.Has t) (ctx : Context) (done : List Action) :
    (arena.after ctx done).Has t :=
  h.append _

theorem has_closed (arena : Arena) : Ty.Closed arena.Has where
  builtIn _ h := .of_isBuiltIn h
  result t r h hresult := by
    cases t with
    | function tag params result =>
      cases hresult
      exact h.part (List.mem_append_right _ (List.mem_singleton_self r))
    | _ => cases hresult
  alternative t ts h hts r hr := by
    cases t with
    | overload tag alternatives =>
      cases hts
      exact h.part hr
    | _ => cases hts

end Arena

namespace Arena.Supports

variable {arena : Arena} {ctx : Context}

theorem make (h : arena.Supports ctx) {t : Ty} (ht : arena.Allows t) :
    Arena.Supports (arena ++ [t.kind]) { ctx with nextTag := ctx.nextTag + 1 } := by
  refine ⟨h.founded.append ht.made ?_, ?_, ?_, ?_⟩
  . rw [Ty.inner_kind, List.forall_mem_map]
    intro part hpart
    rw [(ht.parts part hpart).known]
    rfl
  . rw [List.length_append, h.size]
    rfl
  . exact fun e he => (h.scope e he).append _
  . exact fun r hr => (h.records r hr).append _

theorem define (h : arena.Supports ctx) (name : Name) {type : Ty} (htype : arena.Has type) :
    arena.Supports (ctx.define name type) := by
  refine ⟨h.founded, ?_, Context.scope_define_within h.scope name htype, ?_⟩
  . rw [Context.nextTag_define, h.size]
  . rw [Context.records_define]
    exact h.records

theorem pass (h : arena.Supports ctx) {actuals : List Findings.Actual}
    (hactuals : ∀ a ∈ actuals, arena.Has a.type) :
    Arena.Supports (arena ++ actuals.map (·.kind))
      { ctx with nextTag := ctx.nextTag + actuals.length } := by
  induction actuals generalizing arena ctx with
  | nil =>
    rw [List.map_nil, List.append_nil]
    exact h
  | cons a actuals ih =>
    rw [List.forall_mem_cons] at hactuals
    have hallows : arena.Allows (a.descriptor ctx.nextTag) :=
      ⟨congrArg Ty.Identity.made h.size.symm, List.forall_mem_singleton.mpr hactuals.1, rfl⟩
    have hrest := ih (h.make hallows) fun b hb => (hactuals.2 b hb).append _
    rw [List.append_assoc] at hrest
    rw [List.length_cons, ← Nat.add_assoc, Nat.add_right_comm]
    exact hrest

theorem has_descriptor (h : arena.Supports ctx) {actuals : List Findings.Actual}
    (hactuals : ∀ a ∈ actuals, arena.Has a.type) {i : Nat} {a : Findings.Actual}
    (ha : actuals[i]? = some a) :
    Arena.Has (arena ++ actuals.map (·.kind)) (a.descriptor (ctx.nextTag + i)) := by
  have htype := (hactuals a (List.mem_of_getElem? ha)).append (actuals.map (·.kind))
  refine .intro ?_ (List.forall_mem_singleton.mpr htype)
  change (arena ++ actuals.map (·.kind))[ctx.nextTag + i]? = some a.kind
  rw [← h.size, List.getElem?_append_right (Nat.le_add_right _ _), Nat.add_sub_cancel_left,
    List.getElem?_map, ha, Option.map_some]

theorem add (h : arena.Supports ctx) {found : Findings} (hfound : found.Within arena.Has) :
    Arena.Supports (arena ++ found.actuals.map (·.kind)) (ctx.add found) := by
  have hpass := h.pass hfound.actuals
  refine ⟨hpass.founded, hpass.size, hpass.scope, List.forall_mem_append.mpr ⟨?_, hpass.records⟩⟩
  exact fun r hr => (hfound.types r hr).append _

theorem add_of_actuals (h : arena.Supports ctx) {found : Findings} (hfound : found.Within arena.Has)
    (hactuals : found.actuals = []) : arena.Supports (ctx.add found) := by
  have hadd := h.add hfound
  rw [hactuals, List.map_nil, List.append_nil] at hadd
  exact hadd

theorem apply (h : arena.Supports ctx) {a : Action} (ha : a.Fits arena) :
    (arena.after ctx [a]).Supports (a.apply ctx) := by
  have hclosed := arena.has_closed
  cases a with
  | make type => exact h.make ha
  | body stmt =>
    rw [after_singleton]
    exact h.add (stmt.check_within hclosed h.scope)
  | define name type =>
    rw [after_of_made rfl]
    exact h.define name ha
  | predefine a =>
    rw [after_of_made rfl]
    exact ⟨h.founded, h.size, Context.scope_predefine_within h.scope ha, h.records⟩
  | find name =>
    rw [after_of_made rfl]
    exact h.add_of_actuals (Name.check_within hclosed.builtIn h.scope name).findings
      (Name.actuals_check ctx.scope name)
  | value d =>
    rw [after_of_made rfl]
    exact h.add_of_actuals (d.value.check_within hclosed.builtIn h.scope).findings
      (d.value.actuals_check ctx.scope)
  | record id type =>
    rw [after_of_made rfl]
    exact h.add_of_actuals ((Findings.within_record id type).mpr ha) rfl
  | noResult function =>
    rw [after_of_made rfl]
    exact h.add_of_actuals ((Findings.within_error _ _).mpr rfl) rfl
  | enter r =>
    rw [after_of_made rfl]
    exact ⟨h.founded, h.size, h.scope.push, h.records⟩
  | leave =>
    rw [after_of_made rfl]
    exact ⟨h.founded, h.size, h.scope.pop, h.records⟩
  | note entry =>
    rw [after_of_made rfl]
    exact ⟨h.founded, h.size, h.scope, h.records⟩

theorem run (h : arena.Supports ctx) {as : List Action} (has : arena.Fits ctx as) :
    (arena.after ctx as).Supports (ctx.run as) := by
  induction as generalizing arena ctx with
  | nil =>
    rw [after_nil]
    exact h
  | cons a as ih =>
    rw [← List.singleton_append, after_append]
    exact ih (h.apply has.1) has.2

end Arena.Supports

namespace Plan

def Fits (plan : Plan) (given : List Ty) : Prop :=
  ∀ (arena : Arena) (ctx : Context), arena.Supports ctx → (∀ t ∈ given, arena.Has t) →
    arena.Fits ctx (plan ctx)

variable {given : List Ty}

theorem Fits.andThen {a b : Plan} (ha : a.Fits given) (hb : b.Fits given) :
    (a.andThen b).Fits given := by
  intro arena ctx h hgiven
  have hfirst := ha arena ctx h hgiven
  rw [Plan.andThen, Arena.fits_append]
  exact ⟨hfirst, hb _ _ (h.run hfirst) fun t ht => (hgiven t ht).after _ _⟩

theorem Fits.all {α : Type} {plan : α → Plan} {xs : List α}
    (h : ∀ x ∈ xs, (plan x).Fits given) : (Plan.all plan xs).Fits given := by
  induction xs with
  | nil => exact fun _ _ _ _ => .intro
  | cons x xs ih =>
    rw [List.forall_mem_cons] at h
    exact h.1.andThen (ih h.2)

end Plan

namespace Arena

variable {arena : Arena} {ctx : Context}

theorem fits_defineActions (names : List Name) {type : Ty} (h : arena.Has type) :
    arena.Fits ctx (defineActions names type) := by
  induction names generalizing arena ctx with
  | nil => exact .intro
  | cons name names ih => exact ⟨h, ih (h.after _ _)⟩

theorem Allows.has {t : Ty} (h : arena.Allows t) : Arena.Has (arena ++ [t.kind]) t :=
  Has.last h.tag h.parts

end Arena

variable {given : List Ty}

theorem ConstDef.plan_fits (d : ConstDef) : d.plan.Fits given := by
  intro arena ctx h _
  have hvalue := (d.value.check_within arena.has_closed.builtIn h.scope).type
  simp only [plan]
  split
  . exact ⟨.intro, .intro⟩
  . exact ⟨.intro, hvalue.after _ _, .intro⟩

theorem TypeName.has_type (t : TypeName) (arena : Arena) : arena.Has t.type :=
  .of_isBuiltIn rfl

theorem TypeDenoter.plan_fits (t : TypeDenoter) {arena : Arena} {ctx : Context}
    (h : arena.Supports ctx) :
    arena.Fits ctx (t.plan ctx) ∧ (arena.after ctx (t.plan ctx)).Has (t.typeIn ctx) := by
  induction t with
  | named name => exact ⟨⟨name.has_type arena, .intro⟩, name.has_type _⟩
  | file info component ih =>
    obtain ⟨hcomponent, hhas⟩ := ih
    have hrun := h.run hcomponent
    rw [component.plan_does] at hrun
    have hallows : (arena.after ctx (component.plan ctx)).Allows
        ((TypeDenoter.file info component).typeIn ctx) := by
      refine ⟨?_, ?_, rfl⟩
      . rw [hrun.size]
        rfl
      . exact List.forall_mem_singleton.mpr hhas
    simp only [plan_file]
    rw [Arena.fits_append, Arena.after_append]
    exact ⟨⟨hcomponent, hallows, hallows.has, .intro⟩, hallows.has⟩

theorem VarDecl.plan_fits (d : VarDecl) : d.plan.Fits given := by
  intro arena ctx h _
  obtain ⟨htype, hhas⟩ := d.type.plan_fits h
  rw [plan, Arena.fits_append]
  exact ⟨htype, Arena.fits_defineActions d.names hhas⟩

theorem Group.plan_fits (g : Group) : g.plan.Fits given := by
  intro arena ctx h _
  have hallows : arena.Allows (g.typeIn ctx) := by
    refine ⟨?_, List.forall_mem_singleton.mpr (g.type.has_type arena), rfl⟩
    rw [h.size]
    rfl
  simp only [plan]
  rw [Arena.fits_append]
  refine ⟨(Arena.fits_cons _ rfl).mpr ⟨g.type.has_type arena, hallows, hallows.has, .intro⟩, ?_⟩
  exact Arena.fits_defineActions g.names hallows.has

namespace Routine

theorem opening_fits (r : Routine) : r.opening.Fits given := by
  refine .andThen ?_ (.all fun g _ => g.plan_fits)
  intro arena ctx _ _
  unfold Plan.fixed entering
  cases r.result? with
  | none => exact ⟨.intro, .intro, .intro⟩
  | some result => exact ⟨result.has_type arena, .intro, .intro, .intro⟩

theorem allows_type (r : Routine) {arena : Arena} {ctx : Context} (h : arena.Supports ctx)
    {params : List Ty} (hparams : ∀ p ∈ params, arena.Has p) :
    arena.Allows (r.type params ctx.nextTag) := by
  rw [← h.size]
  unfold type
  split
  . exact ⟨rfl, hparams, rfl⟩
  next result _ =>
    refine ⟨rfl, ?_, rfl⟩
    exact List.forall_mem_append.mpr ⟨hparams, List.forall_mem_singleton.mpr (result.has_type arena)⟩

theorem ending_fits (r : Routine) (own : Ty) : (r.ending own).Fits given := by
  intro arena ctx _ _
  unfold ending
  split
  . exact ⟨.intro, .intro, .intro⟩
  . exact ⟨.intro, .intro⟩

theorem closing_fits (r : Routine) (params : List Ty) : (r.closing params).Fits params := by
  intro arena ctx h hparams
  have hallows := r.allows_type h hparams
  rw [closing, Arena.fits_cons _ rfl, Arena.fits_cons _ rfl]
  exact ⟨.intro, .intro, hallows, hallows.has, hallows.has.after _ _, .intro⟩

theorem inside_fits {r : Routine} {params : List Ty} (hblock : r.block.plan.Fits params) (own : Ty) :
    (r.block.plan.andThen ((r.ending own).andThen (r.closing params))).Fits params :=
  -- The parameters are there before the block is checked, so they are there afterwards.
  hblock.andThen ((r.ending_fits own).andThen (r.closing_fits params))

theorem remainder_fits {r : Routine} (hblock : ∀ given, r.block.plan.Fits given) :
    (r.remainder r.block.plan).Fits given := by
  intro arena ctx h _
  have hparams : ∀ p ∈ ctx.scope.inner.entries.map (·.type), arena.Has p := by
    rw [List.forall_mem_map]
    exact fun e he => h.scope e (List.mem_append_left _ he)
  have hallows := r.allows_type h hparams
  have hown : arena.Fits ctx [.make _, .define r.name _] := ⟨hallows, hallows.has, .intro⟩
  simp only [remainder]
  rw [Plan.andThen, Plan.fixed, Arena.fits_append]
  exact ⟨hown, inside_fits (hblock _) _ _ _ (h.run hown) fun p hp => (hparams p hp).after _ _⟩

end Routine

theorem Block.plan_fits (b : Block) : b.plan.Fits given := by
  induction b using Block.nested_induction generalizing given with
  | h b ih =>
    have hbody : (Plan.fixed [.body b.body.stmt]).Fits given := fun _ _ _ _ => ⟨.intro, .intro⟩
    have hroutines : (Plan.all Routine.plan b.routines).Fits given := by
      apply Plan.Fits.all
      intro r hr
      rw [r.plan_eq]
      exact r.opening_fits.andThen (Routine.remainder_fits fun _ => ih r hr)
    rw [plan_eq]
    exact .andThen (.all fun d _ => d.plan_fits)
      (.andThen (.all fun d _ => d.plan_fits) (hroutines.andThen hbody))

theorem Name.filePlan_fits (name : Name) : name.filePlan.Fits given := by
  intro arena ctx h _
  have hallows : arena.Allows (.file ctx.nextTag .char) := by
    refine ⟨?_, List.forall_mem_singleton.mpr (.of_isBuiltIn rfl), rfl⟩
    rw [h.size]
    rfl
  simp only [filePlan]
  split
  . exact ⟨hallows, hallows.has, .intro⟩
  . exact ⟨.intro, .intro⟩

theorem Predefined.actions_fits (table : Predefined) :
    (Plan.fixed table.actions).Fits (table.map (·.type)) := by
  intro arena _ _ htable
  refine (Arena.fits_cons _ rfl).mpr ⟨.of_isBuiltIn rfl, ?_⟩
  generalize Action.apply _ _ = ctx
  induction table generalizing ctx with
  | nil => exact .intro
  | cons entry table ih =>
    rw [List.map_cons, List.forall_mem_cons] at htable
    exact (Arena.fits_cons _ rfl).mpr ⟨htable.1, ih htable.2 _⟩

theorem Program.plan_fits (p : Program) (table : Predefined) :
    (p.plan table).Fits (table.map (·.type)) := by
  have hnote (given : List Ty) (entry : Context → LogEntry) :
      Plan.Fits (fun ctx => [.note (entry ctx)]) given := fun _ _ _ _ => ⟨.intro, .intro⟩
  have hheading (given : List Ty) : p.heading.plan.Fits given :=
    (hnote _ fun _ => .program p.heading.name.value).andThen (.all fun name _ => name.filePlan_fits)
  exact table.actions_fits.andThen ((hnote _ _).andThen
    ((hheading _).andThen (p.block.plan_fits.andThen (hnote _ _))))

end PascalCheck
