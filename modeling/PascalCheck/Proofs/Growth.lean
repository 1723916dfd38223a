import PascalCheck.Proofs.Steps

/-!
A check only adds to its context: diagnostics behind those that are there, all of them errors, and
records in front of those that are there. Tags are drawn in increasing order.
-/

namespace PascalCheck.Context

structure Extends (ctx ctx' : Context) : Prop where
  diagnostics : ∃ ds, ctx'.diagnostics = ctx.diagnostics ++ ds ∧ ∀ d ∈ ds, d.severity = .error
  records : ctx.records <:+ ctx'.records
  nextTag : ctx.nextTag ≤ ctx'.nextTag

namespace Extends

theorem refl (ctx : Context) : Extends ctx ctx :=
  ⟨⟨[], by simp, by simp⟩, List.suffix_refl _, Nat.le_refl _⟩

theorem trans {a b c : Context} (hab : Extends a b) (hbc : Extends b c) : Extends a c := by
  obtain ⟨ds, hds, herrors⟩ := hab.diagnostics
  obtain ⟨ds', hds', herrors'⟩ := hbc.diagnostics
  refine ⟨⟨ds ++ ds', ?_, ?_⟩, hab.records.trans hbc.records, Nat.le_trans hab.nextTag hbc.nextTag⟩
  . rw [hds', hds, List.append_assoc]
  . rw [List.forall_mem_append]
    exact ⟨herrors, herrors'⟩

theorem nil_of_nil {ctx ctx' : Context} (h : Extends ctx ctx') (hnil : ctx'.diagnostics = []) :
    ctx.diagnostics = [] := by
  obtain ⟨ds, hds, -⟩ := h.diagnostics
  rw [hnil] at hds
  exact (List.append_eq_nil_iff.mp hds.symm).1

theorem add (ctx : Context) {found : Findings} (h : ∀ d ∈ found.diagnostics, d.severity = .error) :
    Extends ctx (ctx.add found) :=
  ⟨⟨found.diagnostics, rfl, h⟩, List.suffix_append _ _, Nat.le_add_right _ _⟩

theorem of_eq {ctx ctx' : Context} (hdiagnostics : ctx'.diagnostics = ctx.diagnostics)
    (hrecords : ctx'.records = ctx.records) (htag : ctx.nextTag ≤ ctx'.nextTag) :
    Extends ctx ctx' :=
  ⟨⟨[], by simp [hdiagnostics], by simp⟩, hrecords ▸ List.suffix_refl _, htag⟩

theorem define [Naming] (ctx : Context) (name : Name) (type : Ty) :
    Extends ctx (ctx.define name type) := by
  unfold Context.define
  split
  . exact of_eq rfl rfl (Nat.le_refl _)
  . apply add
    simp [redeclaration, Diagnostic.severity]

end Extends

variable [Naming] {P : Nat → Ty → Prop}

theorem Step.extends {a b : Context} (h : Step P a b) : Extends a b := by
  cases h with
  | add hfound => exact .add a fun d hd => (hfound.errors d hd).1
  | note entry => exact .of_eq rfl rfl (Nat.le_refl _)
  | draw hn => exact .of_eq rfl rfl hn
  | push => exact .of_eq rfl rfl (Nat.le_refl _)
  | pop => exact .of_eq rfl rfl (Nat.le_refl _)
  | define name htype => exact .define a name _
  | predefine htype => exact .of_eq rfl rfl (Nat.le_refl _)

theorem Steps.extends {a b : Context} (h : Steps P a b) : Extends a b := by
  induction h with
  | refl => exact .refl a
  | tail _ hstep ih => exact ih.trans hstep.extends

end PascalCheck.Context

namespace PascalCheck

variable [Naming]

open Context (Extends)

theorem ConstDef.check_extends (d : ConstDef) (ctx : Context) : Extends ctx (d.check ctx) :=
  (d.check_steps .trivial (.trivial ctx)).extends

theorem VarDecl.check_extends (d : VarDecl) (ctx : Context) : Extends ctx (d.check ctx) :=
  (d.check_steps .trivial ctx).extends

theorem Routine.check_extends (r : Routine) (ctx : Context) : Extends ctx (r.check ctx) :=
  (r.check_steps .trivial (.trivial ctx)).extends

theorem Program.check_extends (p : Program) (table : Predefined) (ctx : Context) :
    Extends ctx (p.check table ctx) := by
  have hsteps : Context.Steps (fun _ _ => True) ctx (p.check table ctx) :=
    p.check_steps .trivial (.trivial ctx) fun _ _ => trivial
  exact hsteps.extends

theorem Context.leave_extends (ctx : Context) (kind : RoutineKind) (name : Name)
    (type : Nat → Ty) : Extends ctx (ctx.leave kind name type) :=
  (@leave_steps _ (fun _ _ => True) ctx kind name type .intro).extends

theorem Context.Extends.foldl {α : Type} {f : Context → α → Context} (ctx : Context)
    (xs : List α) (h : ∀ x ∈ xs, ∀ ctx, Extends ctx (f ctx x)) : Extends ctx (xs.foldl f ctx) := by
  apply List.foldlRecOn xs f (refl ctx)
  intro ctx' hctx x hx
  exact hctx.trans (h x hx ctx')

end PascalCheck
