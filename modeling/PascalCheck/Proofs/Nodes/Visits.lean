import PascalCheck.Proofs.Nodes.Shapes
import PascalCheck.Visitor.Basic

/-!
Visits by visitors that look at nothing but the landmarks of nodes. What they take down can be read
off the shape of a tree.
-/

namespace PascalCheck

section Forms

variable {α : Type} (f : Info → Form α → α)

theorem Expr.folds_eq_map (es : List Expr) : Expr.folds f es = es.map (·.fold f) := by
  induction es with
  | nil => rw [folds, List.map_nil]
  | cons e es ih =>
    rw [folds, ih, List.map_cons]
    rfl

theorem Stmt.folds_eq_map (ss : List Stmt) : Stmt.folds f ss = ss.map (·.fold f) := by
  induction ss with
  | nil => rw [folds, List.map_nil]
  | cons s ss ih =>
    rw [folds, ih, List.map_cons]
    rfl

theorem Routine.folds_eq_map (rs : List Routine) :
    Routine.folds f rs = rs.map fun r => (Root.routine r).fold f := by
  induction rs with
  | nil => rw [folds, List.map_nil]
  | cons r rs ih =>
    rw [folds, ih, List.map_cons]
    rfl

namespace Root

theorem nodeClass_form (root : Root) : (root.form f).nodeClass = root.formClass := by
  cases root with
  | block b =>
    cases b
    rfl
  | const c => cases c <;> rfl
  | type t => cases t <;> rfl
  | routine r => cases r <;> rfl
  | group g =>
    obtain ⟨info, mode, names, type⟩ := g
    cases mode <;> rfl
  | stmt s => cases s <;> rfl
  | expr e => cases e <;> rfl
  | _ => rfl

theorem parts_form_stmt (s : Stmt) : (s.form f).parts = s.parts.map (·.fold f) := by
  cases s with
  | call info callee args =>
    cases args with
    | none => rfl
    | some args =>
      rw [Stmt.form, Option.map_some, Form.parts, Expr.folds_eq_map, Stmt.parts, List.map_map]
      rfl
  | compound info stmts =>
    rw [Stmt.form, Form.parts, Stmt.folds_eq_map, Stmt.parts, List.map_map]
    rfl
  | repeatUntil info stmts condition =>
    rw [Stmt.form, Form.parts, Stmt.folds_eq_map, Stmt.parts, List.map_append, List.map_map]
    rfl
  | _ => rfl

theorem parts_form_routine (r : Routine) : (r.form f).parts = r.parts.map (·.fold f) := by
  rcases r with ⟨info, name, _ | params, b⟩ | ⟨info, name, _ | params, result, b⟩ <;>
    simp only [Routine.form, Form.parts, Routine.parts, List.map_append, List.map_map,
      Option.map_none, Option.map_some, Option.getD_none, Option.getD_some] <;>
    rfl

theorem parts_form_block (b : Block) : (b.form f).parts = b.parts.map (·.fold f) := by
  obtain ⟨info, consts, vars, part, body⟩ := b
  have hpart : (part.fold? f).toList = part.nodes.map (·.fold f) := by
    cases part <;> rfl
  rw [Block.form, Form.parts, hpart]
  cases consts <;> cases vars <;> rw [Block.parts, List.map_append, List.map_append] <;> rfl

theorem parts_form (root : Root) : (root.form f).parts = root.parts.map (·.fold f) := by
  cases root with
  | block b => exact parts_form_block f b
  | constPart p =>
    rw [form, Form.parts, parts, List.map_map]
    rfl
  | const c => cases c <;> rfl
  | type t => cases t <;> rfl
  | varPart p =>
    rw [form, Form.parts, parts, List.map_map]
    rfl
  | routinePart info routines =>
    rw [form, Form.parts, parts, Routine.folds_eq_map, List.map_map]
    rfl
  | routine r => exact parts_form_routine f r
  | group g =>
    obtain ⟨info, mode, names, type⟩ := g
    cases mode <;> rfl
  | stmt s => exact parts_form_stmt f s
  | expr e =>
    cases e with
    | call info callee args =>
      rw [form, Expr.form, Form.parts, Expr.folds_eq_map, parts, Expr.parts, List.map_map]
      rfl
    | _ => rfl
  | _ => rfl

theorem fold_cases (root : Root) :
    root.category? = none ∧ root.fold f = root.foldForm f ∨
      ∃ form, root.category? = some form.nodeClass ∧ form.parts = [root.foldForm f] ∧
        root.fold f = f root.info form := by
  cases root with
  | const _ => exact .inr ⟨.const _, rfl, rfl, rfl⟩
  | type _ => exact .inr ⟨.typeDenoter _, rfl, rfl, rfl⟩
  | routine _ => exact .inr ⟨.routine _, rfl, rfl, rfl⟩
  | group _ => exact .inr ⟨.group _, rfl, rfl, rfl⟩
  | stmt _ => exact .inr ⟨.stmt _, rfl, rfl, rfl⟩
  | expr _ => exact .inr ⟨.expr _, rfl, rfl, rfl⟩
  | _ => exact .inl ⟨rfl, rfl⟩

def visited (withCategory : Bool) (root : Root) : α :=
  if withCategory then root.fold f else root.foldForm f

end Root

end Forms

namespace Visitor

def Records (visit : Recording Unit) (events : List Event) : Prop :=
  ∀ before, visit.run before = ((), before ++ events)

namespace Records

theorem recorded_eq {visit : Recording Unit} {events : List Event} (h : Records visit events) :
    recorded visit = events := by
  rw [recorded, h []]
  rfl

theorem record (phase : Phase) (mark : Landmark) : Records (record phase mark) [⟨phase, mark⟩] :=
  fun _ => rfl

theorem bind {visit next : Recording Unit} {events events' : List Event}
    (h : Records visit events) (h' : Records next events') :
    Records (do visit; next) (events ++ events') := by
  intro before
  rw [StateT.run_bind, h before]
  exact (h' _).trans (by rw [List.append_assoc])

theorem single {visit : Recording Unit} {events : List Event} (h : Records visit events) :
    Records ([visit].forM id) events := by
  intro before
  have hvisit := h before
  simp_all [List.forM]

theorem forM {α : Type} {xs : List α} {visit : α → Recording Unit} {events : α → List Event}
    (h : ∀ x ∈ xs, Records (visit x) (events x)) :
    Records ((xs.map visit).forM id) (xs.flatMap events) := by
  induction xs with
  | nil =>
    intro before
    rw [List.flatMap_nil, List.append_nil]
    rfl
  | cons x xs ih =>
    rw [List.forall_mem_cons] at h
    exact h.1.bind (ih h.2)

end Records

structure Follows (v : Visitor Recording) (events : Shape → List Event) : Prop where
  leaf : ∀ info form, form.nodeClass.isLeaf = true →
    Records (v.visit info form) (events (.leaf (form.mark info)))
  node : ∀ info form shapes, form.nodeClass.isLeaf = false →
    Records (form.parts.forM id) (shapes.flatMap events) →
    Records (v.visit info form) (events (.node (form.mark info) shapes))

namespace Follows

variable {v : Visitor Recording} {events : Shape → List Event}

theorem foldForm_of_parts (h : v.Follows events) {root : Root}
    (hparts : ∀ part ∈ root.parts, Records (part.fold v.visit) (events part.shape)) :
    Records (root.foldForm v.visit) (events (root.formShape (root.parts.map Root.shape))) := by
  have hmark : (root.form v.visit).mark root.info = root.mark := by
    rw [Form.mark, Root.nodeClass_form]
    rfl
  have hclass := root.nodeClass_form v.visit
  unfold Root.foldForm Root.formShape
  split
  next hleaf =>
    rw [← hmark]
    exact h.leaf _ _ (hclass ▸ hleaf)
  next hnode =>
    rw [← hmark]
    apply h.node
    . rw [hclass]
      exact Bool.eq_false_iff.mpr hnode
    . rw [Root.parts_form, List.flatMap_map]
      exact Records.forM hparts

theorem fold (h : v.Follows events) (root : Root) :
    Records (root.fold v.visit) (events root.shape) := by
  induction root using Root.parts_induction with
  | h root ih =>
    have hform := h.foldForm_of_parts ih
    rw [root.shape_eq]
    obtain ⟨hcategory, hfold⟩ | ⟨form, hcategory, hparts, hfold⟩ := root.fold_cases v.visit
    . rw [hfold, hcategory]
      exact hform
    . rw [hfold, hcategory]
      apply h.node root.info form [_] (Root.not_isLeaf_category hcategory)
      rw [hparts, List.flatMap_singleton]
      exact hform.single

theorem foldForm (h : v.Follows events) (root : Root) :
    Records (root.foldForm v.visit) (events root.shape.inner) := by
  rw [root.inner_shape]
  exact h.foldForm_of_parts fun part _ => h.fold part

theorem visited (h : v.Follows events) (root : Root) (withCategory : Bool) :
    Records (root.visited v.visit withCategory) (events (root.walked withCategory)) := by
  cases withCategory with
  | true => exact h.fold root
  | false => exact h.foldForm root

end Follows

theorem observer_follows : observer.Follows Shape.events where
  leaf info form hleaf := by
    rw [visit, if_pos hleaf, Shape.events_leaf]
    exact .record .leaf _
  node info form shapes hnode hparts := by
    rw [visit, if_neg (Bool.eq_false_iff.mp hnode), Shape.events_node]
    exact (Records.record .enter _).bind (hparts.bind (.record .leave _))

theorem pruner_follows (skipped : NodeClass → Bool) :
    (pruner skipped).Follows (Shape.branchEvents skipped) where
  leaf info form hleaf := by
    rw [visit, if_pos hleaf, Shape.branchEvents_leaf]
    intro before
    rw [List.append_nil]
    rfl
  node info form shapes hnode hparts := by
    rw [visit, if_neg (Bool.eq_false_iff.mp hnode)]
    cases hskipped : skipped form.nodeClass with
    | true =>
      rw [Shape.branchEvents_skipped hskipped]
      simp only [pruner, hskipped, Option.getD_some]
      exact .record .skip _
    | false =>
      rw [Shape.branchEvents_node hskipped]
      simp only [pruner, hskipped, Option.getD_some]
      exact (Records.record .enter _).bind (hparts.bind (.record .leave _))

end Visitor

end PascalCheck
