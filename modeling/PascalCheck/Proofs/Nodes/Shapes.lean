import PascalCheck.Proofs.Nodes.Basic
import PascalCheck.Shape.Walk

/-!
Walks over shapes, node by node, and the shape of a tree without the category at its root.
-/

namespace PascalCheck

def NodeClass.isCategory : NodeClass → Bool
  | .const | .typeDenoter | .routine | .group | .stmt | .expr => true
  | _ => false

namespace Shape

theorem walkAll_eq_flatMap (skipped : NodeClass → Bool) (ss : List Shape) :
    walkAll skipped ss = ss.flatMap (walk skipped) := by
  induction ss with
  | nil => rw [walkAll, List.flatMap_nil]
  | cons s ss ih => rw [walkAll, ih, List.flatMap_cons]

theorem parts_induction {motive : Shape → Prop} (leaf : ∀ mark, motive (.leaf mark))
    (node : ∀ mark parts, (∀ part ∈ parts, motive part) → motive (.node mark parts)) (s : Shape) :
    motive s :=
  @Shape.rec motive (fun parts => ∀ part ∈ parts, motive part) leaf node (List.forall_mem_nil _)
    (fun _ _ hpart hparts => List.forall_mem_cons.mpr ⟨hpart, hparts⟩) s

theorem events_leaf (mark : Landmark) : (Shape.leaf mark).events = [⟨.leaf, mark⟩] := by
  rw [events, walk]

theorem events_node (mark : Landmark) (parts : List Shape) :
    (Shape.node mark parts).events =
      ⟨.enter, mark⟩ :: (parts.flatMap events ++ [⟨.leave, mark⟩]) := by
  rw [events, walk, walkAll_eq_flatMap]
  rfl

theorem branchEvents_leaf (skipped : NodeClass → Bool) (mark : Landmark) :
    (Shape.leaf mark).branchEvents skipped = [] := by
  rw [branchEvents, walk]
  rfl

theorem branchEvents_skipped {skipped : NodeClass → Bool} {mark : Landmark}
    (h : skipped mark.nodeClass = true) (parts : List Shape) :
    (Shape.node mark parts).branchEvents skipped = [⟨.skip, mark⟩] := by
  rw [branchEvents, walk, if_pos h]
  rfl

theorem branchEvents_node {skipped : NodeClass → Bool} {mark : Landmark}
    (h : skipped mark.nodeClass = false) (parts : List Shape) :
    (Shape.node mark parts).branchEvents skipped =
      ⟨.enter, mark⟩ :: (parts.flatMap (branchEvents skipped) ++ [⟨.leave, mark⟩]) := by
  rw [branchEvents, walk, if_neg (Bool.eq_false_iff.mp h), walkAll_eq_flatMap, List.filter_append,
    List.filter_cons_of_pos rfl, List.filter_flatMap]
  rfl

def inner : Shape → Shape
  | .node mark [form] => if mark.nodeClass.isCategory then form else .node mark [form]
  | s => s

theorem inner_category {category : NodeClass} (h : category.isCategory = true) (info : Info)
    (form : Shape) : (Shape.category category info form).inner = form :=
  if_pos h

theorem inner_node {mark : Landmark} (h : mark.nodeClass.isCategory = false)
    (parts : List Shape) : (Shape.node mark parts).inner = .node mark parts := by
  unfold inner
  split
  next hnode =>
    obtain ⟨rfl, rfl⟩ := Shape.node.inj hnode
    exact if_neg (Bool.eq_false_iff.mp h)
  next => rfl

end Shape

namespace Root

theorem not_isLeaf_category {root : Root} {category : NodeClass}
    (h : root.category? = some category) : category.isLeaf = false := by
  cases root <;> cases h <;> rfl

theorem isCategory_category {root : Root} {category : NodeClass}
    (h : root.category? = some category) : category.isCategory = true := by
  cases root <;> cases h <;> rfl

theorem not_isCategory_formClass (root : Root) : root.formClass.isCategory = false := by
  cases root with
  | const c => cases c <;> rfl
  | type t => cases t <;> rfl
  | routine r => cases r <;> rfl
  | group g =>
    obtain ⟨info, mode, names, type⟩ := g
    cases mode <;> rfl
  | stmt s => cases s <;> rfl
  | expr e => cases e <;> rfl
  | _ => rfl

theorem inner_shape (root : Root) :
    root.shape.inner = root.formShape (root.parts.map Root.shape) := by
  rw [root.shape_eq]
  cases hcategory : root.category? with
  | none =>
    simp only [Option.elim_none, formShape]
    split
    next => rfl
    next => exact Shape.inner_node root.not_isCategory_formClass _
  | some category => exact Shape.inner_category (isCategory_category hcategory) _ _

def walked (root : Root) (withCategory : Bool) : Shape :=
  if withCategory then root.shape else root.shape.inner

end Root

end PascalCheck
