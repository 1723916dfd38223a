import PascalCheck.Proofs.Nodes.Addresses
import PascalCheck.Proofs.Outline.Walk

/-!
The walk over a tree, and what is left of it where the nodes of some classes are passed over. In the
walk every node that is entered is left again, so the events of a node and of all that is inside it
stand together; a walk that passes over the node has one event in their place.
-/

namespace PascalCheck

namespace Event

/--
Every node that is entered is left again, after all that happens inside it. The node that is left
agrees with the one that was entered.
-/
inductive Nested (agree : Landmark → Landmark → Prop) : List Event → Prop where
  | nil : Nested agree []
  | leaf {mark : Landmark} {rest : List Event} :
    Nested agree rest → Nested agree (⟨.leaf, mark⟩ :: rest)
  | branch {mark last : Landmark} {inside rest : List Event} :
    agree mark last → Nested agree inside → Nested agree rest →
    Nested agree (⟨.enter, mark⟩ :: (inside ++ ⟨.leave, last⟩ :: rest))

abbrev Balanced : List Event → Prop :=
  Nested fun _ _ => True

/--
Of the events after a node has been entered, those inside the node, the node that the matching event
leaves, and the events after that.
-/
structure Closes (after inside : List Event) (last : Landmark) (rest : List Event) : Prop where
  split : after = inside ++ ⟨.leave, last⟩ :: rest
  balanced : Balanced inside

/--
The events of branches, without those of nodes that are passed over. All that happens inside such a
node is left out, up to the event that leaves it.
-/
inductive Pruned (skipped : NodeClass → Bool) : List Event → List Event → Prop where
  | nil : Pruned skipped [] []
  | leaf {mark : Landmark} {rest pruned : List Event} :
    Pruned skipped rest pruned → Pruned skipped (⟨.leaf, mark⟩ :: rest) pruned
  | enter {mark : Landmark} {rest pruned : List Event} : skipped mark.nodeClass = false →
    Pruned skipped rest pruned → Pruned skipped (⟨.enter, mark⟩ :: rest) (⟨.enter, mark⟩ :: pruned)
  | leave {mark : Landmark} {rest pruned : List Event} :
    Pruned skipped rest pruned → Pruned skipped (⟨.leave, mark⟩ :: rest) (⟨.leave, mark⟩ :: pruned)
  | skip {mark last : Landmark} {after inside rest pruned : List Event} :
    skipped mark.nodeClass = true → Closes after inside last rest →
    Pruned skipped rest pruned → Pruned skipped (⟨.enter, mark⟩ :: after) (⟨.skip, mark⟩ :: pruned)

namespace Nested

variable {agree : Landmark → Landmark → Prop}

theorem append {es es' : List Event} (h : Nested agree es) (h' : Nested agree es') :
    Nested agree (es ++ es') := by
  induction h with
  | nil => exact h'
  | leaf _ ih => exact .leaf ih
  | branch hagree hinside _ _ ih =>
    rw [List.cons_append, List.append_assoc, List.cons_append]
    exact .branch hagree hinside ih

theorem flatMap {α : Type} {f : α → List Event} {xs : List α}
    (h : ∀ x ∈ xs, Nested agree (f x)) : Nested agree (xs.flatMap f) := by
  induction xs with
  | nil => exact .nil
  | cons x xs ih =>
    rw [List.forall_mem_cons] at h
    exact h.1.append (ih h.2)

theorem balanced {es : List Event} (h : Nested agree es) : Balanced es := by
  induction h with
  | nil => exact .nil
  | leaf _ ih => exact .leaf ih
  | branch _ _ _ ihinside ihrest => exact .branch trivial ihinside ihrest

theorem split_unique {es es' rest rest' : List Event} {last last' : Landmark} (h : Balanced es)
    (h' : Balanced es') (heq : es ++ ⟨.leave, last⟩ :: rest = es' ++ ⟨.leave, last'⟩ :: rest') :
    es = es' ∧ last = last' ∧ rest = rest' := by
  induction h generalizing es' last last' rest rest' with
  | nil => cases h' <;> simp_all
  | leaf _ ih =>
    cases h' with
    | leaf h' =>
      simp only [List.cons_append, List.cons.injEq, Event.mk.injEq, true_and] at heq ⊢
      exact ⟨⟨heq.1, (ih h' heq.2).1⟩, (ih h' heq.2).2⟩
    | _ => simp at heq
  | branch _ _ _ ihinside ihrest =>
    cases h' with
    | branch _ hinside hrest =>
      simp only [List.cons_append, List.append_assoc, List.cons.injEq, Event.mk.injEq,
        true_and] at heq
      obtain ⟨rfl, hcontent⟩ := heq
      obtain ⟨rfl, rfl, hlater⟩ := ihinside hinside hcontent
      obtain ⟨rfl, rfl, rfl⟩ := ihrest hrest hlater
      exact ⟨rfl, rfl, rfl⟩
    | _ => simp at heq

end Nested

theorem Closes.unique {after inside inside' rest rest' : List Event} {last last' : Landmark}
    (h : Closes after inside last rest) (h' : Closes after inside' last' rest') :
    inside = inside' ∧ last = last' ∧ rest = rest' :=
  h.balanced.split_unique h'.balanced (h.split ▸ h'.split)

theorem Nested.closes {events before after : List Event} {mark : Landmark}
    (h : Nested (· = ·) events) (heq : events = before ++ ⟨.enter, mark⟩ :: after) :
    ∃ inside rest, Closes after inside mark rest := by
  induction h generalizing before after with
  | nil => simp at heq
  | leaf _ ih =>
    cases before with
    | nil => simp at heq
    | cons e before => exact ih (List.cons.inj heq).2
  | @branch entered left inside rest hagree hinside hrest ihinside ihrest =>
    cases before with
    | nil =>
      cases heq
      exact ⟨inside, rest, hagree ▸ rfl, hinside.balanced⟩
    | cons e before =>
      -- The node is inside the first one or comes after it.
      obtain ⟨middle, rfl, hmiddle⟩ | ⟨middle, rfl, hmiddle⟩ :=
        List.append_eq_append_iff.mp (List.cons.inj heq).2
      . cases middle with
        | nil => simp at hmiddle
        | cons e middle => exact ihrest (List.cons.inj hmiddle).2
      . cases middle with
        | nil => simp at hmiddle
        | cons e middle =>
          rw [List.cons_append, List.cons.injEq] at hmiddle
          obtain ⟨rfl, rfl⟩ := hmiddle
          obtain ⟨inner, outer, hcloses⟩ := ihinside rfl
          refine ⟨inner, outer ++ ⟨.leave, left⟩ :: rest, ?_, hcloses.balanced⟩
          rw [hcloses.split, List.append_assoc, List.cons_append]

theorem Pruned.unique {skipped : NodeClass → Bool} {events pruned pruned' : List Event}
    (h : Pruned skipped events pruned) (h' : Pruned skipped events pruned') :
    pruned = pruned' := by
  induction h generalizing pruned' with
  | nil =>
    cases h'
    rfl
  | leaf _ ih =>
    cases h' with
    | leaf h' => exact ih h'
  | enter hskipped _ ih =>
    cases h' with
    | enter _ h' => rw [ih h']
    | skip hskipped' => exact absurd hskipped' (Bool.eq_false_iff.mp hskipped)
  | leave _ ih =>
    cases h' with
    | leave h' => rw [ih h']
  | skip hskipped hcloses _ ih =>
    cases h' with
    | enter hskipped' => exact absurd hskipped (Bool.eq_false_iff.mp hskipped')
    | skip _ hcloses' h' =>
      obtain ⟨rfl, rfl, rfl⟩ := hcloses.unique hcloses'
      rw [ih h']

end Event

namespace Shape

open Event (Nested Pruned)

theorem nested_events (s : Shape) : Nested (· = ·) s.events := by
  induction s using parts_induction with
  | leaf mark =>
    rw [events_leaf]
    exact .leaf .nil
  | node mark parts ih =>
    rw [events_node]
    exact .branch rfl (Nested.flatMap ih) .nil

theorem pruned_flatMap {skipped : NodeClass → Bool} {ss : List Shape}
    (h : ∀ s ∈ ss, ∀ rest pruned, Pruned skipped rest pruned →
      Pruned skipped (s.events ++ rest) (s.branchEvents skipped ++ pruned))
    {rest pruned : List Event} (hrest : Pruned skipped rest pruned) :
    Pruned skipped (ss.flatMap events ++ rest) (ss.flatMap (branchEvents skipped) ++ pruned) := by
  induction ss with
  | nil => exact hrest
  | cons s ss ih =>
    rw [List.forall_mem_cons] at h
    rw [List.flatMap_cons, List.flatMap_cons, List.append_assoc, List.append_assoc]
    exact h.1 _ _ (ih h.2)

theorem pruned_append (skipped : NodeClass → Bool) (s : Shape) (rest pruned : List Event)
    (hrest : Pruned skipped rest pruned) :
    Pruned skipped (s.events ++ rest) (s.branchEvents skipped ++ pruned) := by
  induction s using parts_induction generalizing rest pruned with
  | leaf mark =>
    rw [events_leaf, branchEvents_leaf]
    exact .leaf hrest
  | node mark parts ih =>
    rw [events_node, List.cons_append, List.append_assoc, List.singleton_append]
    cases hskipped : skipped mark.nodeClass with
    | true =>
      have hinside : Nested (· = ·) (parts.flatMap events) :=
        Nested.flatMap fun part _ => part.nested_events
      rw [branchEvents_skipped hskipped]
      exact .skip hskipped ⟨rfl, hinside.balanced⟩ hrest
    | false =>
      rw [branchEvents_node hskipped, List.cons_append, List.append_assoc]
      exact .enter hskipped (pruned_flatMap ih (.leave hrest))

theorem pruned_events_iff (skipped : NodeClass → Bool) (s : Shape) (pruned : List Event) :
    Pruned skipped s.events pruned ↔ pruned = s.branchEvents skipped := by
  have hwalk : Pruned skipped s.events (s.branchEvents skipped) := by
    simpa using s.pruned_append skipped [] [] .nil
  constructor
  . intro hpruned
    exact hpruned.unique hwalk
  . rintro rfl
    exact hwalk

end Shape

namespace Root

def entered (root : Root) (withCategory : Bool) : Option NodeClass :=
  if withCategory then root.category? else none

def landmarks (root : Root) (withCategory : Bool) : List Landmark :=
  ((root.entered withCategory).map (⟨·, root.info⟩)).toList ++ [root.mark]

def opening (root : Root) (withCategory : Bool) : List Event :=
  ((root.entered withCategory).map (⟨.enter, ⟨·, root.info⟩⟩)).toList ++
    [⟨if root.formClass.isLeaf then .leaf else .enter, root.mark⟩]

def closing (root : Root) (withCategory : Bool) : List Event :=
  (if root.formClass.isLeaf then [] else [⟨.leave, root.mark⟩]) ++
    ((root.entered withCategory).map (⟨.leave, ⟨·, root.info⟩⟩)).toList

theorem entered_eq_some {root : Root} {withCategory : Bool} {category : NodeClass}
    (h : root.entered withCategory = some category) : root.category? = some category := by
  cases withCategory with
  | true => exact h
  | false => cases h

theorem parts_of_isLeaf {root : Root} (h : root.formClass.isLeaf = true) : root.parts = [] := by
  cases root with
  | heading _ | typeName _ | target _ => rfl
  | const c =>
    cases c with
    | signed _ _ _ => cases h
    | _ => rfl
  | type t =>
    cases t with
    | named _ => rfl
    | file _ _ => cases h
  | stmt s =>
    cases s with
    | empty _ => rfl
    | _ => cases h
  | expr e =>
    cases e with
    | var _ _ => rfl
    | _ => cases h
  | routine r => cases r <;> cases h
  | group g =>
    obtain ⟨_, mode, _, _⟩ := g
    cases mode <;> cases h
  | _ => cases h

theorem events_walked (root : Root) (withCategory : Bool) :
    (root.walked withCategory).events =
      root.opening withCategory ++ root.parts.flatMap (·.shape.events) ++
        root.closing withCategory := by
  have hform : root.shape.inner.events =
      ⟨if root.formClass.isLeaf then .leaf else .enter, root.mark⟩ ::
        (root.parts.flatMap (·.shape.events) ++
          if root.formClass.isLeaf then [] else [⟨.leave, root.mark⟩]) := by
    rw [inner_shape, formShape]
    cases hleaf : root.formClass.isLeaf with
    | true =>
      rw [parts_of_isLeaf hleaf]
      exact Shape.events_leaf root.mark
    | false => exact (Shape.events_node _ _).trans (by rw [List.flatMap_map]; rfl)
  have hnone (h : root.entered withCategory = none) :
      (root.walked withCategory).events = root.shape.inner.events := by
    cases withCategory with
    | true =>
      have hcategory : root.category? = none := h
      rw [inner_shape, walked, if_pos rfl, shape_eq, hcategory]
      rfl
    | false => rfl
  have hsome (category : NodeClass) (h : root.entered withCategory = some category) :
      (root.walked withCategory).events = ⟨.enter, ⟨category, root.info⟩⟩ ::
        (root.shape.inner.events ++ [⟨.leave, ⟨category, root.info⟩⟩]) := by
    cases withCategory with
    | true =>
      have hcategory : root.category? = some category := h
      rw [inner_shape, walked, if_pos rfl, shape_eq, hcategory, Option.elim_some, Shape.category,
        Shape.events_node, List.flatMap_singleton]
    | false => cases h
  rw [opening, closing]
  cases hentered : root.entered withCategory with
  | none =>
    rw [hnone hentered, hform]
    simp
  | some category =>
    rw [hsome category hentered, hform]
    simp

theorem phase_of_mem_opening {root : Root} {withCategory : Bool} {e : Event}
    (h : e ∈ root.opening withCategory) :
    e.phase = if e.mark.nodeClass.isLeaf then .leaf else .enter := by
  rw [opening, List.mem_append, Option.mem_toList, Option.map_eq_some_iff,
    List.mem_singleton] at h
  obtain ⟨category, hcategory, rfl⟩ | rfl := h
  . rw [not_isLeaf_category (entered_eq_some hcategory)]
    rfl
  . rfl

theorem phase_of_mem_closing {root : Root} {withCategory : Bool} {e : Event}
    (h : e ∈ root.closing withCategory) :
    e.phase = .leave ∧ e.mark.nodeClass.isLeaf = false := by
  rw [closing, List.mem_append, Option.mem_toList, Option.map_eq_some_iff] at h
  obtain hform | ⟨category, hcategory, rfl⟩ := h
  . cases hleaf : root.formClass.isLeaf with
    | true =>
      rw [hleaf] at hform
      cases hform
    | false =>
      rw [hleaf] at hform
      cases List.mem_singleton.mp hform
      exact ⟨rfl, hleaf⟩
  . exact ⟨rfl, not_isLeaf_category (entered_eq_some hcategory)⟩

theorem phase_of_mem_events {root : Root} {withCategory : Bool} {e : Event}
    (h : e ∈ (root.walked withCategory).events) :
    e.phase ≠ .skip ∧ (e.phase = .leaf ↔ e.mark.nodeClass.isLeaf = true) := by
  induction root using parts_induction generalizing withCategory with
  | h root ih =>
    rw [events_walked, List.mem_append, List.mem_append, List.mem_flatMap] at h
    obtain (hopening | ⟨part, hpart, hinside⟩) | hclosing := h
    . rw [phase_of_mem_opening hopening]
      cases e.mark.nodeClass.isLeaf <;> decide
    . exact ih part hpart (show e ∈ (part.walked true).events from hinside)
    . rw [(phase_of_mem_closing hclosing).1, (phase_of_mem_closing hclosing).2]
      decide

theorem marks_walked (root : Root) (withCategory : Bool) :
    (root.walked withCategory).marks =
      root.landmarks withCategory ++ root.parts.flatMap (·.shape.marks) := by
  have hopening : ((root.opening withCategory).filter fun e =>
      e.phase == .enter || e.phase == .leaf).map (·.mark) = root.landmarks withCategory := by
    unfold opening landmarks
    cases root.entered withCategory <;> cases root.formClass.isLeaf <;> rfl
  have hclosing : ((root.closing withCategory).filter fun e =>
      e.phase == .enter || e.phase == .leaf) = [] := by
    unfold closing
    cases root.entered withCategory <;> cases root.formClass.isLeaf <;> rfl
  rw [Shape.marks, events_walked, List.filter_append, List.filter_append, List.filter_flatMap,
    hclosing, List.append_nil, List.map_append, List.map_flatMap, hopening]
  rfl

def nodes (root : Root) : List Root :=
  root.addresses.filterMap root.sub?

theorem nodes_eq (root : Root) : root.nodes = root :: root.parts.flatMap nodes := by
  have hparts : root.parts = root.parts.zipIdx.map Prod.fst := (List.zipIdx_map_fst 0 _).symm
  rw [nodes, addresses_eq, List.filterMap_cons_some (sub?.eq_1 root), List.filterMap_flatMap]
  congr 1
  conv => rhs; rw [hparts, List.flatMap_map]
  apply List.flatMap_congr
  intro part hpart
  rw [List.filterMap_map]
  apply List.filterMap_congr
  intro address _
  exact sub?_cons (List.mem_zipIdx_iff_getElem?.mp hpart) address

theorem marks_shape (root : Root) :
    root.shape.marks = root.nodes.flatMap (·.landmarks true) := by
  induction root using parts_induction with
  | h root ih =>
    have hmarks := root.marks_walked true
    rw [walked, if_pos rfl] at hmarks
    rw [hmarks, nodes_eq, List.flatMap_cons, List.flatMap_assoc, List.flatMap_congr ih]

theorem marks_walked_nodes (root : Root) (withCategory : Bool) :
    (root.walked withCategory).marks =
      root.landmarks withCategory ++ root.nodes.tail.flatMap (·.landmarks true) := by
  rw [marks_walked, nodes_eq, List.tail_cons, List.flatMap_assoc]
  congr 1
  apply List.flatMap_congr
  intro part _
  exact part.marks_shape

structure WalkedBy (root : Root) (withCategory : Bool) (events : List Event) : Prop where
  steps : events = root.opening withCategory ++ root.parts.flatMap (·.shape.events) ++
    root.closing withCategory
  phases : ∀ e ∈ events, e.phase ≠ .skip ∧ (e.phase = .leaf ↔ e.mark.nodeClass.isLeaf = true)
  nested : Event.Nested (· = ·) events
  closed : ∀ before mark after, events = before ++ ⟨.enter, mark⟩ :: after →
    ∃ inside rest, Event.Closes after inside mark rest ∧
      ∀ inside' last rest', Event.Closes after inside' last rest' →
        inside' = inside ∧ last = mark ∧ rest' = rest

theorem walkedBy_events (root : Root) (withCategory : Bool) :
    root.WalkedBy withCategory (root.walked withCategory).events where
  steps := root.events_walked withCategory
  phases := fun _ he => phase_of_mem_events he
  nested := (root.walked withCategory).nested_events
  closed := by
    intro before mark after heq
    obtain ⟨inside, rest, hcloses⟩ := (root.walked withCategory).nested_events.closes heq
    exact ⟨inside, rest, hcloses, fun _ _ _ hcloses' => hcloses'.unique hcloses⟩

theorem branchEvents_prune_events (root : Root) (withCategory : Bool)
    (skipped : NodeClass → Bool) :
    Visitor.recorded (root.visited Visitor.observer.visit withCategory) =
        (root.walked withCategory).events ∧
      Visitor.recorded (root.visited (Visitor.pruner skipped).visit withCategory) =
        (root.walked withCategory).branchEvents skipped ∧
      root.WalkedBy withCategory (root.walked withCategory).events ∧
      root.Enumerates root.addresses ∧
      (root.walked withCategory).marks =
        root.landmarks withCategory ++ root.nodes.tail.flatMap (·.landmarks true) ∧
      ∀ pruned, Event.Pruned skipped (root.walked withCategory).events pruned ↔
        pruned = (root.walked withCategory).branchEvents skipped :=
  ⟨(Visitor.observer_follows.visited root withCategory).recorded_eq,
    ((Visitor.pruner_follows skipped).visited root withCategory).recorded_eq,
    root.walkedBy_events withCategory, root.enumerates_addresses,
    root.marks_walked_nodes withCategory,
    (root.walked withCategory).pruned_events_iff skipped⟩

end Root

end PascalCheck
