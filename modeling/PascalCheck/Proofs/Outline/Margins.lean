import Mathlib.Data.List.Chain
import PascalCheck.Proofs.Nodes.Addresses
import PascalCheck.Proofs.Outline.Walk

/-!
What is drawn in front of the lines of an outline. There is a group of three characters for each node
on the way down from the root, and it tells whether another part follows that node. The addresses of
all nodes can be read off these margins.
-/

namespace PascalCheck

open Text (OneLine)

namespace Root

def isFollowed (root : Root) (address : Address) : Bool :=
  address.getLast?.any fun i => (root.sub? (address.dropLast ++ [i + 1])).isSome

def ways (root : Root) (address : Address) : List Bool :=
  (List.range address.length).map fun i => root.isFollowed (address.take (i + 1))

theorem isFollowed_singleton (root : Root) (i : Nat) :
    root.isFollowed [i] = decide (i + 1 < root.parts.length) := by
  have hsub : root.isFollowed [i] = root.parts[i + 1]?.isSome := by
    change (root.parts[i + 1]?.bind some).isSome = _
    rw [Option.bind_fun_some]
  rw [hsub, Bool.eq_iff_iff]
  simp

theorem isFollowed_cons {root part : Root} {i : Nat} (h : root.parts[i]? = some part)
    {address : Address} (hne : address ≠ []) :
    root.isFollowed (i :: address) = part.isFollowed address := by
  simp only [isFollowed, List.getLast?_cons, List.dropLast_cons_of_ne_nil hne, List.cons_append,
    sub?_cons h]
  rw [List.getLast?_eq_some_getLast hne]
  rfl

theorem ways_cons {root part : Root} {i : Nat} (h : root.parts[i]? = some part)
    (address : Address) :
    root.ways (i :: address) = decide (i + 1 < root.parts.length) :: part.ways address := by
  rw [ways, List.length_cons, List.range_succ_eq_map, List.map_cons, List.map_map]
  refine congrArg₂ _ (root.isFollowed_singleton i) (List.map_congr_left fun j hj => ?_)
  have hne : address.take (j + 1) ≠ [] := by
    rw [List.mem_range] at hj
    rw [← List.length_pos_iff, List.length_take]
    omega
  exact isFollowed_cons h hne

end Root

namespace Outline

theorem linesAll_eq_flatMap (above : List Bool) (os : List Outline) (i : Nat) :
    linesAll above os = (os.zipIdx i).flatMap fun o =>
      o.1.lines (above ++ [decide (o.2 + 1 < i + os.length)]) := by
  induction os generalizing i with
  | nil => rw [linesAll, List.zipIdx_nil, List.flatMap_nil]
  | cons o os ih =>
    have hfollowed : (!os.isEmpty) = decide (i + 1 < i + (o :: os).length) := by
      cases os <;> simp
    rw [linesAll, List.zipIdx_cons, List.flatMap_cons, ih (i + 1), hfollowed, List.length_cons,
      Nat.add_right_comm i 1, Nat.add_assoc i]

theorem lines_eq (o : Outline) (above : List Bool) :
    o.lines above = (above, o.line) :: o.parts.zipIdx.flatMap fun part =>
      part.1.lines (above ++ [decide (part.2 + 1 < o.parts.length)]) := by
  cases o with
  | node line parts =>
    rw [lines, linesAll_eq_flatMap above parts 0, Nat.zero_add]
    rfl

end Outline

namespace Outline

/--
The group for a node on the way down to a line, which may be the node that the line is about, and may
be followed by another part.
-/
def group (isLast isFollowed : Bool) : String :=
  match isLast, isFollowed with
  | false, true => "│  "
  | false, false => "   "
  | true, true => "├─╴"
  | true, false => "└─╴"

theorem margin_cons (followed : Bool) {above : List Bool} (hne : above ≠ []) :
    margin (followed :: above) = group false followed ++ margin above := by
  cases above with
  | nil => exact absurd rfl hne
  | cons next above => cases followed <;> cases next <;> rfl

theorem margin_eq_join (f : Nat → Bool) (n : Nat) :
    margin ((List.range n).map f) =
      String.join ((List.range n).map fun i => group (i + 1 == n) (f i)) := by
  induction n generalizing f with
  | zero => rfl
  | succ n ih =>
    rw [List.range_succ_eq_map, List.map_cons, List.map_cons, List.map_map, List.map_map,
      String.join_cons]
    cases n with
    | zero => cases hf : f 0 <;> simp [margin, group]
    | succ n =>
      rw [margin_cons, ih]
      . simp [Function.comp_def]
      . simp

theorem length_margin (above : List Bool) : (margin above).toList.length = 3 * above.length := by
  fun_induction margin above with
  | case1 => rfl
  | case2 => rfl
  | case3 => rfl
  | case4 above _ ih | case5 above _ ih =>
    rw [String.toList_append, List.length_append, ih, List.length_cons, Nat.mul_succ, Nat.add_comm]
    rfl

def marginOf (line : List Char) : List Char :=
  line.takeWhile fun c => !c.isAlpha

theorem marginOf_line (above : List Bool) (withIds : Bool) (line : Line) :
    marginOf (margin above ++ line.text withIds).toList = (margin above).toList := by
  have hmargin : ∀ c ∈ (margin above).toList, (!c.isAlpha) = true := by
    intro c hc
    rw [(margin_not_isAlpha above c hc).1]
    rfl
  obtain ⟨hne, hlabel⟩ := line.mark.nodeClass.label_isWord
  obtain ⟨first, others, hfirst⟩ := List.exists_cons_of_ne_nil hne
  rw [marginOf, String.toList_append, List.takeWhile_append_of_pos hmargin, line.toList_text, hfirst,
    List.cons_append, List.takeWhile_cons_of_neg, List.append_nil]
  rw [hlabel first (hfirst ▸ List.mem_cons_self)]
  decide

end Outline

def Root.margin (root : Root) (address : Address) : String :=
  String.join ((List.range address.length).map fun i =>
    Outline.group (i + 1 == address.length) (root.isFollowed (address.take (i + 1))))

theorem Root.margin_ways (root : Root) (address : Address) :
    Outline.margin (root.ways address) = root.margin address := by
  apply Outline.margin_eq_join

theorem forall₂_flatMap {α β γ : Type} {R : β → γ → Prop} {xs : List α} {f : α → List β}
    {g : α → List γ} (h : ∀ x ∈ xs, List.Forall₂ R (f x) (g x)) :
    List.Forall₂ R (xs.flatMap f) (xs.flatMap g) := by
  induction xs with
  | nil => exact .nil
  | cons x xs ih =>
    rw [List.forall_mem_cons] at h
    rw [List.flatMap_cons, List.flatMap_cons]
    exact List.rel_append h.1 (ih h.2)

def Root.Places (root : Root) (above : List Bool) (line : List Bool × Line) (address : Address) :
    Prop :=
  line.1 = above ++ root.ways address ∧
    ∃ node, root.sub? address = some node ∧ line.2.mark = node.mark

theorem Root.lines_outline (records : Records) (root : Root) (above : List Bool) :
    List.Forall₂ (root.Places above) ((root.outline records).lines above) root.addresses := by
  induction root using parts_induction generalizing above with
  | h root ih =>
    rw [Outline.lines_eq, parts_outline, addresses_eq, List.zipIdx_map, List.flatMap_map]
    refine .cons ⟨?_, root, rfl, root.mark_outline records⟩ (forall₂_flatMap fun part hpart => ?_)
    . exact (List.append_nil above).symm
    rw [List.forall₂_map_right_iff]
    refine (ih part.1 (List.fst_mem_of_mem_zipIdx hpart) _).imp ?_
    rintro line address ⟨hway, node, hnode, hmark⟩
    have hpart := List.mem_zipIdx_iff_getElem?.mp hpart
    refine ⟨?_, node, ?_, hmark⟩
    . rw [hway, List.append_assoc, ways_cons hpart, List.length_map]
      rfl
    . rw [sub?_cons hpart, hnode]

namespace Address

def next : Address → Nat → Address
  | [], _ => [0]
  | i :: _, 0 => [i + 1]
  | i :: last, kept + 1 => i :: next last kept

def readAfter (last : Address) : List (List Char) → List Address
  | [] => []
  | margin :: margins =>
    let address := next last (margin.length / 3 - 1)
    address :: readAfter address margins

def readAll : List (List Char) → List Address
  | [] => []
  | _ :: margins => [] :: readAfter [] margins

/-- An address other than that of the root is known from the one before it and from its length. -/
def Follows (last address : Address) : Prop :=
  address ≠ [] ∧ address = next last (address.length - 1)

theorem Follows.cons {last address : Address} (h : Follows last address) (i : Nat) :
    Follows (i :: last) (i :: address) := by
  obtain ⟨hne, haddress⟩ := h
  refine ⟨List.cons_ne_nil i address, ?_⟩
  have hlength : (i :: address).length - 1 = address.length - 1 + 1 := by
    have hpos := List.length_pos_iff.mpr hne
    rw [List.length_cons]
    omega
  rw [hlength, next, ← haddress]

theorem readAfter_of_isChain {last : Address} {addresses : List Address}
    {margins : List (List Char)} (h : (last :: addresses).IsChain Follows)
    (hmargins : List.Forall₂ (fun margin address => margin.length = 3 * address.length) margins
      addresses) : readAfter last margins = addresses := by
  induction hmargins generalizing last with
  | nil => rfl
  | cons hmargin _ ih =>
    rw [List.isChain_cons_cons] at h
    obtain ⟨⟨-, haddress⟩, hrest⟩ := h
    rw [readAfter, hmargin, Nat.mul_div_cancel_left _ (by omega), ← haddress, ih hrest]

end Address

namespace Root

theorem isChain_addresses_parts {parts : List Root}
    (h : ∀ part ∈ parts, part.addresses.IsChain Address.Follows) (i : Nat) :
    ((parts.zipIdx i).flatMap fun part => part.1.addresses.map (part.2 :: ·)).IsChain
        Address.Follows ∧
      ∀ address ∈ ((parts.zipIdx i).flatMap fun part => part.1.addresses.map (part.2 :: ·)).head?,
        address = [i] := by
  induction parts generalizing i with
  | nil => exact ⟨.nil, by simp⟩
  | cons part parts ih =>
    rw [List.forall_mem_cons] at h
    obtain ⟨hchain, hfirst⟩ := ih h.2 (i + 1)
    rw [List.zipIdx_cons, List.flatMap_cons]
    constructor
    . rw [List.isChain_append, List.isChain_map]
      refine ⟨h.1.imp fun _ _ hfollows => hfollows.cons i, hchain, ?_⟩
      intro last hlast address haddress
      rw [List.getLast?_map, Option.mem_def, Option.map_eq_some_iff] at hlast
      obtain ⟨rest, -, rfl⟩ := hlast
      rw [hfirst address haddress]
      exact ⟨List.cons_ne_nil _ _, rfl⟩
    . rw [addresses_eq]
      simp

theorem isChain_addresses (root : Root) : root.addresses.IsChain Address.Follows := by
  induction root using parts_induction with
  | h root ih =>
    obtain ⟨hchain, hfirst⟩ := isChain_addresses_parts ih 0
    rw [addresses_eq, List.isChain_cons]
    refine ⟨?_, hchain⟩
    intro address haddress
    rw [hfirst address haddress]
    exact ⟨List.cons_ne_nil _ _, rfl⟩

theorem readAll_margins {root : Root} {margins : List (List Char)}
    (h : List.Forall₂ (fun margin address => margin.length = 3 * address.length) margins
      root.addresses) : Address.readAll margins = root.addresses := by
  have hchain := root.isChain_addresses
  rw [addresses_eq] at h hchain ⊢
  cases h with
  | cons _ hmargins => rw [Address.readAll, Address.readAfter_of_isChain hchain hmargins]

def Draws (root : Root) (withIds : Bool) (line : List Char) (address : Address) : Prop :=
  ∃ node payload, root.sub? address = some node ∧
    line = (root.margin address).toList ++ (Line.text withIds ⟨node.mark, payload⟩).toList ∧
    Outline.marginOf line = (root.margin address).toList

theorem Places.draws {root : Root} {line : List Bool × Line} {address : Address}
    (h : root.Places [] line address) (withIds : Bool) :
    root.Draws withIds (Outline.margin line.1 ++ line.2.text withIds).toList address := by
  obtain ⟨hway, node, hnode, hmark⟩ := h
  have hmargin : Outline.margin line.1 = root.margin address := by
    rw [hway, List.nil_append, margin_ways]
  refine ⟨node, line.2.payload, hnode, ?_, ?_⟩
  . rw [String.toList_append, hmargin, ← hmark]
  . rw [Outline.marginOf_line, hmargin]

theorem length_margin (root : Root) (address : Address) :
    (root.margin address).toList.length = 3 * address.length := by
  rw [← margin_ways, Outline.length_margin, ways, List.length_map, List.length_range]

theorem draw_shows_tree (records : Records) (withIds withCategory : Bool) {root : Root}
    (hlexemes : ∀ lexeme ∈ root.lexemes, OneLine lexeme) :
    ∃ text lines, root.outlinedBy ⟨records.view, withIds⟩ withCategory = .ok text ∧
      text.toList.splitOn '\n' = lines ++ [[]] ∧
      root.Enumerates root.addresses ∧
      List.Forall₂ (root.Draws withIds) lines root.addresses ∧
      Address.readAll (lines.map Outline.marginOf) = root.addresses := by
  have hdraws : (root.outline records).Draws root.shape := outline_draws hlexemes
  have honeLine := ((List.forall₂_and_left _ _).mp (hdraws.lines [])).1
  have hlines : List.Forall₂ (root.Draws withIds)
      (((root.outline records).lines []).map fun line =>
        (Outline.margin line.1 ++ line.2.text withIds).toList) root.addresses := by
    rw [List.forall₂_map_left_iff]
    exact (root.lines_outline records []).imp fun _ _ hplaces => hplaces.draws withIds
  refine ⟨_, _, root.outlinedBy_eq records withIds withCategory,
    Outline.splitOn_draw withIds honeLine, root.enumerates_addresses, hlines, ?_⟩
  apply readAll_margins
  rw [List.forall₂_map_left_iff]
  refine hlines.imp ?_
  rintro line address ⟨node, payload, -, -, hmargin⟩
  rw [hmargin, length_margin]

end Root

namespace Sample

def compared : Expr :=
  -- `not 7 = x`
  .binary ⟨6, .point 3 5⟩ ⟨⟨7, .point 3 11⟩, .equal⟩ negated
    (.var ⟨8, .point 3 13⟩ ⟨⟨9, .point 3 13⟩, "x"⟩)

theorem compared_drawn :
    ∃ text lines, (Root.expr compared).outlined [] false = .ok text ∧
      text.toList.splitOn '\n' = lines ++ [[]] ∧
      lines.map Outline.marginOf =
        ["", "├─╴", "│  └─╴", "│     └─╴", "└─╴"].map String.toList ∧
      Address.readAll (lines.map Outline.marginOf) = [[], [0], [0, 0], [0, 0, 0], [1]] := by
  have hlexemes : ∀ lexeme ∈ (Root.expr compared).lexemes, OneLine lexeme := by decide
  obtain ⟨text, lines, htext, hsplit, -, hlines, hread⟩ :=
    Root.draw_shows_tree [] false true hlexemes
  refine ⟨text, lines, htext, hsplit, ?_, hread⟩
  have hmargins : List.Forall₂ (· = ·) (lines.map Outline.marginOf)
      ((Root.expr compared).addresses.map fun address =>
        ((Root.expr compared).margin address).toList) := by
    rw [List.forall₂_map_left_iff, List.forall₂_map_right_iff]
    refine hlines.imp ?_
    rintro line address ⟨node, payload, -, -, hmargin⟩
    exact hmargin
  rw [List.forall₂_eq_eq_eq] at hmargins
  rw [hmargins]
  rfl

end Sample

end PascalCheck
