import PascalCheck.Proofs.Nodes.Basic

/-!
The nodes of a tree by their addresses. An address says which part to take at every node on the way
down from the root. In the order of the addresses a node comes before its parts, and a part with all
that is below it comes before the parts that follow.
-/

namespace PascalCheck

/-- The way down to a node: which part to take at the root, at that part, and so on. -/
abbrev Address := List Nat

namespace Outline

mutual

def addresses : Outline → List Address
  | .node _ parts => [] :: addressesFrom 0 parts

def addressesFrom (i : Nat) : List Outline → List Address
  | [] => []
  | o :: os => o.addresses.map (i :: ·) ++ addressesFrom (i + 1) os

end

theorem addressesFrom_eq_flatMap (i : Nat) (os : List Outline) :
    addressesFrom i os = (os.zipIdx i).flatMap fun o => o.1.addresses.map (o.2 :: ·) := by
  induction os generalizing i with
  | nil => rw [addressesFrom, List.zipIdx_nil, List.flatMap_nil]
  | cons o os ih => rw [addressesFrom, ih, List.zipIdx_cons, List.flatMap_cons]

theorem addresses_eq (o : Outline) :
    o.addresses = [] :: o.parts.zipIdx.flatMap fun part => part.1.addresses.map (part.2 :: ·) := by
  cases o with
  | node line parts => rw [addresses, addressesFrom_eq_flatMap, Outline.parts]

end Outline

namespace Root

def sub? (root : Root) : Address → Option Root
  | [] => some root
  | i :: address => root.parts[i]?.bind (·.sub? address)

structure Enumerates (root : Root) (addresses : List Address) : Prop where
  sorted : addresses.Pairwise (List.Lex (· < ·))
  all : ∀ address, address ∈ addresses ↔ (root.sub? address).isSome = true

def addresses (root : Root) : List Address :=
  (root.outline []).addresses

theorem addresses_eq (root : Root) :
    root.addresses =
      [] :: root.parts.zipIdx.flatMap fun part => part.1.addresses.map (part.2 :: ·) := by
  rw [addresses, Outline.addresses_eq, parts_outline, List.zipIdx_map, List.flatMap_map]
  rfl

theorem sub?_cons {root part : Root} {i : Nat} (h : root.parts[i]? = some part)
    (address : Address) : root.sub? (i :: address) = part.sub? address := by
  rw [sub?, h, Option.bind_some]

theorem mem_addresses (root : Root) (address : Address) :
    address ∈ root.addresses ↔ (root.sub? address).isSome = true := by
  induction address generalizing root with
  | nil =>
    rw [addresses_eq]
    exact iff_of_true List.mem_cons_self rfl
  | cons i address ih =>
    rw [addresses_eq]
    simp only [List.mem_cons, List.mem_flatMap, List.mem_map, reduceCtorEq, false_or]
    constructor
    . rintro ⟨⟨part, j⟩, hpart, rest, hrest, heq⟩
      cases heq
      rw [sub?_cons (List.mem_zipIdx_iff_getElem?.mp hpart)]
      exact (ih part).mp hrest
    . intro hsome
      cases hpart : root.parts[i]? with
      | none =>
        rw [sub?, hpart] at hsome
        cases hsome
      | some part =>
        rw [sub?_cons hpart] at hsome
        exact ⟨(part, i), List.mem_zipIdx_iff_getElem?.mpr hpart, address, (ih part).mpr hsome, rfl⟩

theorem pairwise_snd_zipIdx {α : Type} (xs : List α) (i : Nat) :
    (xs.zipIdx i).Pairwise fun x y => x.2 < y.2 := by
  induction xs generalizing i with
  | nil => exact .nil
  | cons x xs ih => exact .cons (fun y hy => List.le_snd_of_mem_zipIdx hy) (ih (i + 1))

theorem addresses_sorted (root : Root) : root.addresses.Pairwise (List.Lex (· < ·)) := by
  induction root using parts_induction with
  | h root ih =>
    rw [addresses_eq, List.pairwise_cons, List.pairwise_flatMap]
    refine ⟨?_, ?_, ?_⟩
    . simp only [List.mem_flatMap, List.mem_map]
      rintro _ ⟨part, -, address, -, rfl⟩
      exact .nil
    . intro part hpart
      rw [List.pairwise_map]
      exact (ih part.1 (List.fst_mem_of_mem_zipIdx hpart)).imp .cons
    . refine (pairwise_snd_zipIdx root.parts 0).imp ?_
      intro part later hlt
      simp only [List.forall_mem_map]
      exact fun _ _ _ _ => .rel hlt

theorem enumerates_addresses (root : Root) : root.Enumerates root.addresses :=
  ⟨root.addresses_sorted, root.mem_addresses⟩

end Root

end PascalCheck
