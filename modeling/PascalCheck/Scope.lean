import PascalCheck.Source
import PascalCheck.Text.Lowercase
import PascalCheck.Types.Basic

/-!
Scopes: what names are bound to, in regions nested within each other.

Names are compared in lower case. A region keeps the first binding of a name and its bindings in the
order in which they were made, because the parameter list of a routine is read off its region.
-/

namespace PascalCheck

class Naming where
  canonicalName : String → String

export Naming (canonicalName)

instance : Naming where
  canonicalName := Text.lowercase

structure Entry where
  name : String
  type : Ty
  place : Option Span

structure Attempt where
  name : String
  type : Ty
  place : Option Span

namespace Attempt

variable [Naming]

def key (a : Attempt) : String :=
  canonicalName a.name

def entry (a : Attempt) : Entry :=
  ⟨a.key, a.type, a.place⟩

end Attempt

/--
The bindings of one region, oldest first, with an index that tells at which position the binding of a
name stands.
-/
@[ext]
structure Frame where
  entries : List Entry
  index : List (String × Nat)
  inStep : ∀ name i, index.lookup name = some i ↔ (entries[i]?).map (·.name) = some name

namespace Frame

def empty : Frame where
  entries := []
  index := []
  inStep := by simp

theorem lt_length (frame : Frame) {name : String} {i : Nat}
    (h : frame.index.lookup name = some i) : i < frame.entries.length := by
  rw [frame.inStep, Option.map_eq_some_iff] at h
  obtain ⟨e, he, -⟩ := h
  exact (List.getElem?_eq_some_iff.mp he).1

def get? (frame : Frame) (name : String) : Option Entry :=
  match h : frame.index.lookup name with
  | none => none
  | some i => some (frame.entries.get ⟨i, frame.lt_length h⟩)

theorem inStep_append (frame : Frame) {e : Entry} (h : frame.index.lookup e.name = none)
    (name : String) (i : Nat) :
    ((e.name, frame.entries.length) :: frame.index).lookup name = some i ↔
      ((frame.entries ++ [e])[i]?).map (·.name) = some name := by
  rw [List.lookup_cons, List.getElem?_append]
  by_cases hi : i < frame.entries.length
  . rw [if_pos hi, ← frame.inStep]
    by_cases hname : name = e.name
    . rw [hname, h]
      simp [Nat.ne_of_gt hi]
    . rw [beq_false_of_ne hname]
  . have hold : frame.index.lookup name ≠ some i := fun hfound => hi (frame.lt_length hfound)
    rw [if_neg hi]
    by_cases hname : name = e.name
    . rw [hname]
      cases hlast : i - frame.entries.length with
      | zero => simp [Nat.le_antisymm (Nat.le_of_sub_eq_zero hlast) (Nat.le_of_not_lt hi)]
      | succ j =>
        simp only [beq_self_eq_true, Option.some.injEq]
        simp
        omega
    . rw [beq_false_of_ne hname]
      cases i - frame.entries.length with
      | zero => simpa [Ne.symm hname] using hold
      | succ j => simpa using hold

def append (frame : Frame) (e : Entry) (h : frame.index.lookup e.name = none) : Frame where
  entries := frame.entries ++ [e]
  index := (e.name, frame.entries.length) :: frame.index
  inStep := frame.inStep_append h

def insert? (frame : Frame) (e : Entry) : Option Frame :=
  if h : frame.index.lookup e.name = none then some (frame.append e h) else none

end Frame

/-- The open regions: the innermost one, and those around it, from the nearest outwards. -/
structure Scope where
  inner : Frame
  outer : List Frame

namespace Scope

variable [Naming]

def empty : Scope :=
  ⟨.empty, []⟩

def depth (s : Scope) : Nat :=
  s.outer.length + 1

def isOutermost (s : Scope) : Bool :=
  s.outer.isEmpty

def push (s : Scope) : Scope :=
  ⟨.empty, s.inner :: s.outer⟩

def pop? (s : Scope) : Option Scope :=
  match s.outer with
  | [] => none
  | frame :: outer => some ⟨frame, outer⟩

def getInner? (s : Scope) (name : String) : Option Entry :=
  s.inner.get? (canonicalName name)

def define? (s : Scope) (name : String) (type : Ty) (place : Option Span) : Option Scope :=
  (s.inner.insert? ⟨canonicalName name, type, place⟩).map fun inner => { s with inner }

def get? (s : Scope) (name : String) : Option Entry :=
  (s.inner :: s.outer).findSome? (·.get? (canonicalName name))

def lookup? (s : Scope) (name : String) : Option Ty :=
  (s.get? name).map (·.type)

end Scope

end PascalCheck
