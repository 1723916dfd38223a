import PascalCheck.Scope

/-!
Frames as lists of bindings. The index of a frame leads to a binding of the name that was asked for,
whatever the name is, and no frame binds a name twice.
-/

namespace PascalCheck

namespace Entry

def find? (entries : List Entry) (name : String) : Option Entry :=
  entries.find? (·.name == name)

theorem find?_cons (e : Entry) (entries : List Entry) (name : String) :
    find? (e :: entries) name = if e.name = name then some e else find? entries name := by
  unfold find?
  split
  next h => rw [List.find?_cons_of_pos (by simp [h])]
  next h => rw [List.find?_cons_of_neg (by simp [h])]

theorem find?_append (a b : List Entry) (name : String) :
    find? (a ++ b) name = (find? a name).or (find? b name) :=
  List.find?_append

theorem find?_filter {entries : List Entry} {name : String} {p : Entry → Bool}
    (h : ∀ e ∈ entries, e.name = name → p e = true) :
    find? (entries.filter p) name = find? entries name := by
  induction entries with
  | nil => rfl
  | cons e entries ih =>
    rw [List.forall_mem_cons] at h
    rw [List.filter_cons, find?_cons]
    by_cases hname : e.name = name
    . rw [if_pos (h.1 hname), find?_cons, if_pos hname, if_pos hname]
    . rw [if_neg hname]
      split
      . rw [find?_cons, if_neg hname, ih h.2]
      . exact ih h.2

theorem find?_eq_none_iff (entries : List Entry) (name : String) :
    find? entries name = none ↔ ∀ e ∈ entries, e.name ≠ name := by
  simp [find?]

def add (entries : List Entry) (e : Entry) : List Entry :=
  if (find? entries e.name).isSome then entries else entries ++ [e]

end Entry

namespace Frame

variable (frame : Frame)

/-- What a lookup reads by position; a position beyond the bindings would be a fault. -/
def read? (name : String) : Option (Option Entry) :=
  match frame.index.lookup name with
  | none => some none
  | some i => (frame.entries[i]?).map some

theorem lookup_index_eq_none_iff (name : String) :
    frame.index.lookup name = none ↔ Entry.find? frame.entries name = none := by
  rw [Entry.find?_eq_none_iff]
  constructor
  . rintro h e he rfl
    obtain ⟨i, hi⟩ := List.getElem?_of_mem he
    have hlookup := (frame.inStep e.name i).mpr (by rw [hi]; rfl)
    rw [h] at hlookup
    cases hlookup
  . intro h
    cases hlookup : frame.index.lookup name with
    | none => rfl
    | some i =>
      obtain ⟨e, he, hname⟩ := Option.map_eq_some_iff.mp ((frame.inStep name i).mp hlookup)
      exact absurd hname (h e (List.mem_of_getElem? he))

theorem find?_eq_getElem? {name : String} {i : Nat} (h : frame.index.lookup name = some i) :
    Entry.find? frame.entries name = frame.entries[i]? := by
  cases hfound : Entry.find? frame.entries name with
  | none =>
    rw [← lookup_index_eq_none_iff, h] at hfound
    cases hfound
  | some e =>
    obtain ⟨j, hj⟩ := List.getElem?_of_mem (List.mem_of_find?_eq_some hfound)
    have hname : e.name = name := by simpa using List.find?_some hfound
    have hlookup := (frame.inStep name j).mpr (by rw [hj, ← hname]; rfl)
    rw [h] at hlookup
    cases hlookup
    exact hj.symm

theorem get?_eq_find? (name : String) : frame.get? name = Entry.find? frame.entries name := by
  unfold get?
  split
  next h => exact ((frame.lookup_index_eq_none_iff name).mp h).symm
  next i h =>
    rw [frame.find?_eq_getElem? h, List.getElem?_eq_getElem (frame.lt_length h)]
    rfl

theorem read?_eq_get? (name : String) : frame.read? name = some (frame.get? name) := by
  rw [get?_eq_find?, read?]
  cases h : frame.index.lookup name with
  | none => rw [(frame.lookup_index_eq_none_iff name).mp h]
  | some i => simp [frame.find?_eq_getElem? h, List.getElem?_eq_getElem (frame.lt_length h)]

theorem nodup_names : (frame.entries.map (·.name)).Nodup := by
  rw [List.Nodup, List.pairwise_iff_getElem]
  intro i j hi hj hij hname
  have hat {k : Nat} (hk : k < (frame.entries.map (·.name)).length) :
      frame.index.lookup (frame.entries.map (·.name))[k] = some k := by
    rw [frame.inStep, ← List.getElem?_map, List.getElem?_eq_getElem hk]
  have hposition := hat hi
  rw [hname, hat hj] at hposition
  cases hposition
  exact Nat.lt_irrefl i hij

theorem lookup_index_of_get? {name : String} (h : frame.get? name = none) :
    frame.index.lookup name = none := by
  rw [lookup_index_eq_none_iff, ← get?_eq_find?]
  exact h

def add (e : Entry) : Frame :=
  (frame.insert? e).getD frame

def ofList (entries : List Entry) : Frame :=
  entries.foldl add empty

@[simp]
theorem entries_empty : empty.entries = [] := rfl

theorem eq_empty {frame : Frame} (h : frame.entries = []) : frame = empty := by
  refine Frame.ext h ?_
  cases hindex : frame.index with
  | nil => rfl
  | cons position index =>
    have hlookup : frame.index.lookup position.1 = some position.2 := by
      rw [hindex, List.lookup_cons, beq_self_eq_true]
    rw [frame.inStep, h] at hlookup
    cases hlookup

@[simp]
theorem entries_append (e : Entry) (h : frame.index.lookup e.name = none) :
    (frame.append e h).entries = frame.entries ++ [e] := rfl

theorem add_of_free {e : Entry} (h : frame.get? e.name = none) :
    frame.add e = frame.append e (frame.lookup_index_of_get? h) := by
  rw [add, insert?, dif_pos (frame.lookup_index_of_get? h)]
  rfl

theorem add_of_bound {e found : Entry} (h : frame.get? e.name = some found) :
    frame.add e = frame := by
  have hbound : frame.index.lookup e.name ≠ none := by
    rw [ne_eq, lookup_index_eq_none_iff, ← get?_eq_find?, h]
    simp
  rw [add, insert?, dif_neg hbound]
  rfl

theorem entries_add (e : Entry) : (frame.add e).entries = Entry.add frame.entries e := by
  rw [Entry.add, ← get?_eq_find?]
  cases h : frame.get? e.name with
  | none =>
    rw [frame.add_of_free h]
    rfl
  | some found =>
    rw [frame.add_of_bound h]
    rfl

end Frame

namespace Scope

variable [Naming] (s : Scope) (name : String) (type : Ty) (place : Option Span)

theorem getInner?_eq_find? :
    s.getInner? name = Entry.find? s.inner.entries (canonicalName name) :=
  s.inner.get?_eq_find? (canonicalName name)

variable {name}

theorem define?_of_bound {e : Entry} (h : s.getInner? name = some e) :
    s.define? name type place = none := by
  have hbound : s.inner.index.lookup (canonicalName name) ≠ none := by
    rw [ne_eq, Frame.lookup_index_eq_none_iff, ← getInner?_eq_find?, h]
    simp
  rw [define?, Frame.insert?, dif_neg hbound]
  rfl

theorem define?_getD :
    (s.define? name type place).getD s =
      ⟨s.inner.add ⟨canonicalName name, type, place⟩, s.outer⟩ := by
  unfold define? Frame.add
  cases s.inner.insert? ⟨canonicalName name, type, place⟩ <;> rfl

theorem define?_of_free (h : s.getInner? name = none) :
    s.define? name type place =
      some ⟨s.inner.append ⟨canonicalName name, type, place⟩ (s.inner.lookup_index_of_get? h),
        s.outer⟩ := by
  rw [define?, Frame.insert?, dif_pos (s.inner.lookup_index_of_get? h)]
  rfl

end Scope

end PascalCheck
