import Mathlib.Data.List.Induction
import Mathlib.Data.List.Infix
import PascalCheck.Proofs.Regions.Basic

/-!
A scope and its history. What a scope holds is told by what has been done to it: its innermost region
holds what was bound there since that region was opened, the regions around it likewise, and nothing
is left of a region that was closed.
-/

namespace PascalCheck.Scope

inductive Op where
  | push
  | pop
  | define (attempt : Attempt)

def rise : List Op → Int
  | [] => 0
  | .push :: ops => rise ops + 1
  | .pop :: ops => rise ops - 1
  | .define _ :: ops => rise ops

/-- No region is closed that was not opened by the same operations. -/
def Keeps (ops : List Op) : Prop :=
  ∀ p ∈ ops.inits, 0 ≤ rise p

/-- After these operations the region in which they started is still open, and `k` more are. -/
def Opens (k : Nat) (ops : List Op) : Prop :=
  Keeps ops ∧ rise ops = k

instance (k : Nat) (ops : List Op) : Decidable (Opens k ops) :=
  inferInstanceAs (Decidable ((∀ p ∈ ops.inits, 0 ≤ rise p) ∧ rise ops = k))

abbrev History := List (Op × Bool)

def History.ops (h : History) : List Op :=
  h.map (·.1)

/--
The attempts to bind a name that succeeded in the region that lies `k` regions around the innermost
one, in order: since then that region has not been closed, and `k` more have been opened.
-/
def History.bound (k : Nat) : History → List Attempt
  | (.define a, true) :: later =>
    if Opens k (ops later) then a :: bound k later else bound k later
  | _ :: later => bound k later
  | [] => []

def perform? (s : Scope) : Op → Option (Bool × Scope)
  | .push => some (true, s.push)
  | .pop => s.pop?.map fun s => (true, s)
  | .define a =>
    match s.define? a.name a.type a.place with
    | some s => some (true, s)
    | none => some (false, s)

inductive Leads (s : Scope) : History → Scope → Prop where
  | start : Leads s [] s
  | step {h : History} {s' s'' : Scope} {op : Op} {answer : Bool} :
      Leads s h s' → s'.perform? op = some (answer, s'') → Leads s (h ++ [(op, answer)]) s''

theorem rise_concat (ops : List Op) (op : Op) : rise (ops ++ [op]) = rise ops + rise [op] := by
  induction ops with
  | nil => rw [List.nil_append, rise, Int.zero_add]
  | cons first ops ih =>
    cases first with
    | push => rw [List.cons_append, rise, ih, rise, Int.add_right_comm]
    | pop => rw [List.cons_append, rise, ih, rise, Int.sub_eq_add_neg, Int.sub_eq_add_neg,
        Int.add_right_comm]
    | define a => rw [List.cons_append, rise, ih, rise]

theorem keeps_concat (ops : List Op) (op : Op) :
    Keeps (ops ++ [op]) ↔ Keeps ops ∧ 0 ≤ rise ops + rise [op] := by
  simp only [Keeps, List.mem_inits, List.prefix_concat_iff, ← rise_concat]
  constructor
  . intro h
    exact ⟨fun p hp => h p (.inr hp), h _ (.inl rfl)⟩
  . rintro ⟨h, hlast⟩ p (rfl | hp)
    . exact hlast
    . exact h p hp

theorem Keeps.rise_nonneg {ops : List Op} (h : Keeps ops) : 0 ≤ rise ops :=
  h ops ((List.mem_inits _ _).mpr (List.prefix_refl ops))

theorem Opens.keeps_region {ops : List Op} (h : Opens 0 ops) :
    Keeps (.push :: ops ++ [.pop]) := by
  rw [keeps_concat]
  constructor
  . intro p hp
    rw [List.mem_inits, List.prefix_cons_iff] at hp
    obtain rfl | ⟨q, rfl, hq⟩ := hp
    . exact Int.le_refl 0
    . have hrise := h.1 q ((List.mem_inits _ _).mpr hq)
      rw [rise]
      omega
  . have hrise := h.2
    simp only [rise]
    omega

theorem opens_concat (k : Nat) (ops : List Op) (op : Op) :
    Opens k (ops ++ [op]) ↔ Keeps ops ∧ rise ops + rise [op] = k := by
  rw [Opens, keeps_concat, rise_concat, and_assoc]
  apply and_congr_right
  intro _
  omega

namespace History

theorem ops_concat (h : History) (op : Op) (answer : Bool) :
    ops (h ++ [(op, answer)]) = h.ops ++ [op] :=
  List.map_append

theorem bound_concat {k j : Nat} {op : Op} (hop : ∀ ops, Opens k (ops ++ [op]) ↔ Opens j ops)
    (h : History) (answer : Bool) :
    bound k (h ++ [(op, answer)]) = bound j h ++ bound k [(op, answer)] := by
  induction h with
  | nil => rfl
  | cons event h ih =>
    obtain ⟨first, done⟩ := event
    rw [List.cons_append]
    cases first with
    | define a =>
      cases done with
      | true =>
        simp only [bound, ops_concat, hop, ih]
        split <;> rfl
      | false => exact ih
    | push => exact ih
    | pop => exact ih

theorem bound_concat_of_not_opens {k : Nat} {op : Op} (hop : ∀ ops, ¬ Opens k (ops ++ [op]))
    (h : History) (answer : Bool) : bound k (h ++ [(op, answer)]) = bound k [(op, answer)] := by
  induction h with
  | nil => rfl
  | cons event h ih =>
    obtain ⟨first, done⟩ := event
    rw [List.cons_append]
    cases first with
    | define a =>
      cases done with
      | true => rw [bound, ops_concat, if_neg (hop _), ih]
      | false => exact ih
    | push => exact ih
    | pop => exact ih

variable (h : History) (answer : Bool)

theorem bound_zero_push : bound 0 (h ++ [(.push, answer)]) = [] := by
  apply bound_concat_of_not_opens
  intro ops
  rw [opens_concat]
  rintro ⟨hkeeps, hrise⟩
  have hnonneg := hkeeps.rise_nonneg
  simp only [rise] at hrise
  omega

theorem bound_succ_push (k : Nat) : bound (k + 1) (h ++ [(.push, answer)]) = bound k h := by
  have hop (ops : List Op) : Opens (k + 1) (ops ++ [.push]) ↔ Opens k ops := by
    rw [opens_concat, Opens, rise, rise]
    apply and_congr_right
    omega
  exact (bound_concat hop h answer).trans (List.append_nil _)

theorem bound_pop (k : Nat) : bound k (h ++ [(.pop, answer)]) = bound (k + 1) h := by
  have hop (ops : List Op) : Opens k (ops ++ [.pop]) ↔ Opens (k + 1) ops := by
    rw [opens_concat, Opens, rise, rise]
    apply and_congr_right
    omega
  exact (bound_concat hop h answer).trans (List.append_nil _)

theorem bound_define (k : Nat) (a : Attempt) :
    bound k (h ++ [(.define a, answer)]) =
      bound k h ++ if answer = true ∧ k = 0 then [a] else [] := by
  have hop (ops : List Op) : Opens k (ops ++ [.define a]) ↔ Opens k ops := by
    rw [opens_concat, Opens, rise, rise, Int.add_zero]
  rw [bound_concat hop]
  congr 1
  cases answer with
  | true => simp [bound, ops, Opens, Keeps, rise, eq_comm]
  | false => rfl

end History

theorem perform?_define (s : Scope) (a : Attempt) :
    s.perform? (.define a) =
      some ((s.inner.get? a.key).isNone, ⟨s.inner.attempt a, s.outer⟩) := by
  rw [perform?, Frame.attempt]
  cases hget : s.inner.get? a.key with
  | none =>
    rw [define?_of_free s a.type a.place hget, s.inner.add_of_free hget]
    rfl
  | some e =>
    rw [define?_of_bound s a.type a.place hget, s.inner.add_of_bound hget]
    rfl

theorem perform?_pop {s s' : Scope} {answer : Bool} (h : s.perform? .pop = some (answer, s')) :
    s.outer = s'.frames := by
  unfold perform? pop? at h
  cases houter : s.outer with
  | nil =>
    rw [houter] at h
    cases h
  | cons frame outer =>
    rw [houter] at h
    cases h
    rfl

theorem depth_perform? {s s' : Scope} {op : Op} {answer : Bool}
    (h : s.perform? op = some (answer, s')) : (s'.depth : Int) = s.depth + rise [op] := by
  cases op with
  | push =>
    cases h
    rfl
  | pop =>
    rw [depth, depth, perform?_pop h, frames, List.length_cons, rise, rise]
    omega
  | define a =>
    rw [perform?_define] at h
    cases h
    rfl

def region (s : Scope) (k : Nat) : List Entry :=
  (s.frames[k]?).elim [] Frame.entries

def Reflects (s : Scope) (h : History) : Prop :=
  ∀ k, s.region k = (h.bound k).map Attempt.entry

theorem reflects_empty : empty.Reflects [] := by
  intro k
  cases k <;> rfl

namespace Reflects

variable {s : Scope} {h : History}

theorem inner (hs : s.Reflects h) : s.inner.entries = (h.bound 0).map Attempt.entry :=
  hs 0

theorem distinct (hs : s.Reflects h) (k : Nat) : ((h.bound k).map Attempt.key).Nodup := by
  -- A frame binds no name twice, so in no region that is open was a name bound twice.
  have hnames : ((s.region k).map (·.name)).Nodup := by
    unfold region
    cases s.frames[k]? with
    | none => exact List.nodup_nil
    | some frame => exact frame.nodup_names
  rw [hs k, List.map_map] at hnames
  exact hnames

theorem push (hs : s.Reflects h) (answer : Bool) : s.push.Reflects (h ++ [(.push, answer)]) := by
  intro k
  cases k with
  | zero =>
    rw [History.bound_zero_push]
    rfl
  | succ k =>
    rw [History.bound_succ_push, ← hs]
    rfl

theorem pop (hs : s.Reflects h) {s' : Scope} (hpop : s.outer = s'.frames) (answer : Bool) :
    s'.Reflects (h ++ [(.pop, answer)]) := by
  intro k
  have hframe : s.frames[k + 1]? = s'.frames[k]? := by
    rw [← hpop]
    rfl
  rw [History.bound_pop, ← hs, region, region, hframe]

theorem define (hs : s.Reflects h) (a : Attempt) :
    Reflects ⟨s.inner.attempt a, s.outer⟩
      (h ++ [(.define a, (s.inner.get? a.key).isNone)]) := by
  intro k
  rw [History.bound_define, List.map_append, ← hs]
  cases k with
  | zero =>
    have hkey : a.entry.name = a.key := rfl
    simp only [region, Scope.frames, List.getElem?_cons_zero, Option.elim_some, Frame.attempt,
      Frame.entries_add, Entry.add, hkey, Frame.get?_eq_find?]
    cases Entry.find? s.inner.entries a.key <;> simp
  | succ k => simp [region, Scope.frames]

theorem step (hs : s.Reflects h) {op : Op} {answer : Bool} {s' : Scope}
    (hstep : s.perform? op = some (answer, s')) : s'.Reflects (h ++ [(op, answer)]) := by
  cases op with
  | push =>
    cases hstep
    exact hs.push true
  | pop => exact hs.pop (perform?_pop hstep) answer
  | define a =>
    rw [perform?_define] at hstep
    cases hstep
    exact hs.define a

end Reflects

namespace Leads

variable {s s' : Scope} {h : History}

theorem reflects (hleads : empty.Leads h s) : s.Reflects h := by
  induction hleads with
  | start => exact reflects_empty
  | step _ hstep ih => exact ih.step hstep

theorem depth (hleads : s.Leads h s') : (s'.depth : Int) = s.depth + rise h.ops := by
  induction hleads with
  | start => rw [History.ops, List.map_nil, rise, Int.add_zero]
  | step _ hstep ih =>
    rw [depth_perform? hstep, ih, History.ops_concat, rise_concat, Int.add_assoc]

theorem keeps (hleads : empty.Leads h s) : Keeps h.ops := by
  induction hleads with
  | start => simp [Keeps, History.ops, rise]
  | step hleads hstep ih =>
    have hdepth := (hleads.step hstep).depth
    rw [History.ops_concat, rise_concat] at hdepth
    rw [History.ops_concat, keeps_concat]
    refine ⟨ih, ?_⟩
    simp only [Scope.depth, empty, List.length_nil] at hdepth
    omega

theorem drop_frames (hleads : s.Leads h s') {k : Nat} (hopens : Opens k h.ops) :
    s'.frames.drop (k + 1) = s.outer := by
  induction hleads generalizing k with
  | start =>
    have hk : (0 : Int) = k := hopens.2
    rw [show k = 0 by omega]
    rfl
  | @step h t t' op answer _ hstep ih =>
    rw [History.ops_concat, opens_concat] at hopens
    obtain ⟨hkeeps, hrise⟩ := hopens
    obtain ⟨j, hj⟩ := Int.eq_ofNat_of_zero_le hkeeps.rise_nonneg
    rw [← ih ⟨hkeeps, hj⟩]
    rw [hj] at hrise
    cases op with
    | push =>
      cases hstep
      simp only [rise] at hrise
      rw [show k = j + 1 by omega]
      rfl
    | pop =>
      simp only [rise] at hrise
      rw [show j = k + 1 by omega, frames, frames, perform?_pop hstep]
      rfl
    | define a =>
      rw [perform?_define] at hstep
      cases hstep
      simp only [rise] at hrise
      rw [show j = k by omega]
      rfl

end Leads

theorem exists_leads (s : Scope) {ops : List Op} (hkeeps : Keeps ops) :
    ∃ h s', History.ops h = ops ∧ s.Leads h s' := by
  induction ops using List.reverseRecOn with
  | nil => exact ⟨[], s, rfl, .start⟩
  | append_singleton ops op ih =>
    rw [keeps_concat] at hkeeps
    obtain ⟨h, s', rfl, hleads⟩ := ih hkeeps.1
    have hstep : ∃ answer s'', s'.perform? op = some (answer, s'') := by
      cases op with
      | push => exact ⟨_, _, rfl⟩
      | pop =>
        have hdepth := hleads.depth
        have hrise := hkeeps.2
        simp only [rise] at hrise
        cases houter : s'.outer with
        | nil =>
          simp only [depth, houter, List.length_nil] at hdepth
          omega
        | cons frame outer => exact ⟨true, ⟨frame, outer⟩, by simp [perform?, pop?, houter]⟩
      | define a => exact ⟨_, _, perform?_define s' a⟩
    obtain ⟨answer, s'', hstep⟩ := hstep
    exact ⟨_, s'', History.ops_concat h op answer, hleads.step hstep⟩

theorem Leads.eq_of_nil {s s' : Scope} (hleads : s.Leads [] s') : s' = s := by
  generalize hevents : ([] : History) = events at hleads
  cases hleads with
  | start => rfl
  | step _ _ => simp at hevents

theorem Leads.head {s s' : Scope} {op : Op} {answer : Bool} {h : History}
    (hleads : s.Leads ((op, answer) :: h) s') :
    ∃ t, s.perform? op = some (answer, t) ∧ t.Leads h s' := by
  generalize hevents : (op, answer) :: h = events at hleads
  induction hleads generalizing h with
  | start => cases hevents
  | @step before t t' last done hleads hstep ih =>
    cases before with
    | nil =>
      cases hevents
      rw [hleads.eq_of_nil] at hstep
      exact ⟨t', hstep, .start⟩
    | cons event before =>
      cases hevents
      obtain ⟨first, hfirst, hrest⟩ := ih rfl
      exact ⟨first, hfirst, hrest.step hstep⟩

theorem Leads.last {s s' : Scope} {op : Op} {h : History} {ops : List Op} (hleads : s.Leads h s')
    (hops : h.ops = ops ++ [op]) :
    ∃ before t answer, History.ops before = ops ∧ s.Leads before t ∧
      t.perform? op = some (answer, s') := by
  cases hleads with
  | start => simp [History.ops] at hops
  | step hleads hstep =>
    rw [History.ops_concat] at hops
    obtain ⟨rfl, hop⟩ := List.append_inj' hops rfl
    cases hop
    exact ⟨_, _, _, rfl, hleads, hstep⟩

theorem Leads.restores {s s' : Scope} {h : History} {ops : List Op} (hleads : s.Leads h s')
    (hops : h.ops = .push :: ops ++ [.pop]) (hopens : Opens 0 ops) : s' = s := by
  obtain ⟨before, t, answer, hbefore, hleads, hpop⟩ := hleads.last hops
  cases before with
  | nil => cases hbefore
  | cons event inside =>
    obtain ⟨hfirst, hinside⟩ := List.cons.inj hbefore
    obtain ⟨op, done⟩ := event
    cases (show op = .push from hfirst)
    obtain ⟨opened, hpush, hleads⟩ := hleads.head
    cases hpush
    rw [← show History.ops inside = ops from hinside] at hopens
    have houter := hleads.drop_frames hopens
    have hframes : s'.frames = s.frames := (perform?_pop hpop).symm.trans houter
    cases s
    cases s'
    cases hframes
    rfl

theorem findSome?_frames (frames : List Frame) (key : String) (e : Entry) :
    frames.findSome? (·.get? key) = some e ↔
      ∃ k : Nat, Entry.find? ((frames[k]?).elim [] Frame.entries) key = some e ∧
        ∀ j < k, Entry.find? ((frames[j]?).elim [] Frame.entries) key = none := by
  induction frames with
  | nil => simp [Entry.find?]
  | cons frame frames ih =>
    rw [List.findSome?_cons, Frame.get?_eq_find?]
    cases hget : Entry.find? frame.entries key with
    | some found =>
      constructor
      . intro h
        exact ⟨0, hget.trans h, fun j hj => absurd hj (Nat.not_lt_zero j)⟩
      . rintro ⟨k, hk, hbefore⟩
        cases k with
        | zero => exact hget.symm.trans hk
        | succ k => cases hget.symm.trans (hbefore 0 (Nat.zero_lt_succ k))
    | none =>
      refine ih.trans ⟨?_, ?_⟩
      . rintro ⟨k, hk, hbefore⟩
        refine ⟨k + 1, hk, ?_⟩
        intro j hj
        cases j with
        | zero => exact hget
        | succ j => exact hbefore j (Nat.lt_of_succ_lt_succ hj)
      . rintro ⟨k, hk, hbefore⟩
        cases k with
        | zero => cases hget.symm.trans hk
        | succ k => exact ⟨k, hk, fun j hj => hbefore (j + 1) (Nat.succ_lt_succ hj)⟩

theorem findSome?_frames_eq_none_iff (frames : List Frame) (key : String) :
    frames.findSome? (·.get? key) = none ↔
      ∀ k : Nat, Entry.find? ((frames[k]?).elim [] Frame.entries) key = none := by
  rw [List.findSome?_eq_none_iff]
  simp only [Frame.get?_eq_find?]
  constructor
  . intro h k
    cases hframe : frames[k]? with
    | none => rfl
    | some frame => exact h frame (List.mem_of_getElem? hframe)
  . intro h frame hmem
    obtain ⟨k, hk⟩ := List.getElem?_of_mem hmem
    have hget := h k
    rw [hk] at hget
    exact hget

theorem find?_entries_eq_none_iff (as : List Attempt) (key : String) :
    Entry.find? (as.map Attempt.entry) key = none ↔ ∀ a ∈ as, a.key ≠ key := by
  rw [Entry.find?_eq_none_iff, List.forall_mem_map]
  rfl

theorem find?_entries_eq_some_iff {as : List Attempt} (hdistinct : (as.map Attempt.key).Nodup)
    (key : String) (e : Entry) :
    Entry.find? (as.map Attempt.entry) key = some e ↔ ∃ a ∈ as, a.key = key ∧ a.entry = e := by
  induction as with
  | nil => simp [Entry.find?]
  | cons a as ih =>
    obtain ⟨hfresh, hdistinct⟩ := List.nodup_cons.mp hdistinct
    rw [List.map_cons, Entry.find?_cons, List.exists_mem_cons_iff]
    split
    next hkey =>
      replace hkey : a.key = key := hkey
      constructor
      . intro h
        exact .inl ⟨hkey, Option.some.inj h⟩
      . rintro (⟨-, rfl⟩ | ⟨b, hb, hbkey, -⟩)
        . rfl
        . exact absurd (List.mem_map.mpr ⟨b, hb, hbkey.trans hkey.symm⟩) hfresh
    next hkey =>
      rw [ih hdistinct]
      exact ⟨.inr, Or.rec (fun h => absurd h.1 hkey) id⟩

namespace Reflects

variable {s : Scope} {h : History}

theorem get?_eq_some_iff (hs : s.Reflects h) (name : String) (e : Entry) :
    s.get? name = some e ↔
      ∃ k, (∃ a ∈ h.bound k, a.key = canonicalName name ∧ a.entry = e) ∧
        ∀ j < k, ∀ b ∈ h.bound j, b.key ≠ canonicalName name := by
  have hframes := findSome?_frames s.frames (canonicalName name) e
  have hregion (k : Nat) : (s.frames[k]?).elim [] Frame.entries = (h.bound k).map Attempt.entry :=
    hs k
  simp only [hregion, find?_entries_eq_none_iff, find?_entries_eq_some_iff (hs.distinct _)]
    at hframes
  exact hframes

theorem get?_eq_none_iff (hs : s.Reflects h) (name : String) :
    s.get? name = none ↔ ∀ k, ∀ a ∈ h.bound k, a.key ≠ canonicalName name := by
  have hframes := findSome?_frames_eq_none_iff s.frames (canonicalName name)
  have hregion (k : Nat) : (s.frames[k]?).elim [] Frame.entries = (h.bound k).map Attempt.entry :=
    hs k
  simp only [hregion, find?_entries_eq_none_iff] at hframes
  exact hframes

end Reflects

structure Tells (bound : List Attempt) (frame : Frame) : Prop where
  entries : frame.entries = bound.map Attempt.entry
  index : ∀ key i, frame.index.lookup key = some i ↔ (bound[i]?).map Attempt.key = some key
  read : ∀ key, frame.read? key = some ((bound.find? (·.key == key)).map Attempt.entry)

/--
What can be asked of a scope, told by its history: whether a name can be bound, what it is bound to,
in all regions and in the innermost one, and what the regions hold.
-/
structure Follows (s : Scope) (h : History) : Prop where
  depth : (s.depth : Int) = rise h.ops + 1
  frames : ∀ k frame, s.frames[k]? = some frame → Tells (h.bound k) frame
  accepts : ∀ a : Attempt, (s.define? a.name a.type a.place).isSome = true ↔
    ∀ b ∈ h.bound 0, b.key ≠ a.key
  refuses : ∀ a s', s.perform? (.define a) = some (false, s') → s' = s
  lookup : ∀ name type, s.lookup? name = some type ↔
    ∃ k, (∃ a ∈ h.bound k, a.key = canonicalName name ∧ a.type = type) ∧
      ∀ j < k, ∀ b ∈ h.bound j, b.key ≠ canonicalName name
  missing : ∀ name, s.lookup? name = none ↔ ∀ k, ∀ a ∈ h.bound k, a.key ≠ canonicalName name
  inner : ∀ name e, s.getInner? name = some e ↔
    ∃ a ∈ h.bound 0, a.key = canonicalName name ∧ a.entry = e
  entries : s.inner.entries = (h.bound 0).map Attempt.entry
  distinct : ((h.bound 0).map Attempt.key).Nodup
  restored : ∀ ops, Opens 0 ops →
    (∃ between, History.ops between = .push :: ops ++ [.pop] ∧ s.Leads between s) ∧
    ∀ between s', History.ops between = .push :: ops ++ [.pop] → s.Leads between s' → s' = s

theorem Leads.follows {s : Scope} {h : History} (hleads : empty.Leads h s) : s.Follows h where
  depth := by
    rw [hleads.depth, Int.add_comm]
    rfl
  frames k frame hframe := by
    have hentries : frame.entries = (h.bound k).map Attempt.entry := by
      rw [← hleads.reflects k, region, hframe]
      rfl
    refine ⟨hentries, ?_, ?_⟩
    . intro key i
      rw [frame.inStep, hentries, List.getElem?_map, Option.map_map]
      rfl
    . intro key
      rw [frame.read?_eq_get?, frame.get?_eq_find?, hentries, Entry.find?, List.find?_map]
      rfl
  accepts a := by
    have hget : s.getInner? a.name = Entry.find? ((h.bound 0).map Attempt.entry) a.key := by
      rw [getInner?_eq_find?, hleads.reflects.inner]
      rfl
    cases hfound : s.getInner? a.name with
    | none =>
      rw [define?_of_free s a.type a.place hfound]
      simpa using (find?_entries_eq_none_iff _ _).mp (hget.symm.trans hfound)
    | some e =>
      obtain ⟨b, hb, hkey, -⟩ := (find?_entries_eq_some_iff (hleads.reflects.distinct 0) _ _).mp
        (hget.symm.trans hfound)
      rw [define?_of_bound s a.type a.place hfound]
      simp only [Option.isSome_none, Bool.false_eq_true, false_iff]
      intro h
      exact h b hb hkey
  refuses a s' h := by
    rw [perform?_define, Frame.attempt] at h
    cases hget : s.inner.get? a.key with
    | none =>
      rw [hget] at h
      cases h
    | some e =>
      rw [hget, s.inner.add_of_bound hget] at h
      cases h
      rfl
  lookup name type := by
    rw [lookup?, Option.map_eq_some_iff]
    simp only [hleads.reflects.get?_eq_some_iff]
    constructor
    . rintro ⟨e, ⟨k, ⟨a, ha, hkey, rfl⟩, hbefore⟩, htype⟩
      exact ⟨k, ⟨a, ha, hkey, htype⟩, hbefore⟩
    . rintro ⟨k, ⟨a, ha, hkey, htype⟩, hbefore⟩
      exact ⟨a.entry, ⟨k, ⟨a, ha, hkey, rfl⟩, hbefore⟩, htype⟩
  missing name := by
    rw [lookup?, Option.map_eq_none_iff]
    exact hleads.reflects.get?_eq_none_iff name
  inner name e := by
    rw [getInner?_eq_find?, hleads.reflects.inner]
    exact find?_entries_eq_some_iff (hleads.reflects.distinct 0) _ _
  entries := hleads.reflects.inner
  distinct := hleads.reflects.distinct 0
  restored ops hopens := by
    obtain ⟨between, s', hops, hbetween⟩ := exists_leads s hopens.keeps_region
    have hback := hbetween.restores hops hopens
    rw [hback] at hbetween
    refine ⟨⟨between, hops, hbetween⟩, ?_⟩
    intro other t hother hleads
    exact hleads.restores hother hopens

theorem empty_follows_every_history :
    (∀ ops, (∃ h s, History.ops h = ops ∧ empty.Leads h s) ↔ Keeps ops) ∧
      ∀ h s, empty.Leads h s → s.Follows h := by
  refine ⟨?_, fun h s hleads => hleads.follows⟩
  intro ops
  constructor
  . rintro ⟨h, s, rfl, hleads⟩
    exact hleads.keeps
  . exact exists_leads empty

end PascalCheck.Scope

namespace PascalCheck

open Scope

def Sample.shadowing : History :=
  [(.define ⟨"count", .integer, none⟩, true),
   (.push, true),
   (.define ⟨"Count", .real, none⟩, true),
   (.define ⟨"COUNT", .char, none⟩, false)]

def Sample.shadowed : Scope :=
  ⟨.ofList [⟨"count", .real, none⟩], [.ofList [⟨"count", .integer, none⟩]]⟩

theorem Sample.shadowing_followed :
    Scope.empty.Leads Sample.shadowing Sample.shadowed ∧
      Sample.shadowed.Follows Sample.shadowing := by
  have hleads : Scope.empty.Leads Sample.shadowing Sample.shadowed := by
    exact (((Leads.start.step rfl).step rfl).step rfl).step rfl
  exact ⟨hleads, empty_follows_every_history.2 _ _ hleads⟩

end PascalCheck
