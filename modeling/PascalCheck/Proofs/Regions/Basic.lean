import PascalCheck.Proofs.Frames
import PascalCheck.Proofs.Plan

/-!
The regions that are open at a moment of a check, and what has been done in each of them since it was
opened: the values of constants that were judged and the attempts to bind a name. The frames of the
scope hold the first attempts and nothing else.
-/

namespace PascalCheck

variable [Naming]

namespace Attempt

def firsts : List Attempt → List Entry
  | [] => []
  | a :: as => a.entry :: (firsts as).filter (·.name != a.key)

theorem find?_firsts (as : List Attempt) (key : String) :
    Entry.find? (firsts as) key = (as.find? (·.key == key)).map entry := by
  induction as with
  | nil => rfl
  | cons a as ih =>
    rw [firsts, Entry.find?_cons]
    split
    next h =>
      rw [List.find?_cons_of_pos]
      . rfl
      . exact beq_iff_eq.mpr h
    next h =>
      rw [List.find?_cons_of_neg, ← ih]
      . apply Entry.find?_filter
        intro e _ he
        exact bne_iff_ne.mpr fun heq => h (heq.symm.trans he)
      . exact mt beq_iff_eq.mp h

theorem firsts_append (as : List Attempt) (a : Attempt) :
    firsts (as ++ [a]) = Entry.add (firsts as) a.entry := by
  induction as with
  | nil => rfl
  | cons b as ih =>
    rw [List.cons_append, firsts, ih, firsts]
    unfold Entry.add
    by_cases hkey : b.key = a.key
    -- The attempt comes after one for the same name, so it is filtered out if it is there at all.
    . have hfirst : Entry.find? (b.entry :: (firsts as).filter (·.name != b.key)) a.entry.name =
          some b.entry := by
        rw [Entry.find?_cons, if_pos]
        exact hkey
      rw [hfirst, Option.isSome_some, if_pos rfl]
      split
      . rfl
      . simp [entry, hkey]
    . have hrest : Entry.find? (b.entry :: (firsts as).filter (·.name != b.key)) a.entry.name =
          Entry.find? (firsts as) a.entry.name := by
        rw [Entry.find?_cons, if_neg]
        . apply Entry.find?_filter
          intro e _ he
          exact bne_iff_ne.mpr fun heq => hkey (heq.symm.trans he)
        . exact hkey
      rw [hrest]
      split
      . rfl
      . simp [entry, Ne.symm hkey]

end Attempt

namespace Frame

def attempt (frame : Frame) (a : Attempt) : Frame :=
  frame.add a.entry

theorem entries_attempts (frame : Frame) (as : List Attempt) :
    (as.foldl attempt frame).entries = frame.entries ++
      (Attempt.firsts as).filter fun e => (Entry.find? frame.entries e.name).isNone := by
  induction as generalizing frame with
  | nil => exact (List.append_nil _).symm
  | cons a as ih =>
    rw [List.foldl_cons, ih, Attempt.firsts, List.filter_cons, List.filter_filter, attempt,
      entries_add, Entry.add]
    cases h : Entry.find? frame.entries a.entry.name with
    | some found =>
      -- The name was there, so later attempts to bind it are left out with this one.
      simp only [Option.isSome_some, if_true, Option.isNone_some, Bool.false_eq_true, if_false]
      congr 1
      apply List.filter_congr
      intro e _
      by_cases hname : e.name = a.entry.name
      . rw [hname, h]
        rfl
      . simp [bne_iff_ne.mpr (show e.name ≠ a.key from hname)]
    | none =>
      simp only [Option.isSome_none, Bool.false_eq_true, if_false, Option.isNone_none, if_true,
        List.append_assoc, List.singleton_append]
      congr 2
      apply List.filter_congr
      intro e _
      rw [Entry.find?_append, Option.isNone_or, Entry.find?_cons]
      congr 1
      split
      next hname => simp [← hname, Attempt.entry]
      next hname => exact (bne_iff_ne.mpr (Ne.symm hname)).symm

theorem entries_attempts_empty (as : List Attempt) :
    (as.foldl attempt empty).entries = Attempt.firsts as := by
  rw [entries_attempts, entries_empty, List.nil_append, List.filter_eq_self]
  intro e _
  rfl

end Frame

structure Region where
  routine? : Option Routine
  initial : Frame
  values : List (ConstDef × Ty)
  attempts : List Attempt

namespace Region

def ofFrame (frame : Frame) : Region :=
  ⟨none, frame, [], []⟩

def ofRoutine (r : Routine) : Region :=
  ⟨some r, .empty, [], []⟩

def add (region : Region) (values : List (ConstDef × Ty)) (attempts : List Attempt) : Region :=
  { region with
    values := region.values ++ values
    attempts := region.attempts ++ attempts }

def frame (region : Region) : Frame :=
  region.attempts.foldl Frame.attempt region.initial

@[simp]
theorem add_nil (region : Region) : region.add [] [] = region := by
  simp [add]

@[simp]
theorem add_add (region : Region) (vs ws : List (ConstDef × Ty)) (as bs : List Attempt) :
    (region.add vs as).add ws bs = region.add (vs ++ ws) (as ++ bs) := by
  simp [add]

@[simp]
theorem frame_ofFrame (frame : Frame) : (ofFrame frame).frame = frame := rfl

@[simp]
theorem frame_add_values (region : Region) (values : List (ConstDef × Ty)) :
    (region.add values []).frame = region.frame := by
  simp [add, frame]

theorem frame_add_attempt (region : Region) (a : Attempt) :
    (region.add [] [a]).frame = region.frame.attempt a :=
  List.foldl_append

theorem entries_of_initial {region : Region} (h : region.initial = .empty) :
    region.frame.entries = Attempt.firsts region.attempts := by
  rw [frame, h, Frame.entries_attempts_empty]

end Region

namespace Action

def observe (scope : Scope) (regions : List Region) : Action → List Region
  | .enter r => .ofRoutine r :: regions
  | .leave => regions.tail
  | .value d => regions.modifyHead (·.add [(d, (d.value.check scope).type)] [])
  | .define name type => regions.modifyHead (·.add [] [⟨name.value, type, some name.span⟩])
  | .predefine a => regions.modifyHead (·.add [] [a])
  | _ => regions

end Action

def Context.observe : Context → List Region → List Action → List Region
  | _, regions, [] => regions
  | ctx, regions, a :: as => observe (a.apply ctx) (a.observe ctx.scope regions) as

@[simp]
theorem Context.observe_append (ctx : Context) (regions : List Region) (as bs : List Action) :
    ctx.observe regions (as ++ bs) = (ctx.run as).observe (ctx.observe regions as) bs := by
  induction as generalizing ctx regions with
  | nil => rfl
  | cons a as ih => exact ih (a.apply ctx) (a.observe ctx.scope regions)

namespace Scope

def frames (s : Scope) : List Frame :=
  s.inner :: s.outer

theorem frames_pop {s : Scope} {frame : Frame} {outer : List Frame} (h : s.outer = frame :: outer) :
    (s.pop?.getD s).frames = frame :: outer := by
  rw [pop?, h]
  rfl

end Scope

theorem Context.scope_define (ctx : Context) (name : Name) (type : Ty) :
    (ctx.define name type).scope =
      (ctx.scope.define? name.value type (some name.span)).getD ctx.scope := by
  unfold define
  split
  next h =>
    rw [h]
    rfl
  next h =>
    rw [h]
    rfl

namespace Region

def block (root : Block) (regions : List Region) : Block :=
  (regions.head?.bind (·.routine?)).elim root Routine.block

/-- Open regions: that of a program, and inside it those of routines declared in each other. -/
inductive Stack (root : Block) (base : Frame) : List Region → Prop where
  | program {region : Region} : region.routine? = none → region.initial = base →
    Stack root base [region]
  | routine {region : Region} {r : Routine} {regions : List Region} : region.routine? = some r →
    region.initial = .empty → r ∈ (block root regions).routines → Stack root base regions →
    Stack root base (region :: regions)

variable {root : Block} {base : Frame}

theorem Stack.add {region : Region} {regions : List Region}
    (h : Stack root base (region :: regions)) (values : List (ConstDef × Ty))
    (attempts : List Attempt) : Stack root base (region.add values attempts :: regions) := by
  cases h with
  | program hroutine hinitial => exact .program hroutine hinitial
  | routine hroutine hinitial hr hregions => exact .routine hroutine hinitial hr hregions

theorem Stack.exists_cons {regions : List Region} (h : Stack root base regions) :
    ∃ region outer, regions = region :: outer := by
  cases h with
  | program => exact ⟨_, _, rfl⟩
  | routine => exact ⟨_, _, rfl⟩

end Region

def ConstDef.declared (values : List (ConstDef × Ty)) : List Name :=
  (values.filter fun v => !v.2.isInvalidConstant).map (·.1.name)

def Block.declared (b : Block) (values : List (ConstDef × Ty)) : List Name :=
  ConstDef.declared values ++ (b.varDecls.flatMap (·.names) ++ b.routines.map (·.name))

def Routine.declared (r : Routine) (values : List (ConstDef × Ty)) : List Name :=
  r.groups.flatMap (·.names) ++ r.name :: r.block.declared values

def Name.site (name : Name) : String × Option Span :=
  (name.value, some name.span)

def Attempt.site (a : Attempt) : String × Option Span :=
  (a.name, a.place)

def Region.Complete (region : Region) (r : Routine) : Prop :=
  region.values.map (·.1) = r.block.constDefs ∧
    region.attempts.map Attempt.site = (r.declared region.values).map Name.site

/-- Regions are opened for routines of the block that is checked, and closed when complete. -/
def Action.Proper (root : Block) (regions : List Region) : Action → Prop
  | .enter r => r ∈ (Region.block root regions).routines
  | .leave => ∃ region outer r, regions = region :: outer ∧ region.routine? = some r ∧
    region.Complete r
  | _ => True

def Context.Orderly (root : Block) : Context → List Region → List Action → Prop
  | _, _, [] => True
  | ctx, regions, a :: as =>
    a.Proper root regions ∧ Orderly root (a.apply ctx) (a.observe ctx.scope regions) as

theorem Context.orderly_append (root : Block) (ctx : Context) (regions : List Region)
    (as bs : List Action) :
    ctx.Orderly root regions (as ++ bs) ↔
      ctx.Orderly root regions as ∧ (ctx.run as).Orderly root (ctx.observe regions as) bs := by
  induction as generalizing ctx regions with
  | nil => simp [Orderly, observe]
  | cons a as ih =>
    rw [List.cons_append, Orderly, Orderly, ih, and_assoc]
    rfl

/-- The scope is made up of what was bound in the open regions and of the frames around them. -/
structure Context.Shows (root : Block) (start : Scope) (ctx : Context) (regions : List Region) :
    Prop where
  stack : Region.Stack root start.inner regions
  frames : ctx.scope.frames = regions.map Region.frame ++ start.outer

namespace Context.Shows

variable {root : Block} {start : Scope} {ctx : Context} {regions : List Region}

theorem ofFrame (root : Block) (ctx : Context) :
    Shows root ctx.scope ctx [.ofFrame ctx.scope.inner] := by
  refine ⟨.program rfl rfl, ?_⟩
  rw [List.map_singleton, Region.frame_ofFrame]
  rfl

theorem attempt (h : Shows root start ctx regions) (a : Attempt) {after : Context}
    (hafter : after.scope = ⟨ctx.scope.inner.attempt a, ctx.scope.outer⟩) :
    Shows root start after (regions.modifyHead (·.add [] [a])) := by
  obtain ⟨region, outer, rfl⟩ := h.stack.exists_cons
  obtain ⟨hinner, houter⟩ := List.cons.inj h.frames
  refine ⟨h.stack.add [] [a], ?_⟩
  rw [Scope.frames, hafter, hinner, houter, List.modifyHead_cons, List.map_cons,
    Region.frame_add_attempt]
  rfl

theorem apply (h : Shows root start ctx regions) {a : Action} (ha : a.Proper root regions) :
    Shows root start (a.apply ctx) (a.observe ctx.scope regions) := by
  cases a with
  | define name type =>
    apply h.attempt
    rw [Action.apply, scope_define, Scope.define?_getD]
    rfl
  | predefine a =>
    apply h.attempt
    rw [Action.apply, predefine, Scope.define?_getD]
    rfl
  | value d =>
    obtain ⟨region, outer, rfl⟩ := h.stack.exists_cons
    refine ⟨h.stack.add _ [], ?_⟩
    rw [Action.observe, List.modifyHead_cons, List.map_cons, Region.frame_add_values]
    exact h.frames
  | enter r =>
    refine ⟨.routine rfl rfl ha h.stack, ?_⟩
    have hframes := h.frames
    rw [Action.observe, List.map_cons, List.cons_append, ← hframes]
    rfl
  | leave =>
    obtain ⟨region, outer, r, rfl, hroutine, -⟩ := ha
    cases hstack : h.stack with
    | program hnone =>
      rw [hnone] at hroutine
      cases hroutine
    | routine _ _ _ houter =>
      refine ⟨houter, ?_⟩
      -- Below a routine there is at least the region of the program.
      obtain ⟨below, rest, rfl⟩ := houter.exists_cons
      obtain ⟨-, hrest⟩ := List.cons.inj h.frames
      rw [Action.apply, pop, Scope.frames_pop hrest]
      rfl
  | _ => exact ⟨h.stack, h.frames⟩

theorem run (h : Shows root start ctx regions) {as : List Action}
    (has : ctx.Orderly root regions as) :
    Shows root start (ctx.run as) (ctx.observe regions as) := by
  induction as generalizing ctx regions with
  | nil => exact h
  | cons a as ih => exact ih (h.apply has.1) has.2

end Context.Shows

end PascalCheck
