import Mathlib.Logic.Function.Defs
import PascalCheck.Log
import PascalCheck.Scope

/-!
The log of a check and the regions that the check opens and closes. From the log alone the open
regions can be told at every point, with the bindings that were made in them: a region is opened
where a routine is entered and closed where it is left, and every binding has an entry.
-/

namespace PascalCheck

namespace LogEntry

abbrev Regions := List (List (String × String))

def isEntering : LogEntry → Bool
  | .entering _ _ => true
  | _ => false

def isLeaving : LogEntry → Bool
  | .leaving _ _ => true
  | _ => false

def isVisit (e : LogEntry) : Bool :=
  e.isEntering || e.isLeaving

def isGeneral : LogEntry → Bool
  | .predefined _ | .program _ | .finished _ => true
  | _ => false

def next (regions : Regions) : LogEntry → Regions
  | .entering _ _ => [] :: regions
  | .leaving _ _ => regions.tail
  | .defined name type _ => (regions.headD [] ++ [(canonicalName name, type)]) :: regions.tail
  | .predefined _ | .program _ | .scopeOf _ _ | .finished _ => regions

def replay (regions : Regions) (log : List LogEntry) : Regions :=
  log.foldl next regions

def Bound (regions : Regions) (name : String) : Prop :=
  canonicalName name ∈ (regions.headD []).map Prod.fst

def Declares (regions : Regions) (name : String) (log : List LogEntry) : Prop :=
  Bound regions name ∨ ∃ type depth rest, log = .defined name type depth :: rest

/--
What is true of an entry, given those before and after it. The regions `start`, with the innermost
one at `depth`, are open before the first entry.
-/
def Fits (depth : Nat) (start : Regions) (before after : List LogEntry) : LogEntry → Prop
  | .defined name _ depth' =>
    depth' + before.countP isLeaving = depth + before.countP isEntering ∧
      ¬Bound (replay start before) name
  | .scopeOf routine entries =>
    (replay start before).head? = some entries ∧ ∃ kind rest, after = .leaving kind routine :: rest
  | .leaving _ name =>
    (∃ earlier entries, before = earlier ++ [.scopeOf name entries]) ∧
      Declares (replay start before).tail name after
  | .predefined _ | .program _ | .entering _ _ | .finished _ => True

def AllFit (depth : Nat) (start : Regions) (log : List LogEntry) : Prop :=
  ∀ before e after, log = before ++ e :: after → Fits depth start before after e

/-- A log of what is done to the open regions, which are `start` before and `stop` after it. -/
inductive Tells : Regions → List LogEntry → Regions → Prop where
  | nil {stop : Regions} : Tells stop [] stop
  | general {start stop : Regions} {e : LogEntry} {log : List LogEntry} : e.isGeneral = true →
    Tells start log stop → Tells start (e :: log) stop
  | defined {own : List (String × String)} {around stop : Regions} {name type : String}
      {log : List LogEntry} : ¬Bound (own :: around) name →
    Tells ((own ++ [(canonicalName name, type)]) :: around) log stop →
    Tells (own :: around) (.defined name type (around.length + 1) :: log) stop
  | entering {start stop : Regions} {kind : RoutineKind} {name : String} {log : List LogEntry} :
    Tells ([] :: start) log stop → Tells start (.entering kind name :: log) stop
  | leaving {own : List (String × String)} {around stop : Regions} {kind : RoutineKind}
      {name : String} {log : List LogEntry} : Declares around name log →
    Tells around log stop →
    Tells (own :: around) (.scopeOf name own :: .leaving kind name :: log) stop

variable {start middle stop : Regions} {log log' : List LogEntry}

theorem Declares.append {name : String} (h : Declares start name log) (log' : List LogEntry) :
    Declares start name (log ++ log') := by
  obtain hbound | ⟨type, depth, rest, rfl⟩ := h
  . exact .inl hbound
  . exact .inr ⟨type, depth, rest ++ log', rfl⟩

namespace Tells

theorem append (h : Tells start log middle) (h' : Tells middle log' stop) :
    Tells start (log ++ log') stop := by
  induction h with
  | nil => exact h'
  | general he _ ih => exact .general he (ih h')
  | defined hfree _ ih => exact .defined hfree (ih h')
  | entering _ ih => exact .entering (ih h')
  | leaving hdeclares _ ih => exact .leaving (hdeclares.append log') (ih h')

theorem replay_eq (h : Tells start log stop) : replay start log = stop := by
  induction h with
  | nil => rfl
  | @general _ _ e _ he _ ih =>
    cases e with
    | predefined _ | program _ | finished _ => exact ih
    | _ => cases he
  | defined _ _ ih | entering _ ih | leaving _ _ ih => exact ih

end Tells

theorem Fits.cons {depth depth' : Nat} {first e : LogEntry} {before after : List LogEntry}
    (hdepth : depth + [first].countP isEntering = depth' + [first].countP isLeaving)
    (h : Fits depth' (next start first) before after e) :
    Fits depth start (first :: before) after e := by
  cases e with
  | defined name type d =>
    refine ⟨?_, h.2⟩
    have hcount := h.1
    rw [← List.singleton_append, List.countP_append, List.countP_append]
    omega
  | leaving kind name =>
    obtain ⟨⟨earlier, entries, rfl⟩, hdeclares⟩ := h
    exact ⟨⟨first :: earlier, entries, rfl⟩, hdeclares⟩
  | _ => exact h

theorem AllFit.cons {depth depth' : Nat} {first : LogEntry}
    (hdepth : depth + [first].countP isEntering = depth' + [first].countP isLeaving)
    (hfirst : Fits depth start [] log first) (h : AllFit depth' (next start first) log) :
    AllFit depth start (first :: log) := by
  intro before e after heq
  cases before with
  | nil =>
    cases heq
    exact hfirst
  | cons e' before =>
    obtain ⟨rfl, hrest⟩ := List.cons.inj heq
    exact (h before e after hrest).cons hdepth

theorem Tells.allFit (h : Tells start log stop) : AllFit start.length start log := by
  induction h with
  | nil =>
    intro before e after heq
    cases before <;> cases heq
  | @general start _ e _ he _ ih =>
    cases e with
    | predefined _ | program _ | finished _ => exact ih.cons rfl trivial
    | _ => cases he
  | defined hfree _ ih => exact ih.cons rfl ⟨rfl, hfree⟩
  | entering _ ih => exact ih.cons rfl trivial
  | @leaving own around _ kind name log hdeclares _ ih =>
    -- The entry that lists the region and the one that leaves it are one step.
    intro before e after heq
    cases before with
    | nil =>
      cases heq
      exact ⟨rfl, kind, log, rfl⟩
    | cons first before =>
      obtain ⟨rfl, hrest⟩ := List.cons.inj heq
      cases before with
      | nil =>
        cases hrest
        exact ⟨⟨[], own, rfl⟩, hdeclares⟩
      | cons second before =>
        obtain ⟨rfl, hlater⟩ := List.cons.inj hrest
        have hfits : Fits (own :: around).length (own :: around) (.leaving kind name :: before)
            after e := (ih before e after hlater).cons rfl
        exact hfits.cons rfl

end LogEntry

inductive Nest where
  | routine (kind : RoutineKind) (name : String) (inside : List Nest)

namespace Nest

mutual

def visits : Nest → List LogEntry
  | .routine kind name inside => .entering kind name :: (visitsAll inside ++ [.leaving kind name])

def visitsAll : List Nest → List LogEntry
  | [] => []
  | nest :: nests => nest.visits ++ visitsAll nests

end

theorem visitsAll_eq_flatMap (nests : List Nest) : visitsAll nests = nests.flatMap visits := by
  induction nests with
  | nil => rw [visitsAll, List.flatMap_nil]
  | cons nest nests ih => rw [visitsAll, ih, List.flatMap_cons]

def next (left : List (List Nest)) : LogEntry → List (List Nest)
  | .entering _ _ => [] :: left
  | .leaving kind name =>
    (left.tail.headD [] ++ [.routine kind name (left.headD [])]) :: left.tail.tail
  | _ => left

mutual

theorem foldl_visits (nest : Nest) (nests : List Nest) (left : List (List Nest)) :
    nest.visits.foldl next (nests :: left) = (nests ++ [nest]) :: left := by
  cases nest with
  | routine kind name inside =>
    rw [visits, List.foldl_cons, List.foldl_append, next, foldl_visitsAll inside]
    rfl

theorem foldl_visitsAll (inside nests : List Nest) (left : List (List Nest)) :
    (visitsAll inside).foldl next (nests :: left) = (nests ++ inside) :: left := by
  cases inside with
  | nil => rw [visitsAll, List.append_nil, List.foldl_nil]
  | cons nest inside =>
    rw [visitsAll, List.foldl_append, foldl_visits nest, foldl_visitsAll inside, List.append_assoc,
      List.singleton_append]

end

theorem visitsAll_injective : Function.Injective visitsAll := by
  intro nests nests' h
  have hread (nests : List Nest) : (visitsAll nests).foldl next [[]] = [nests] :=
    foldl_visitsAll nests [] []
  have heq : [nests] = [nests'] := by
    rw [← hread nests, h, hread nests']
  exact List.singleton_inj.mp heq

end Nest

end PascalCheck
