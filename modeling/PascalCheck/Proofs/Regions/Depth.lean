import PascalCheck.Proofs.History
import PascalCheck.Proofs.Regions.Names

/-!
The scope during a check. Above the region that a program is checked in there is one for each routine
that is being checked, and these routines are declared in each other. Below it nothing changes.
-/

namespace PascalCheck

section

variable [Naming]

def Routine.Nested (root : Block) : List Routine → Prop
  | [] => True
  | r :: rs => r ∈ (rs.head?.elim root block).routines ∧ Nested root rs

/--
The frames of `s` are those of `start`, whose innermost one may have grown, and `count` further ones
inside it.
-/
structure Scope.Above (start s : Scope) (count : Nat) : Prop where
  depth : s.depth = start.depth + count
  frames : ∃ (further : List Frame) (inner : Frame),
    s.frames = further ++ inner :: start.outer ∧ further.length = count ∧
      start.inner.entries <+: inner.entries

namespace Region

def routines (regions : List Region) : List Routine :=
  regions.filterMap (·.routine?)

variable {root : Block} {base : Frame} {regions : List Region}

namespace Stack

theorem head?_routines (h : Stack root base regions) :
    (routines regions).head? = regions.head?.bind (·.routine?) := by
  cases h with
  | program hroutine _ => simp [routines, hroutine]
  | routine hroutine _ _ _ => simp [routines, hroutine]

theorem nested (h : Stack root base regions) : Routine.Nested root (routines regions) := by
  induction h with
  | program hroutine _ =>
    rw [routines, List.filterMap_cons_none hroutine]
    exact .intro
  | routine hroutine _ hr hregions ih =>
    rw [routines, List.filterMap_cons_some hroutine]
    refine ⟨?_, ih⟩
    rw [← routines, hregions.head?_routines]
    exact hr

theorem frames (h : Stack root base regions) :
    ∃ (further : List Frame) (inner : Frame),
      regions.map Region.frame = further ++ [inner] ∧
        further.length = (routines regions).length ∧ base.entries <+: inner.entries := by
  induction h with
  | @program region hroutine hinitial =>
    refine ⟨[], region.frame, rfl, ?_, ?_⟩
    . rw [routines, List.filterMap_cons_none hroutine]
      rfl
    . rw [frame, hinitial, Frame.entries_attempts]
      exact List.prefix_append _ _
  | @routine region _ _ hroutine _ _ _ ih =>
    obtain ⟨further, inner, hframes, hlength, hinner⟩ := ih
    refine ⟨region.frame :: further, inner, ?_, ?_, hinner⟩
    . rw [List.map_cons, hframes]
      rfl
    . rw [routines, List.filterMap_cons_some hroutine, List.length_cons, List.length_cons, hlength]
      rfl

end Stack

end Region

namespace Context

theorem Shows.above {root : Block} {start : Scope} {ctx : Context} {regions : List Region}
    (h : Shows root start ctx regions) :
    start.Above ctx.scope (Region.routines regions).length := by
  obtain ⟨further, inner, hframes, hlength, hinner⟩ := h.stack.frames
  have hscope : ctx.scope.frames = further ++ inner :: start.outer := by
    rw [h.frames, hframes, List.append_assoc]
    rfl
  refine ⟨?_, further, inner, hscope, hlength, hinner⟩
  have hdepth := congrArg List.length hscope
  rw [Scope.frames, List.length_append, List.length_cons, List.length_cons, hlength] at hdepth
  unfold Scope.depth
  omega

end Context

theorem Scope.Above.settled {start s : Scope} (h : start.Above s 0) :
    s.depth = start.depth ∧ s.outer = start.outer ∧
      start.inner.entries <+: s.inner.entries := by
  obtain ⟨further, inner, hframes, hlength, hprefix⟩ := h.frames
  rw [List.length_eq_zero_iff.mp hlength] at hframes
  obtain ⟨hinner, houter⟩ := List.cons.inj hframes
  rw [← hinner] at hprefix
  exact ⟨h.depth, houter, hprefix⟩

namespace Program

theorem check_settled (p : Program) (table : Predefined) (ctx : Context) :
    (p.check table ctx).scope.depth = ctx.scope.depth ∧
      (p.check table ctx).scope.outer = ctx.scope.outer ∧
      ctx.scope.inner.entries <+: (p.check table ctx).scope.inner.entries := by
  have hshows := shows_moment (List.prefix_refl (p.plan table ctx))
  -- At the end of the check no routine is being checked.
  obtain ⟨values, attempts, hregions, -⟩ := p.regions_plan table ctx
  rw [p.plan_does, hregions] at hshows
  exact hshows.above.settled

end Program

structure Scope.BindsOne (s s' : Scope) : Prop where
  outer : s'.outer = s.outer
  inner : s'.inner = s.inner ∨ ∃ e, s'.inner.entries = s.inner.entries ++ [e]

/--
What an action does to the scope. Constants, statements and the expressions in them are checked in a
scope that stays as it is, and the region that the check started in is never closed.
-/
def Action.Moves (start s s' : Scope) : Action → Prop
  | .define _ _ | .predefine _ => s.BindsOne s'
  | .enter _ => s' = s.push
  | .leave => start.depth < s.depth ∧ s.pop? = some s'
  | .note _ | .find _ | .value _ | .make _ | .record _ _ | .body _ | .noResult _ => s' = s

namespace Scope

theorem bindsOne_define (s : Scope) (name : String) (type : Ty) (place : Option Span) :
    s.BindsOne ((s.define? name type place).getD s) := by
  unfold define? Frame.insert?
  split
  . exact ⟨rfl, .inr ⟨_, rfl⟩⟩
  . exact ⟨rfl, .inl rfl⟩

end Scope

namespace Program

variable {p : Program} {table : Predefined} {ctx : Context} {done : List Action}

theorem depth_lt_of_leave (h : done ++ [.leave] <+: p.plan table ctx) :
    ctx.scope.depth < (ctx.run done).scope.depth := by
  have hshows := shows_moment ((List.prefix_append done [.leave]).trans h)
  -- A region that is closed belongs to a routine.
  obtain ⟨region, outer, r, hregions, hroutine, -⟩ := proper_moment h
  have hdepth := hshows.above.depth
  rw [hregions, Region.routines, List.filterMap_cons_some hroutine, List.length_cons] at hdepth
  omega

theorem pop?_isSome (h : done ++ [.leave] <+: p.plan table ctx) :
    (ctx.run done).scope.pop?.isSome := by
  have hdepth := depth_lt_of_leave h
  unfold Scope.depth at hdepth
  unfold Scope.pop?
  split
  next houter =>
    rw [houter, List.length_nil] at hdepth
    omega
  next => rfl

theorem moves_moment {a : Action} (h : done ++ [a] <+: p.plan table ctx) :
    a.Moves ctx.scope (ctx.run done).scope (ctx.run (done ++ [a])).scope := by
  rw [Context.run_append, Context.run_cons, Context.run_nil]
  cases a with
  | define name type =>
    rw [Action.apply, Context.scope_define]
    exact Scope.bindsOne_define _ _ _ _
  | predefine attempt => exact Scope.bindsOne_define _ _ _ _
  | leave =>
    obtain ⟨popped, hpopped⟩ := Option.isSome_iff_exists.mp (pop?_isSome h)
    refine ⟨depth_lt_of_leave h, ?_⟩
    simp only [Action.apply, Context.pop, hpopped, Option.getD_some]
  | _ => rfl

theorem check_keeps_scope_discipline (p : Program) (table : Predefined) (ctx : Context) :
    (∀ after, p.checkWith table ctx = .ok after →
      (∃ made next, after = p.check made { ctx with nextTag := next }) ∧
        after.scope.depth = ctx.scope.depth ∧ after.scope.outer = ctx.scope.outer ∧
        ctx.scope.inner.entries <+: after.scope.inner.entries) ∧
    ctx.run (p.plan table ctx) = p.check table ctx ∧
    (∀ done, done <+: p.plan table ctx →
      Routine.Nested p.block (Region.routines (ctx.regions done)) ∧
        ctx.scope.Above (ctx.run done).scope (Region.routines (ctx.regions done)).length) ∧
    ∀ done a, done ++ [a] <+: p.plan table ctx →
      a.Moves ctx.scope (ctx.run done).scope (ctx.run (done ++ [a])).scope := by
  refine ⟨?_, p.plan_does table ctx, ?_, fun _ _ h => moves_moment h⟩
  . intro after hafter
    obtain ⟨⟨made, next⟩, -, hafter⟩ := exists_of_bind_eq_ok hafter
    cases hafter
    exact ⟨⟨made, next, rfl⟩, p.check_settled made { ctx with nextTag := next }⟩
  . intro done hdone
    have hshows := shows_moment hdone
    exact ⟨hshows.stack.nested, hshows.above⟩

end Program

end

def Sample.repeated : Program :=
  -- `program p(Output); const n = 1; N = 2; var maxint : char; procedure q(x : integer); var Q :
  -- real; procedure r; begin end; begin end; begin end.`
  ⟨node 0, ⟨node 1, ⟨node 2, "p"⟩, [⟨node 3, "Output"⟩]⟩,
    .mk (node 4)
      (some ⟨node 5, [⟨node 6, ⟨node 7, "n"⟩, .integer (node 8) ⟨node 9, "1"⟩⟩,
        ⟨node 10, ⟨node 11, "N"⟩, .integer (node 12) ⟨node 13, "2"⟩⟩]⟩)
      (some ⟨node 14, [⟨node 15, [⟨node 16, "maxint"⟩], .named ⟨node 17, ⟨node 18, .char⟩⟩⟩]⟩)
      (.present (node 19) [.procedure (node 20) ⟨node 21, "q"⟩
        (some [⟨node 22, .value, [⟨node 23, "x"⟩], ⟨node 24, ⟨node 25, .integer⟩⟩⟩])
        (.mk (node 26) none
          (some ⟨node 27, [⟨node 28, [⟨node 29, "Q"⟩], .named ⟨node 30, ⟨node 31, .real⟩⟩⟩]⟩)
          (.present (node 32) [.procedure (node 33) ⟨node 34, "r"⟩ none
            (.mk (node 35) none none .absent ⟨node 36, .empty (node 37)⟩)])
          ⟨node 38, .empty (node 39)⟩)])
      ⟨node 40, .empty (node 41)⟩⟩

theorem Sample.depth_inside_repeated :
    (Context.empty.run ((Sample.repeated.plan [] .empty).take 23)).scope.depth = 1 + 2 :=
  have h := Sample.repeated.check_keeps_scope_discipline [] .empty
  (h.2.2.1 _ (List.take_prefix 23 _)).2.depth

end PascalCheck
