import PascalCheck.Proofs.Arena.Reachable
import PascalCheck.Proofs.Blocks
import PascalCheck.Proofs.Log.Basic

/-!
The log that a check writes. It tells of every region that the check opens and closes and of every
binding that a declaration makes there.
-/

namespace PascalCheck

mutual

def Block.nests : Block → List Nest
  | .mk _ _ _ part _ => part.nests

def RoutinePart.nests : RoutinePart → List Nest
  | .absent => []
  | .present _ routines => Routine.nests routines

def Routine.nest : Routine → Nest
  | .procedure _ name _ block => .routine .procedure name.value block.nests
  | .function _ name _ _ block => .routine .function name.value block.nests

def Routine.nests : List Routine → List Nest
  | [] => []
  | r :: rs => r.nest :: Routine.nests rs

end

theorem Routine.nest_eq (r : Routine) :
    r.nest = .routine r.kind r.name.value r.block.nests := by
  cases r <;> rw [nest] <;> rfl

theorem Block.nests_eq (b : Block) : b.nests = b.routines.map Routine.nest := by
  have hall (rs : List Routine) : Routine.nests rs = rs.map Routine.nest := by
    induction rs with
    | nil => rw [Routine.nests, List.map_nil]
    | cons r rs ih => rw [Routine.nests, ih, List.map_cons]
  obtain ⟨info, consts, vars, part, body⟩ := b
  cases part with
  | absent => rw [nests, RoutinePart.nests, routines, RoutinePart.routines, List.map_nil]
  | present info rs => rw [nests, RoutinePart.nests, routines, RoutinePart.routines, hall]

def Frame.bindings (frame : Frame) : List (String × String) :=
  frame.entries.map fun e => (e.name, e.type.text)

def Scope.bindings (s : Scope) : LogEntry.Regions :=
  s.frames.map Frame.bindings

open LogEntry (Tells Bound Declares AllFit)

theorem Scope.bound_bindings_iff (s : Scope) (name : String) :
    Bound s.bindings name ↔ s.getInner? name ≠ none := by
  have hnames : Bound s.bindings name ↔ ∃ e ∈ s.inner.entries, e.name = canonicalName name := by
    simp [Bound, bindings, frames, Frame.bindings]
  rw [hnames, getInner?_eq_find?, ne_eq, Entry.find?_eq_none_iff]
  simp

theorem Scope.bindings_append (s : Scope) (e : Entry) (h : s.inner.index.lookup e.name = none) :
    Scope.bindings ⟨s.inner.append e h, s.outer⟩ =
      (s.inner.bindings ++ [(e.name, e.type.text)]) :: s.outer.map Frame.bindings := by
  rw [bindings, frames, List.map_cons, Frame.bindings, Frame.entries_append, List.map_append]
  rfl

namespace Context

/-- The log tells what has been done between two contexts, with these visits to routines. -/
def Narrates (ctx ctx' : Context) (visits : List LogEntry) : Prop :=
  ∃ log, ctx'.log = ctx.log ++ log ∧ Tells ctx.scope.bindings log ctx'.scope.bindings ∧
    log.filter LogEntry.isVisit = visits

variable {ctx ctx' ctx'' : Context} {visits visits' : List LogEntry}

namespace Narrates

theorem of_eq (hlog : ctx'.log = ctx.log) (hscope : ctx'.scope = ctx.scope) :
    ctx.Narrates ctx' [] := by
  refine ⟨[], ?_, ?_, rfl⟩
  . rw [hlog, List.append_nil]
  . rw [hscope]
    exact .nil

theorem trans (h : ctx.Narrates ctx' visits) (h' : ctx'.Narrates ctx'' visits') :
    ctx.Narrates ctx'' (visits ++ visits') := by
  obtain ⟨log, hlog, htells, rfl⟩ := h
  obtain ⟨log', hlog', htells', rfl⟩ := h'
  refine ⟨log ++ log', ?_, htells.append htells', List.filter_append _ _⟩
  rw [hlog', hlog, List.append_assoc]

theorem foldl {α : Type} {f : Context → α → Context} {visits : α → List LogEntry} (xs : List α)
    (h : ∀ x ∈ xs, ∀ ctx : Context, ctx.Narrates (f ctx x) (visits x)) (ctx : Context) :
    ctx.Narrates (xs.foldl f ctx) (xs.flatMap visits) := by
  induction xs generalizing ctx with
  | nil => exact of_eq rfl rfl
  | cons x xs ih =>
    rw [List.forall_mem_cons] at h
    exact (h.1 ctx).trans (ih h.2 (f ctx x))

theorem foldl_silent {α : Type} {f : Context → α → Context} (xs : List α)
    (h : ∀ x ∈ xs, ∀ ctx : Context, ctx.Narrates (f ctx x) []) (ctx : Context) :
    ctx.Narrates (xs.foldl f ctx) [] := by
  have hnone : xs.flatMap (fun _ => ([] : List LogEntry)) = [] := by simp
  rw [← hnone]
  exact foldl xs h ctx

end Narrates

theorem note_narrates (ctx : Context) {e : LogEntry} (h : e.isGeneral = true) :
    ctx.Narrates (ctx.note e) [] := by
  refine ⟨[e], rfl, .general h .nil, ?_⟩
  cases e with
  | predefined _ | program _ | finished _ => rfl
  | _ => cases h

theorem log_define_of_free (ctx : Context) {name : Name} (type : Ty)
    (h : ctx.scope.getInner? name.value = none) :
    (ctx.define name type).log =
      ctx.log ++ [.defined name.value type.text (ctx.scope.outer.length + 1)] := by
  unfold define
  rw [ctx.scope.define?_of_free type (some name.span) h]
  rfl

theorem define_tells (ctx : Context) (name : Name) (type : Ty) :
    ∃ log, (ctx.define name type).log = ctx.log ++ log ∧
      Tells ctx.scope.bindings log (ctx.define name type).scope.bindings ∧
      Declares ctx.scope.bindings name.value log ∧ log.filter LogEntry.isVisit = [] := by
  cases hinner : ctx.scope.getInner? name.value with
  | some e =>
    have hbound : Bound ctx.scope.bindings name.value := by
      rw [Scope.bound_bindings_iff, hinner]
      exact Option.some_ne_none e
    rw [define_of_bound type hinner]
    exact ⟨[], (List.append_nil _).symm, .nil, .inl hbound, rfl⟩
  | none =>
    have hfree : ¬Bound ctx.scope.bindings name.value := by
      rw [Scope.bound_bindings_iff, hinner]
      exact not_not_intro rfl
    refine ⟨_, ctx.log_define_of_free type hinner, ?_, .inr ⟨_, _, [], rfl⟩, rfl⟩
    rw [scope_define_of_free type hinner, ← List.length_map Frame.bindings]
    apply Tells.defined hfree
    rw [Scope.bindings_append]
    exact .nil

theorem define_narrates (ctx : Context) (name : Name) (type : Ty) :
    ctx.Narrates (ctx.define name type) [] := by
  obtain ⟨log, hlog, htells, -, hvisits⟩ := ctx.define_tells name type
  exact ⟨log, hlog, htells, hvisits⟩

theorem defineAll_narrates (ctx : Context) (names : List Name) (type : Ty) :
    ctx.Narrates (ctx.defineAll names type) [] :=
  .foldl_silent names (fun name _ ctx => ctx.define_narrates name type) ctx

theorem enter_narrates (ctx : Context) (kind : RoutineKind) (name : String) :
    ctx.Narrates (ctx.note (.entering kind name)).push [.entering kind name] :=
  ⟨[.entering kind name], rfl, .entering .nil, rfl⟩

theorem leave_narrates {ctx : Context} {frame : Frame} {outer : List Frame}
    (h : ctx.scope.outer = frame :: outer) (kind : RoutineKind) (name : Name) (type : Nat → Ty) :
    ctx.Narrates (ctx.leave kind name type) [.leaving kind name.value] := by
  have hpop : ctx.scope.pop? = some ⟨frame, outer⟩ := by
    rw [Scope.pop?, h]
  have hscope : ctx.scope.bindings = ctx.scope.inner.bindings :: Scope.bindings ⟨frame, outer⟩ := by
    rw [Scope.bindings, Scope.frames, h]
    rfl
  -- The routine is declared in the region around it, once its own region has been closed.
  let left := (ctx.noteScope name.value).pop.note (.leaving kind name.value)
  let done := (left.make type).2.add (.record name.id (left.make type).1)
  have hleft : done.scope = ⟨frame, outer⟩ := by
    simp only [done, left, add, make, note, pop, noteScope, hpop, Option.getD_some]
  obtain ⟨log, hlog, htells, hdeclares, hvisits⟩ := done.define_tells name (left.make type).1
  rw [hleft] at htells hdeclares
  refine ⟨.scopeOf name.value ctx.scope.inner.bindings :: .leaving kind name.value :: log,
    ?_, ?_, ?_⟩
  . rw [leave]
    refine hlog.trans ?_
    simp only [done, left, add, make, note, pop, noteScope, List.append_assoc]
    rfl
  . rw [hscope]
    exact .leaving hdeclares htells
  . exact congrArg (LogEntry.leaving kind name.value :: ·) hvisits

end Context

open Context (Narrates)

theorem ConstDef.check_narrates (d : ConstDef) (ctx : Context) : ctx.Narrates (d.check ctx) [] := by
  have hvalue : ctx.Narrates (ctx.add (d.value.check ctx.scope).findings) [] := .of_eq rfl rfl
  simp only [check_eq]
  split
  . exact hvalue
  . exact hvalue.trans (Context.define_narrates _ d.name _)

theorem TypeDenoter.log_check (t : TypeDenoter) (ctx : Context) :
    (t.check ctx).2.log = ctx.log := by
  induction t with
  | named name => rfl
  | file info component ih =>
    rw [check_file]
    exact ih

theorem VarDecl.check_narrates (d : VarDecl) (ctx : Context) : ctx.Narrates (d.check ctx) [] := by
  have htype : ctx.Narrates (d.type.check ctx).2 [] :=
    .of_eq (d.type.log_check ctx) (d.type.scope_check ctx)
  rw [check_eq]
  exact htype.trans (Context.defineAll_narrates _ d.names _)

theorem Group.check_narrates (g : Group) (ctx : Context) : ctx.Narrates (g.check ctx) [] := by
  have htype : ctx.Narrates
      (((g.type.check ctx).make (.parameter · .formal g.mode g.type.type)).2.add
        (.record g.info.id (g.typeIn ctx))) [] := .of_eq rfl rfl
  rw [check_eq]
  exact htype.trans (Context.defineAll_narrates _ g.names (g.typeIn ctx))

namespace Routine

variable (r : Routine) (ctx : Context)

theorem entered_narrates : ctx.Narrates (r.entered ctx) [.entering r.kind r.name.value] := by
  have hgroups (ctx : Context) : ctx.Narrates (r.groups.foldl (fun ctx g => g.check ctx) ctx) [] :=
    .foldl_silent r.groups (fun g _ => g.check_narrates) ctx
  unfold entered
  cases r.result? with
  | none => exact (ctx.enter_narrates r.kind r.name.value).trans (hgroups _)
  | some result =>
    have hresult : ctx.Narrates (result.check ctx) [] := .of_eq rfl rfl
    exact hresult.trans ((Context.enter_narrates _ r.kind r.name.value).trans (hgroups _))

theorem inside_narrates : ctx.Narrates (r.inside ctx) [.entering r.kind r.name.value] := by
  have htype : (r.entered ctx).Narrates ((r.entered ctx).make (r.type (r.params ctx))).2 [] :=
    .of_eq rfl rfl
  exact (r.entered_narrates ctx).trans (htype.trans (Context.define_narrates _ r.name _))

theorem check_narrates (hblock : ∀ ctx : Context,
      ctx.Narrates (r.block.check ctx) (Nest.visitsAll r.block.nests)) :
    ctx.Narrates (r.check ctx) r.nest.visits := by
  have houter : (r.block.check (r.inside ctx)).scope.outer = ctx.scope.inner :: ctx.scope.outer :=
    (r.block.check_grows (r.inside ctx)).outer.trans
      ((r.inside_grows ctx).outer.trans (r.entered_grows ctx).outer)
  have hleave (done : Context) (hlog : done.log = (r.block.check (r.inside ctx)).log)
      (hscope : done.scope = (r.block.check (r.inside ctx)).scope) :
      (r.block.check (r.inside ctx)).Narrates (done.leave r.kind r.name (r.type (r.params ctx)))
        [.leaving r.kind r.name.value] := by
    rw [← hscope] at houter
    exact (Narrates.of_eq hlog hscope).trans (Context.leave_narrates houter r.kind r.name _)
  rw [check_eq_inside, nest_eq, Nest.visits]
  refine (r.inside_narrates ctx).trans ((hblock (r.inside ctx)).trans ?_)
  simp only
  split
  . exact hleave _ rfl rfl
  . exact hleave _ rfl rfl

end Routine

theorem Block.check_narrates (b : Block) (ctx : Context) :
    ctx.Narrates (b.check ctx) (Nest.visitsAll b.nests) := by
  induction b using Block.nested_induction generalizing ctx with
  | h b ih =>
    have hconsts := Narrates.foldl_silent b.constDefs (fun d _ => d.check_narrates) ctx
    have hvars := hconsts.trans
      (.foldl_silent b.varDecls (fun d _ => d.check_narrates) _)
    have hroutines := hvars.trans
      (.foldl b.routines (fun r hr ctx => r.check_narrates ctx (ih r hr)) _)
    have hbody : (b.declare ctx).Narrates (b.check ctx) [] := by
      rw [check_eq_declare]
      exact .of_eq rfl rfl
    have hall := hroutines.trans hbody
    rw [List.append_nil] at hall
    rw [nests_eq, Nest.visitsAll_eq_flatMap, List.flatMap_map]
    exact hall

theorem Context.checkFile_narrates (ctx : Context) (name : Name) :
    ctx.Narrates (ctx.checkFile name) [] := by
  simp only [checkFile]
  split
  . have htype : ctx.Narrates (ctx.make (.file · .char)).2 [] := .of_eq rfl rfl
    exact htype.trans (Context.define_narrates _ name _)
  . exact .of_eq rfl rfl

theorem Heading.check_narrates (h : Heading) (ctx : Context) : ctx.Narrates (h.check ctx) [] := by
  rw [check_eq]
  exact (ctx.note_narrates rfl).trans
    (.foldl_silent h.params (fun name _ ctx => ctx.checkFile_narrates name) _)

namespace Context

theorem log_predefineAll (ctx : Context) (table : Predefined) :
    ∃ count, (ctx.predefineAll table).log = ctx.log ++ [.predefined count] := by
  have hlog : (table.foldl Context.predefine
      (ctx.predefine Required.maxint)).log = ctx.log :=
    List.foldlRecOn (motive := fun (after : Context) => after.log = ctx.log) table _ rfl
      fun after hafter _ _ => hafter
  exact ⟨_, congrArg (· ++ _) hlog⟩

theorem predefineAll_grows (ctx : Context) (table : Predefined) :
    ctx.scope.Grows (ctx.predefineAll table).scope := by
  have htable : (ctx.predefine Required.maxint).scope.Grows (ctx.predefineAll table).scope :=
    .foldl table (fun entry _ ctx => .define ctx.scope entry.name entry.type entry.place) _
  exact (Scope.Grows.define ctx.scope "maxint" .integer none).trans htable

theorem bindings_predefine {ctx ctx' : Context} (h : ctx.scope.bindings = ctx'.scope.bindings)
    {a b : Attempt} (hname : a.name = b.name) (htext : a.type.text = b.type.text) :
    (ctx.predefine a).scope.bindings = (ctx'.predefine b).scope.bindings := by
  have hbound := (Scope.bound_bindings_iff ctx.scope b.name).symm.trans
    (h ▸ Scope.bound_bindings_iff ctx'.scope b.name)
  unfold predefine
  rw [hname]
  cases hinner : ctx.scope.getInner? b.name with
  | some e =>
    rw [hinner] at hbound
    obtain ⟨e', he'⟩ := Option.ne_none_iff_exists'.mp (hbound.mp (Option.some_ne_none e))
    rw [Scope.define?_of_bound _ _ _ hinner, Scope.define?_of_bound _ _ _ he']
    exact h
  | none =>
    have hfree : ctx'.scope.getInner? b.name = none := by
      by_contra hsome
      exact hbound.mpr hsome hinner
    obtain ⟨hinner', houter⟩ := List.cons.inj h
    rw [Scope.define?_of_free _ _ _ hinner, Scope.define?_of_free _ _ _ hfree]
    simp only [Option.getD_some, Scope.bindings_append, hinner', houter, htext]

theorem bindings_predefineAll (ctx : Context) (next : Nat) {made table : Predefined}
    (h : Predefined.SameForm made table) :
    ({ ctx with nextTag := next }.predefineAll made).scope.bindings =
      (ctx.predefineAll table).scope.bindings := by
  have hfoldl (a b : Context) (hab : a.scope.bindings = b.scope.bindings) :
      (made.foldl Context.predefine a).scope.bindings =
        (table.foldl Context.predefine b).scope.bindings := by
    induction h generalizing a b with
    | nil => exact hab
    | @cons entry entry' _ _ hentry _ ih =>
      have htext : entry.type.text = entry'.type.text := by
        rw [← entry.type.text_relabel fun _ => 0, ← entry'.type.text_relabel fun _ => 0]
        exact congrArg Ty.text hentry.form
      rw [List.foldl_cons, List.foldl_cons]
      exact ih _ _ (bindings_predefine hab hentry.name htext)
  exact hfoldl _ _ rfl

end Context

theorem Program.check_tells (p : Program) (table : Predefined) (ctx : Context) :
    ∃ told, (p.check table ctx).log = ctx.log ++ told ∧
      Tells (ctx.predefineAll table).scope.bindings told (p.check table ctx).scope.bindings ∧
      told.filter LogEntry.isVisit = Nest.visitsAll p.block.nests := by
  have hblock := (p.heading.check_narrates (ctx.predefineAll table)).trans
    (p.block.check_narrates _)
  have hfinished : Narrates (p.block.check (p.starting table ctx)) (p.check table ctx) [] := by
    rw [p.check_eq]
    exact Context.note_narrates _ rfl
  obtain ⟨log, hlog, htells, hvisits⟩ := hblock.trans hfinished
  obtain ⟨count, hcount⟩ := ctx.log_predefineAll table
  refine ⟨.predefined count :: log, ?_, .general rfl htells, ?_⟩
  . rw [hlog, hcount, List.append_assoc, List.singleton_append]
  . rw [List.append_nil] at hvisits
    exact hvisits

theorem Program.log_mirrors_scopes (p : Program) (table : Predefined) (ctx : Context) :
    (∃ after told, p.checkWith table ctx = .ok after ∧
      LogEntry.atLevel .trace after.log = LogEntry.atLevel .trace ctx.log ++ told ∧
      (∀ nests, told.filter LogEntry.isVisit = Nest.visitsAll nests ↔ nests = p.block.nests) ∧
      AllFit ctx.scope.depth (ctx.predefineAll table).scope.bindings told ∧
      LogEntry.replay (ctx.predefineAll table).scope.bindings told = after.scope.bindings) ∨
    ∃ fault, p.checkWith table ctx = .error fault ∧
      ∃ entry ∈ table, entry.type.isMakeable = false := by
  cases hfresh : table.fresh ctx.nextTag with
  | error fault =>
    exact .inr ⟨fault, p.checkWith_of_fault hfresh, Predefined.exists_not_isMakeable hfresh⟩
  | ok result =>
    obtain ⟨made, next⟩ := result
    have hforms := (Predefined.fresh_makes .trivial hfresh).2.1
    obtain ⟨told, hlog, htells, hvisits⟩ := p.check_tells made { ctx with nextTag := next }
    rw [ctx.bindings_predefineAll next hforms] at htells
    have hdepth : (ctx.predefineAll table).scope.bindings.length = ctx.scope.depth := by
      rw [Scope.bindings, List.length_map, Scope.frames, List.length_cons,
        (ctx.predefineAll_grows table).outer, Scope.depth]
    refine .inl ⟨_, told, p.checkWith_of_fresh hfresh, hlog, ?_, hdepth ▸ htells.allFit,
      htells.replay_eq⟩
    intro nests
    rw [hvisits, Nest.visitsAll_injective.eq_iff]
    exact eq_comm

end PascalCheck
