import Mathlib.Logic.Relation
import PascalCheck.Proofs.Fresh
import PascalCheck.Proofs.Plan

/-!
Every check is a sequence of a few kinds of steps, and the types that a step brings in satisfy
whatever holds of all types as they are made. What each step preserves is preserved by a check.
-/

namespace PascalCheck

variable [Naming]

namespace Context

variable (P : Nat → Ty → Prop)

/-- One step of a check; the types that it brings in satisfy `P`. -/
inductive Step : Context → Context → Prop where
  | add (ctx : Context) {found : Findings} : found.Within (P ctx.nextTag) → Step ctx (ctx.add found)
  | note (ctx : Context) (entry : LogEntry) : Step ctx (ctx.note entry)
  | draw (ctx : Context) {n : Nat} : ctx.nextTag ≤ n → Step ctx { ctx with nextTag := n }
  | push (ctx : Context) : Step ctx ctx.push
  | pop (ctx : Context) : Step ctx ctx.pop
  | define (ctx : Context) (name : Name) {type : Ty} : P ctx.nextTag type →
    Step ctx (ctx.define name type)
  | predefine (ctx : Context) {a : Attempt} : P ctx.nextTag a.type → Step ctx (ctx.predefine a)

abbrev Steps : Context → Context → Prop :=
  Relation.ReflTransGen (Step P)

structure Holds (ctx : Context) : Prop where
  scope : ctx.scope.Within (P ctx.nextTag)
  records : ∀ r ∈ ctx.records, P ctx.nextTag r.type

variable {P : Nat → Ty → Prop}

theorem Holds.trivial (ctx : Context) : ctx.Holds fun _ _ => True :=
  ⟨fun _ _ => .intro, fun _ _ => .intro⟩

end Context

namespace Scope

theorem entries_push (s : Scope) : s.push.entries = s.entries := by
  simp [entries, push]

theorem mem_entries_of_pop? {s outer : Scope} (h : s.pop? = some outer) {e : Entry}
    (he : e ∈ outer.entries) : e ∈ s.entries := by
  unfold pop? at h
  split at h
  . cases h
  next frame frames hframes =>
    cases h
    simp only [entries, hframes, List.flatMap_cons] at he ⊢
    exact List.mem_append_right _ he

theorem mem_entries_of_define? {s s' : Scope} {name : String} {type : Ty} {place : Option Span}
    (h : s.define? name type place = some s') {e : Entry} (he : e ∈ s'.entries) :
    e ∈ s.entries ∨ e.type = type := by
  cases hinner : s.getInner? name with
  | some e =>
    rw [define?_of_bound s type place hinner] at h
    cases h
  | none =>
    rw [define?_of_free s type place hinner] at h
    cases h
    simp only [entries, List.flatMap_cons, Frame.entries_append, List.mem_append,
      List.mem_singleton] at he ⊢
    rcases he with (he | rfl) | he
    . exact .inl (.inl he)
    . exact .inr rfl
    . exact .inl (.inr he)

variable {Q : Ty → Prop}

theorem Within.push {s : Scope} (h : s.Within Q) : s.push.Within Q := by
  unfold Within
  rw [entries_push]
  exact h

theorem Within.pop {s : Scope} (h : s.Within Q) : (s.pop?.getD s).Within Q := by
  cases hpop : s.pop? with
  | none => exact h
  | some outer => exact fun e he => h e (mem_entries_of_pop? hpop he)

theorem Within.define {s s' : Scope} {name : String} {type : Ty} {place : Option Span}
    (h : s.Within Q) (htype : Q type) (hdefine : s.define? name type place = some s') :
    s'.Within Q := by
  intro e he
  rcases mem_entries_of_define? hdefine he with he | rfl
  . exact h e he
  . exact htype

theorem Within.define_getD {s : Scope} (h : s.Within Q) (name : String) {type : Ty}
    (place : Option Span) (htype : Q type) : ((s.define? name type place).getD s).Within Q := by
  cases hdefine : s.define? name type place with
  | none => exact h
  | some scope => exact h.define htype hdefine

end Scope

namespace Context

@[simp]
theorem nextTag_define (ctx : Context) (name : Name) (type : Ty) :
    (ctx.define name type).nextTag = ctx.nextTag := by
  unfold define
  split <;> rfl

@[simp]
theorem records_define (ctx : Context) (name : Name) (type : Ty) :
    (ctx.define name type).records = ctx.records := by
  unfold define
  split <;> rfl

theorem scope_define_within {Q : Ty → Prop} {ctx : Context} (h : ctx.scope.Within Q) (name : Name)
    {type : Ty} (htype : Q type) : (ctx.define name type).scope.Within Q := by
  unfold define
  split
  next scope hdefine => exact h.define htype hdefine
  . exact h

theorem scope_predefine_within {Q : Ty → Prop} {ctx : Context} (h : ctx.scope.Within Q)
    {a : Attempt} (htype : Q a.type) : (ctx.predefine a).scope.Within Q :=
  h.define_getD a.name a.place htype

variable {P : Nat → Ty → Prop}

namespace Holds

theorem draw {ctx : Context} (hP : Ty.Invariant P) (h : ctx.Holds P) {n : Nat}
    (hn : ctx.nextTag ≤ n) : Holds P { ctx with nextTag := n } :=
  ⟨fun e he => hP.mono hn (h.scope e he), fun r hr => hP.mono hn (h.records r hr)⟩

theorem add {ctx : Context} (hP : Ty.Invariant P) (h : ctx.Holds P) {found : Findings}
    (hfound : found.Within (P ctx.nextTag)) : (ctx.add found).Holds P := by
  have hle : ctx.nextTag ≤ (ctx.add found).nextTag := Nat.le_add_right _ _
  refine ⟨(h.draw hP hle).scope, List.forall_mem_append.mpr ⟨?_, (h.draw hP hle).records⟩⟩
  exact fun r hr => hP.mono hle (hfound.types r hr)

theorem define {ctx : Context} (h : ctx.Holds P) (name : Name) {type : Ty}
    (htype : P ctx.nextTag type) : (ctx.define name type).Holds P := by
  constructor
  . rw [nextTag_define]
    exact scope_define_within h.scope name htype
  . rw [nextTag_define, records_define]
    exact h.records

end Holds

theorem Step.holds (hP : Ty.Invariant P) {a b : Context} (hstep : Step P a b) (h : a.Holds P) :
    b.Holds P := by
  cases hstep with
  | add hfound => exact h.add hP hfound
  | note entry => exact ⟨h.scope, h.records⟩
  | draw hn => exact h.draw hP hn
  | push => exact ⟨h.scope.push, h.records⟩
  | pop => exact ⟨h.scope.pop, h.records⟩
  | define name htype => exact h.define name htype
  | predefine htype => exact ⟨scope_predefine_within h.scope htype, h.records⟩

theorem Step.nextTag_le {a b : Context} (hstep : Step P a b) : a.nextTag ≤ b.nextTag := by
  cases hstep with
  | add hfound => exact Nat.le_add_right _ _
  | draw hn => exact hn
  | define name htype => exact Nat.le_of_eq (nextTag_define ..).symm
  | _ => exact Nat.le_refl _

namespace Steps

theorem holds (hP : Ty.Invariant P) {a b : Context} (hsteps : Steps P a b) (h : a.Holds P) :
    b.Holds P := by
  induction hsteps with
  | refl => exact h
  | tail _ hstep ih => exact hstep.holds hP ih

theorem nextTag_le {a b : Context} (hsteps : Steps P a b) : a.nextTag ≤ b.nextTag := by
  induction hsteps with
  | refl => exact Nat.le_refl _
  | tail _ hstep ih => exact Nat.le_trans ih hstep.nextTag_le

theorem foldl {α : Type} (hP : Ty.Invariant P) {f : Context → α → Context} {ctx : Context}
    (h : ctx.Holds P) (xs : List α)
    (hf : ∀ x ∈ xs, ∀ ctx : Context, ctx.Holds P → Steps P ctx (f ctx x)) :
    Steps P ctx (xs.foldl f ctx) := by
  induction xs generalizing ctx with
  | nil => exact .refl
  | cons x xs ih =>
    rw [List.forall_mem_cons] at hf
    have hx := hf.1 ctx h
    exact hx.trans (ih (hx.holds hP h) hf.2)

end Steps

theorem make_define_steps (ctx : Context) (name : Name) (type : Nat → Ty)
    (htype : P (ctx.nextTag + 1) (type ctx.nextTag)) :
    Steps P ctx ((ctx.make type).2.define name (ctx.make type).1) :=
  .tail (.single (.draw ctx (Nat.le_succ _))) (.define _ name htype)

theorem leave_steps (ctx : Context) (kind : RoutineKind) (name : Name) {type : Nat → Ty}
    (htype : P (ctx.nextTag + 1) (type ctx.nextTag)) : Steps P ctx (ctx.leave kind name type) := by
  apply Relation.ReflTransGen.head (.note ctx _)
  apply Relation.ReflTransGen.head (.pop _)
  apply Relation.ReflTransGen.head (.note _ (.leaving kind name.value))
  apply Relation.ReflTransGen.head (.draw _ (Nat.le_succ _))
  exact .head (.add _ ((Findings.within_record _ _).mpr htype)) (.single (.define _ name htype))

end Context

open Context (Steps)

variable {P : Nat → Ty → Prop} (hP : Ty.Invariant P)

include hP

theorem ConstDef.check_steps (d : ConstDef) {ctx : Context} (h : ctx.Holds P) :
    Steps P ctx (d.check ctx) := by
  have hvalue := d.value.check_within (hP.closed ctx.nextTag).builtIn h.scope
  have hadd : Steps P ctx (ctx.add (d.value.check ctx.scope).findings) :=
    .single (.add ctx hvalue.findings)
  have htype := hP.mono (Steps.nextTag_le hadd) hvalue.type
  simp only [ConstDef.check_eq]
  split
  . exact hadd
  . exact hadd.tail (.define _ d.name htype)

theorem TypeName.type_holds (t : TypeName) (n : Nat) : P n t.type :=
  (hP.closed n).builtIn t.type rfl

theorem TypeName.check_steps (t : TypeName) (ctx : Context) : Steps P ctx (t.check ctx) := by
  apply Relation.ReflTransGen.single
  apply Context.Step.add
  simpa using t.type_holds hP ctx.nextTag

theorem TypeDenoter.check_steps (t : TypeDenoter) (ctx : Context) :
    Steps P ctx (t.check ctx).2 ∧ P (t.check ctx).2.nextTag (t.check ctx).1 := by
  induction t generalizing ctx with
  | named name => exact ⟨name.check_steps hP ctx, name.type_holds hP _⟩
  | file info component ih =>
    obtain ⟨hsteps, hcomponent⟩ := ih ctx
    have htype := hP.file hcomponent
    rw [check_file]
    refine ⟨(hsteps.tail (.draw _ (Nat.le_succ _))).tail (.add _ ?_), htype⟩
    exact (Findings.within_record _ _).mpr htype

theorem Context.defineAll_steps (ctx : Context) (names : List Name) {type : Ty}
    (htype : P ctx.nextTag type) : Steps P ctx (ctx.defineAll names type) := by
  induction names generalizing ctx with
  | nil => exact .refl
  | cons name names ih =>
    have hdefine := Step.define ctx name htype
    exact .head hdefine (ih _ (hP.mono hdefine.nextTag_le htype))

theorem VarDecl.check_steps (d : VarDecl) (ctx : Context) : Steps P ctx (d.check ctx) := by
  rw [VarDecl.check_eq]
  obtain ⟨hsteps, htype⟩ := d.type.check_steps hP ctx
  exact hsteps.trans (Context.defineAll_steps hP _ d.names htype)

theorem Group.check_steps (g : Group) (ctx : Context) : Steps P ctx (g.check ctx) := by
  have htype := hP.parameter .formal g.mode (g.type.type_holds hP (g.type.check ctx).nextTag)
  rw [Group.check_eq]
  refine .trans (((g.type.check_steps hP ctx).tail (.draw _ (Nat.le_succ _))).tail (.add _ ?_))
    (Context.defineAll_steps hP _ g.names htype)
  simpa using htype

namespace Routine

theorem type_holds (r : Routine) {params : List Ty} {n : Nat} (hparams : ∀ t ∈ params, P n t) :
    P (n + 1) (r.type params n) := by
  unfold Routine.type
  split
  . exact hP.procedure hparams
  . exact hP.function hparams (TypeName.type_holds hP _ n)

theorem entered_steps (r : Routine) {ctx : Context} (h : ctx.Holds P) :
    Steps P ctx (r.entered ctx) := by
  have hresult : Steps P ctx (r.result?.elim ctx fun result => result.check ctx) := by
    cases r.result? with
    | none => exact .refl
    | some result => exact result.check_steps hP ctx
  have hpush := (hresult.tail (.note _ (.entering r.kind r.name.value))).tail (.push _)
  exact hpush.trans (Steps.foldl hP (Steps.holds hP hpush h) r.groups
    fun g _ ctx _ => g.check_steps hP ctx)

theorem params_hold (r : Routine) {ctx : Context} (h : ctx.Holds P) :
    ∀ t ∈ r.params ctx, P (r.entered ctx).nextTag t := by
  intro t ht
  obtain ⟨e, he, rfl⟩ := List.mem_map.mp ht
  exact ((r.entered_steps hP h).holds hP h).scope e (List.mem_append_left _ he)

theorem inside_steps (r : Routine) {ctx : Context} (h : ctx.Holds P) :
    Steps P ctx (r.inside ctx) :=
  (r.entered_steps hP h).trans
    ((r.entered ctx).make_define_steps r.name _ (r.type_holds hP (r.params_hold hP h)))

theorem steps_of_block (r : Routine)
    (hblock : ∀ ctx : Context, ctx.Holds P → Steps P ctx (r.block.check ctx)) {ctx : Context}
    (h : ctx.Holds P) : Steps P ctx (r.check ctx) := by
  rw [check_eq_inside]
  have hinside := r.inside_steps hP h
  have hdone : Steps P (r.inside ctx) (r.block.check (r.inside ctx)) :=
    hblock _ (hinside.holds hP h)
  have hended : Steps P (r.inside ctx)
      (if r.lacksResult (r.block.check (r.inside ctx)).records (r.own ctx) then
        (r.block.check (r.inside ctx)).add (.error r.name.span (.noResult r.name.value))
      else r.block.check (r.inside ctx)) := by
    split
    . exact hdone.tail (.add _ (by simp))
    . exact hdone
  refine (hinside.trans hended).trans (Context.leave_steps _ r.kind r.name (r.type_holds hP ?_))
  have hafter := ((r.entered ctx).make_define_steps r.name _
    (r.type_holds hP (r.params_hold hP h))).trans hended
  exact fun t ht => hP.mono (Steps.nextTag_le hafter) (r.params_hold hP h t ht)

end Routine

theorem Block.check_steps (b : Block) {ctx : Context} (h : ctx.Holds P) :
    Steps P ctx (b.check ctx) := by
  induction b using Block.nested_induction generalizing ctx with
  | h b ih =>
    rw [Block.check_eq]
    have hconsts := Steps.foldl hP h b.constDefs fun d _ ctx h => ConstDef.check_steps hP d h
    have hvars := hconsts.trans (Steps.foldl hP (hconsts.holds hP h) b.varDecls
      fun d _ ctx _ => VarDecl.check_steps hP d ctx)
    have hroutines := hvars.trans (Steps.foldl hP (Steps.holds hP hvars h) b.routines
      fun r hr ctx h => r.steps_of_block hP (fun _ h => ih r hr h) h)
    have hscope := (Steps.holds hP hroutines h).scope
    exact hroutines.tail (.add _ (b.body.stmt.check_within (hP.closed _) hscope))

theorem Routine.check_steps (r : Routine) {ctx : Context} (h : ctx.Holds P) :
    Steps P ctx (r.check ctx) :=
  r.steps_of_block hP (fun _ h => r.block.check_steps hP h) h

theorem Context.predefineAll_steps (ctx : Context) {table : Predefined}
    (htable : ∀ entry ∈ table, P ctx.nextTag entry.type) : Steps P ctx (ctx.predefineAll table) := by
  have hmaxint : Steps P ctx (ctx.predefine Required.maxint) :=
    .single (.predefine ctx ((hP.closed _).builtIn .integer rfl))
  refine .tail ?_ (.note _ _)
  -- No tags are drawn on the way, so the types of the table stay good.
  refine (List.foldlRecOn (motive := fun ctx' => Steps P ctx ctx' ∧ ctx'.nextTag = ctx.nextTag)
    table _ ⟨hmaxint, rfl⟩ ?_).1
  rintro ctx' ⟨hsteps, htag⟩ entry hentry
  have htype := htable entry hentry
  rw [← htag] at htype
  exact ⟨hsteps.tail (.predefine ctx' htype), htag⟩

theorem Context.checkFile_steps {ctx : Context} (h : ctx.Holds P) (name : Name) :
    Steps P ctx (ctx.checkFile name) := by
  unfold Context.checkFile
  split
  . exact ctx.make_define_steps name (.file · .char) (hP.file ((hP.closed _).builtIn .char rfl))
  . exact .single (.add ctx (Name.check_within (hP.closed _).builtIn h.scope name).findings)

theorem Heading.check_steps (heading : Heading) {ctx : Context} (h : ctx.Holds P) :
    Steps P ctx (heading.check ctx) := by
  have hnote : Steps P ctx (ctx.note (.program heading.name.value)) := .single (.note ctx _)
  rw [Heading.check_eq]
  exact hnote.trans (Steps.foldl hP (hnote.holds hP h) heading.params
    fun name _ ctx h => Context.checkFile_steps hP h name)

theorem Program.check_steps (p : Program) {table : Predefined} {ctx : Context} (h : ctx.Holds P)
    (htable : ∀ entry ∈ table, P ctx.nextTag entry.type) : Steps P ctx (p.check table ctx) := by
  rw [Program.check_eq]
  have htable := ctx.predefineAll_steps hP htable
  have hheading := htable.trans (p.heading.check_steps hP (htable.holds hP h))
  have hblock := hheading.trans (p.block.check_steps hP (Steps.holds hP hheading h))
  exact hblock.tail (.note _ _)

theorem Program.checkWith_steps {p : Program} {table : Predefined} {ctx after : Context}
    (h : ctx.Holds P) (hcheck : p.checkWith table ctx = .ok after) : Steps P ctx after := by
  obtain ⟨⟨made, next⟩, hmade, hcheck⟩ := exists_of_bind_eq_ok hcheck
  obtain ⟨hle, -, hholds⟩ := Predefined.fresh_makes hP hmade
  cases hcheck
  exact .head (.draw ctx hle) (p.check_steps hP (h.draw hP hle) hholds)

end PascalCheck
