import PascalCheck.Proofs.Growth
import PascalCheck.Proofs.Plan
import PascalCheck.Proofs.Typing.Records

/-!
An accepted program hides no error. Where a check reports nothing, it neither binds a name to a
sentinel nor records one, except that a constant that is no value is recorded as such inside the
value of a constant definition.
-/

namespace PascalCheck

mutual

def Block.constIds : Block → List Nat
  | .mk _ consts _ routines _ =>
    ((consts.map (·.defs)).getD []).flatMap (·.value.ids) ++ routines.constIds

def RoutinePart.constIds : RoutinePart → List Nat
  | .absent => []
  | .present _ routines => Routine.allConstIds routines

def Routine.constIds : Routine → List Nat
  | .procedure _ _ _ block => block.constIds
  | .function _ _ _ _ block => block.constIds

def Routine.allConstIds : List Routine → List Nat
  | [] => []
  | r :: rs => r.constIds ++ Routine.allConstIds rs

end

theorem Routine.allConstIds_eq_flatMap (rs : List Routine) :
    Routine.allConstIds rs = rs.flatMap Routine.constIds := by
  induction rs with
  | nil => rfl
  | cons r rs ih => rw [Routine.allConstIds, ih, List.flatMap_cons]

theorem RoutinePart.constIds_eq_flatMap (part : RoutinePart) :
    part.constIds = part.routines.flatMap Routine.constIds := by
  cases part with
  | absent => rfl
  | present _ routines => apply Routine.allConstIds_eq_flatMap

def Ty.Proper (t : Ty) : Prop :=
  t.isClean = true ∧ t.isUniform = true

def Record.Proper (ids : List Nat) (r : Record) : Prop :=
  r.type.isClean = true ∨ r.type = .invalidConstant ∧ r.id ∈ ids

theorem Scope.Within.sound {s : Scope} (h : s.Within Ty.Proper) : s.Sound :=
  ⟨fun e he => (h e he).1, fun e he => (h e he).2⟩

namespace Context

structure Healthy (ids : List Nat) (ctx : Context) : Prop where
  scope : ctx.scope.Within Ty.Proper
  records : ∀ r ∈ ctx.records, r.Proper ids

namespace Healthy

variable {ids : List Nat} {ctx : Context}

theorem add (h : ctx.Healthy ids) {found : Findings} (hfound : ∀ r ∈ found.records, r.Proper ids) :
    (ctx.add found).Healthy ids :=
  ⟨h.scope, List.forall_mem_append.mpr ⟨hfound, h.records⟩⟩

theorem record (h : ctx.Healthy ids) (id : Nat) {type : Ty} (htype : type.isClean = true) :
    (ctx.add (.record id type)).Healthy ids := by
  apply h.add
  intro r hr
  rw [List.mem_singleton.mp hr]
  exact .inl htype

theorem note (h : ctx.Healthy ids) (entry : LogEntry) : (ctx.note entry).Healthy ids :=
  ⟨h.scope, h.records⟩

theorem make (h : ctx.Healthy ids) (type : Nat → Ty) : (ctx.make type).2.Healthy ids :=
  ⟨h.scope, h.records⟩

theorem push (h : ctx.Healthy ids) : ctx.push.Healthy ids :=
  ⟨h.scope.push, h.records⟩

theorem pop (h : ctx.Healthy ids) : ctx.pop.Healthy ids :=
  ⟨h.scope.pop, h.records⟩

theorem define (h : ctx.Healthy ids) (name : Name) {type : Ty} (htype : type.Proper) :
    (ctx.define name type).Healthy ids := by
  refine ⟨scope_define_within h.scope name htype, ?_⟩
  rw [records_define]
  exact h.records

theorem defineAll (h : ctx.Healthy ids) (names : List Name) {type : Ty} (htype : type.Proper) :
    (ctx.defineAll names type).Healthy ids :=
  List.foldlRecOn names _ h fun _ h name _ => h.define name htype

theorem predefine (h : ctx.Healthy ids) {a : Attempt} (htype : a.type.Proper) :
    (ctx.predefine a).Healthy ids :=
  ⟨scope_predefine_within h.scope htype, h.records⟩

theorem foldl {α : Type} {f : Context → α → Context} (h : ctx.Healthy ids) (xs : List α)
    (hextends : ∀ x ∈ xs, ∀ ctx, Extends ctx (f ctx x))
    (hf : ∀ x ∈ xs, ∀ ctx : Context, ctx.Healthy ids → (f ctx x).diagnostics = [] →
      (f ctx x).Healthy ids)
    (hsilent : (xs.foldl f ctx).diagnostics = []) : (xs.foldl f ctx).Healthy ids := by
  induction xs generalizing ctx with
  | nil => exact h
  | cons x xs ih =>
    rw [List.forall_mem_cons] at hextends hf
    -- The later checks only add, so the first one was silent if all of them are.
    have hrest := Extends.foldl (f ctx x) xs hextends.2
    exact ih (hf.1 ctx h (hrest.nil_of_nil hsilent)) hextends.2 hf.2 hsilent

end Healthy

end Context

theorem Const.Typed.isUniform {scope : Scope} (hscope : scope.Sound) {c : Const} {t : Ty}
    (h : c.Typed scope t) : t.isUniform = true := by
  induction h with
  | signed _ _ _ ih => exact ih
  | named h => exact hscope.uniform_of_lookup? h
  | signedNamed h _ => exact hscope.uniform_of_lookup? h
  | _ => rfl

theorem Const.records_proper {scope : Scope} (hscope : scope.Sound) {c : Const} {ids : List Nat}
    (hids : ∀ id ∈ c.ids, id ∈ ids) (hsilent : (c.check scope).findings.Silent) :
    ∀ r ∈ (c.check scope).findings.records, r.Proper ids := by
  intro r hr
  obtain ⟨htype, hid⟩ := c.records_of_silent hsilent r hr
  unfold Record.Proper
  rw [htype]
  cases Const.typed_of_silent hscope hsilent with
  | inl hinvalid => exact .inr ⟨hinvalid, hids r.id hid⟩
  | inr htyped => exact .inl (htyped.isClean hscope)

variable {ids : List Nat} {ctx : Context}

theorem Context.add_silent_iff (found : Findings) :
    (ctx.add found).diagnostics = [] ↔ ctx.diagnostics = [] ∧ found.Silent :=
  List.append_eq_nil_iff

theorem ConstDef.check_healthy {d : ConstDef} (hids : ∀ id ∈ d.value.ids, id ∈ ids)
    (h : ctx.Healthy ids) (hsilent : (d.check ctx).diagnostics = []) :
    (d.check ctx).Healthy ids := by
  have hscope := h.scope.sound
  simp only [ConstDef.check_eq] at hsilent ⊢
  split at hsilent
  next hinvalid =>
    rw [if_pos hinvalid]
    exact h.add (Const.records_proper hscope hids ((Context.add_silent_iff _).mp hsilent).2)
  next hvalid =>
    rw [if_neg hvalid]
    have hadd := (Context.Extends.define _ _ _).nil_of_nil hsilent
    have hvalue := ((Context.add_silent_iff _).mp hadd).2
    have htyped : d.value.Typed ctx.scope (d.value.check ctx.scope).type := by
      apply (Const.typed_of_silent hscope hvalue).resolve_left
      intro htype
      rw [htype] at hvalid
      exact hvalid rfl
    exact (h.add (Const.records_proper hscope hids hvalue)).define d.name
      ⟨htyped.isClean hscope, htyped.isUniform hscope⟩

theorem TypeName.check_healthy (t : TypeName) (h : ctx.Healthy ids) :
    (t.check ctx).Healthy ids :=
  h.record t.info.id rfl

theorem TypeDenoter.check_healthy (t : TypeDenoter) (h : ctx.Healthy ids) :
    (t.check ctx).2.Healthy ids ∧ (t.check ctx).1.Proper := by
  induction t generalizing ctx with
  | named name => exact ⟨name.check_healthy h, rfl, rfl⟩
  | file info component ih =>
    obtain ⟨hcomponent, hproper⟩ := ih h
    rw [check_file]
    exact ⟨(hcomponent.make (.file · (component.check ctx).1)).record info.id hproper.1,
      hproper.1, rfl⟩

theorem VarDecl.check_healthy (d : VarDecl) (h : ctx.Healthy ids) : (d.check ctx).Healthy ids := by
  obtain ⟨htype, hproper⟩ := d.type.check_healthy h
  rw [VarDecl.check_eq]
  exact htype.defineAll d.names hproper

theorem Group.check_healthy (g : Group) (h : ctx.Healthy ids) : (g.check ctx).Healthy ids := by
  have hmake := (g.type.check_healthy h).make (.parameter · .formal g.mode g.type.type)
  rw [Group.check_eq]
  exact (hmake.record g.info.id rfl).defineAll g.names ⟨rfl, rfl⟩

namespace Context

theorem leave_healthy (h : ctx.Healthy ids) (kind : RoutineKind) (name : Name) {type : Nat → Ty}
    (htype : ∀ n, (type n).Proper) : (ctx.leave kind name type).Healthy ids :=
  (((((h.note _).pop.note (.leaving kind name.value)).make type).record name.id
    (htype _).1).define name (htype _))

end Context

theorem Stmt.check_healthy {s : Stmt} (h : ctx.Healthy ids)
    (hsilent : (ctx.add (s.check ctx.scope)).diagnostics = []) :
    (ctx.add (s.check ctx.scope)).Healthy ids := by
  have hwellFormed := wellFormed_of_silent h.scope.sound ((Context.add_silent_iff _).mp hsilent).2
  have hclean := hwellFormed.findings_clean h.scope.sound
  exact h.add fun r hr => .inl (hclean.types r hr)

def Context.Preserves (ids : List Nat) (f : Context → Context) : Prop :=
  ∀ ctx : Context, ctx.Healthy ids → (f ctx).diagnostics = [] → (f ctx).Healthy ids

namespace Routine

theorem entered_healthy (r : Routine) (h : ctx.Healthy ids) : (r.entered ctx).Healthy ids := by
  unfold entered
  cases r.result? with
  | none => exact List.foldlRecOn r.groups _ (h.note _).push fun _ h g _ => g.check_healthy h
  | some result =>
    exact List.foldlRecOn r.groups _ ((result.check_healthy h).note _).push
      fun _ h g _ => g.check_healthy h

theorem type_proper (r : Routine) (h : ctx.Healthy ids) (n : Nat) :
    (r.type (r.params ctx) n).Proper := by
  have hparams : Ty.allClean (r.params ctx) = true := by
    rw [Ty.allClean_iff, params, List.forall_mem_map]
    exact fun e he => ((r.entered_healthy h).scope e (List.mem_append_left _ he)).1
  unfold type
  split
  . exact ⟨hparams, rfl⟩
  . refine ⟨?_, rfl⟩
    rw [Ty.isClean, hparams]
    rfl

theorem inside_healthy (r : Routine) (h : ctx.Healthy ids) : (r.inside ctx).Healthy ids :=
  ((r.entered_healthy h).make _).define r.name (r.type_proper h _)

theorem check_preserves {r : Routine} (hblock : Context.Preserves ids r.block.check) :
    Context.Preserves ids r.check := by
  intro ctx h hsilent
  rw [check_eq_inside] at hsilent ⊢
  simp only at hsilent ⊢
  have hended := (Context.leave_extends _ _ _ _).nil_of_nil hsilent
  refine Context.leave_healthy ?_ r.kind r.name (r.type_proper h)
  split at hended
  . cases ((Context.add_silent_iff _).mp hended).2
  next hgives =>
    rw [if_neg hgives]
    exact hblock _ (r.inside_healthy h) hended

end Routine

namespace Block

theorem upTo_healthy {b : Block} {rs : List Routine}
    (hids : ∀ d ∈ b.constDefs, ∀ id ∈ d.value.ids, id ∈ ids)
    (hrs : ∀ r ∈ rs, Context.Preserves ids r.check) (h : ctx.Healthy ids)
    (hsilent : (b.upTo rs ctx).diagnostics = []) : (b.upTo rs ctx).Healthy ids := by
  -- Silence is carried from the end back to the constants, health from the start on.
  have hvars := (Context.Extends.foldl _ rs fun r _ => r.check_extends).nil_of_nil hsilent
  have hconsts := (Context.Extends.foldl _ b.varDecls fun d _ => d.check_extends).nil_of_nil hvars
  have h := h.foldl b.constDefs (fun d _ => d.check_extends)
    (fun d hd _ => ConstDef.check_healthy (hids d hd)) hconsts
  have h := List.foldlRecOn b.varDecls (fun ctx d => d.check ctx) h fun _ h d _ => d.check_healthy h
  exact h.foldl rs (fun r _ => r.check_extends) hrs hsilent

theorem constIds_eq (b : Block) :
    b.constIds = b.constDefs.flatMap (·.value.ids) ++ b.routines.flatMap (·.block.constIds) := by
  have hroutine : Routine.constIds = fun r => r.block.constIds := by
    funext r
    cases r <;> rfl
  cases b with
  | mk info consts vars part body =>
    rw [constIds, RoutinePart.constIds_eq_flatMap, hroutine]
    rfl

theorem forall_mem_constIds {b : Block} {P : Nat → Prop} :
    (∀ id ∈ b.constIds, P id) ↔ (∀ d ∈ b.constDefs, ∀ id ∈ d.value.ids, P id) ∧
      ∀ r ∈ b.routines, ∀ id ∈ r.block.constIds, P id := by
  rw [constIds_eq, List.forall_mem_append, List.forall_mem_flatMap, List.forall_mem_flatMap]

theorem check_preserves {b : Block} (hids : ∀ id ∈ b.constIds, id ∈ ids) :
    Context.Preserves ids b.check := by
  induction b using Block.nested_induction with
  | h b ih =>
    intro ctx h hsilent
    rw [forall_mem_constIds] at hids
    rw [check_eq_declare] at hsilent ⊢
    have hdeclare := ((Context.add_silent_iff _).mp hsilent).1
    have hroutines : ∀ r ∈ b.routines, Context.Preserves ids r.check :=
      fun r hr => Routine.check_preserves (ih r hr (hids.2 r hr))
    have h := upTo_healthy hids.1 hroutines h hdeclare
    exact Stmt.check_healthy h hsilent

end Block

theorem Context.predefineAll_healthy (h : ctx.Healthy ids) {table : Predefined}
    (htable : ∀ entry ∈ table, entry.type.Proper) : (ctx.predefineAll table).Healthy ids := by
  have hmaxint : (ctx.predefine Required.maxint).Healthy ids := h.predefine ⟨rfl, rfl⟩
  refine Healthy.note ?_ _
  exact List.foldlRecOn table _ hmaxint fun _ h entry hentry =>
    h.predefine (htable entry hentry)

theorem Context.checkFile_healthy (h : ctx.Healthy ids) (name : Name) :
    (ctx.checkFile name).Healthy ids := by
  unfold Context.checkFile
  split
  . exact (h.make (.file · .char)).define name ⟨rfl, rfl⟩
  . apply h.add
    simp [Name.records_check]

theorem Program.starting_healthy (p : Program) {table : Predefined}
    (htable : ∀ entry ∈ table, entry.type.Proper) (h : ctx.Healthy ids) :
    (p.starting table ctx).Healthy ids := by
  have hpredefined := Context.predefineAll_healthy h htable
  rw [Program.starting, Heading.check_eq]
  exact List.foldlRecOn p.heading.params Context.checkFile
    (hpredefined.note (.program p.heading.name.value))
    fun _ h name _ => Context.checkFile_healthy h name

theorem Program.check_healthy (p : Program) {table : Predefined}
    (htable : ∀ entry ∈ table, entry.type.Proper) (h : ctx.Healthy p.block.constIds)
    (hsilent : (p.check table ctx).diagnostics = []) :
    (p.check table ctx).Healthy p.block.constIds := by
  rw [Program.check_eq] at hsilent ⊢
  exact (Block.check_preserves (fun _ hid => hid) _ (p.starting_healthy htable h) hsilent).note _

namespace Ty

theorem allClean_relabelAll {f : Nat → Nat} {ts : List Ty}
    (ih : ∀ t ∈ ts, (t.relabel f).isClean = t.isClean) :
    allClean (relabelAll f ts) = allClean ts := by
  induction ts with
  | nil => rfl
  | cons t ts ihts =>
    rw [List.forall_mem_cons] at ih
    rw [relabelAll, allClean, allClean, ih.1, ihts ih.2]

theorem isClean_relabel (f : Nat → Nat) (t : Ty) : (t.relabel f).isClean = t.isClean := by
  induction t using Ty.induction with
  | primitive p => rfl
  | sentinel s => rfl
  | file tag component ih => exact ih
  | parameter tag role mode type ih => exact ih
  | procedure tag params ih => exact allClean_relabelAll ih
  | function tag params result ih ihresult =>
    rw [relabel, isClean, isClean, allClean_relabelAll ih, ihresult]
  | overload tag alternatives ih => exact allClean_relabelAll ih

theorem isUniform_relabel (f : Nat → Nat) (t : Ty) : (t.relabel f).isUniform = t.isUniform := by
  cases t with
  | overload tag alternatives =>
    have hfunction : isFunction ∘ relabel f = isFunction := by
      funext t
      cases t <;> rfl
    have hprocedure : isProcedure ∘ relabel f = isProcedure := by
      funext t
      cases t <;> rfl
    rw [relabel, isUniform, isUniform, relabelAll_eq_map, List.all_map, List.all_map, hfunction,
      hprocedure]
  | _ => rfl

theorem Proper.of_form_eq {t u : Ty} (h : t.Proper) (hform : u.form = t.form) : u.Proper := by
  unfold Proper at h ⊢
  rw [← isClean_relabel (fun _ => 0), ← isUniform_relabel (fun _ => 0)] at h ⊢
  unfold form at hform
  rw [hform]
  exact h

end Ty

theorem Predefined.proper_of_sameForm {table made : Predefined} (h : made.SameForm table)
    (htable : ∀ entry ∈ table, entry.type.Proper) : ∀ entry ∈ made, entry.type.Proper := by
  induction h with
  | nil => simp
  | cons hentry _ ih =>
    rw [List.forall_mem_cons] at htable ⊢
    exact ⟨htable.1.of_form_eq hentry.form, ih htable.2⟩

theorem Required.fresh_table :
    ∃ made next, Required.table.fresh Context.empty.nextTag = .ok (made, next) :=
  ⟨_, _, rfl⟩

theorem Required.table_proper : ∀ entry ∈ Required.table, entry.type.Proper := by
  unfold Ty.Proper
  decide

theorem Context.empty_healthy (ids : List Nat) (n : Nat) :
    Context.Healthy ids { Context.empty with nextTag := n } := by
  constructor
  . simp [Scope.Within, Scope.entries, Context.empty, Scope.empty]
  . simp [Context.empty]

theorem Context.diagnostics_of_errorCount {before : Context} (hbefore : before.diagnostics = [])
    (h : Extends before ctx) (hcount : ctx.errorCount = 0) : ctx.diagnostics = [] := by
  obtain ⟨ds, hds, herrors⟩ := h.diagnostics
  rw [hbefore, List.nil_append] at hds
  unfold errorCount Diagnostic.errorCount at hcount
  rw [hds, List.countP_eq_zero] at hcount
  rw [hds, List.eq_nil_iff_forall_not_mem]
  -- Whatever was reported would have been counted, since a check reports errors only.
  intro d hd
  exact hcount d hd (by simp [herrors d hd])

theorem Record.Proper.not_error {ids : List Nat} {r : Record} (h : r.Proper ids) :
    r.type ≠ .undefined ∧ r.type ≠ .error ∧ (r.type = .invalidConstant → r.id ∈ ids) := by
  rcases h with hclean | ⟨hinvalid, hid⟩
  . refine ⟨?_, ?_, ?_⟩
    all_goals
      intro h
      rw [h] at hclean
      cases hclean
  . rw [hinvalid]
    exact ⟨nofun, nofun, fun _ => hid⟩

namespace Program

theorem checkWith_required (p : Program) :
    ∃ ctx, p.checkWith Required.table .empty = .ok ctx ∧ Context.Extends .empty ctx ∧
      (ctx.diagnostics = [] → ctx.Healthy p.block.constIds) := by
  obtain ⟨made, next, hmade⟩ := Required.fresh_table
  have hcheck := p.checkWith_of_fresh hmade
  refine ⟨_, hcheck, (checkWith_steps .trivial (.trivial _) hcheck).extends, ?_⟩
  have hforms := (Predefined.fresh_makes .trivial hmade).2.1
  exact p.check_healthy (Predefined.proper_of_sameForm hforms Required.table_proper)
    (Context.empty_healthy _ next)

theorem accepts_without_hidden_errors (p : Program) :
    ∃ ctx, p.checkWith Required.table .empty = .ok ctx ∧
      (ctx.errorCount = 0 →
        (∀ r ∈ ctx.records, r.type ≠ .undefined ∧ r.type ≠ .error ∧
          (r.type = .invalidConstant → r.id ∈ p.block.constIds)) ∧
        ∀ e ∈ ctx.scope.entries, e.type.isSentinel = false) := by
  obtain ⟨ctx, hcheck, hextends, hhealthy⟩ := p.checkWith_required
  refine ⟨ctx, hcheck, fun hcount => ?_⟩
  have h := hhealthy (Context.diagnostics_of_errorCount rfl hextends hcount)
  constructor
  . intro r hr
    exact (h.records r hr).not_error
  . intro e he
    exact Ty.isSentinel_eq_false_of_isClean (h.scope e he).1

end Program

def Sample.quiet : Program :=
  -- `program p; const big = 99999999999; var n: integer; begin n := abs(1) end.`
  let node (id : Nat) : Info := { here with id }
  ⟨node 0, ⟨node 1, ⟨node 2, "p"⟩, []⟩,
    .mk (node 3)
      (some ⟨node 4, [⟨node 5, ⟨node 6, "big"⟩, .integer (node 7) ⟨node 8, "99999999999"⟩⟩]⟩)
      (some ⟨node 9, [⟨node 10, [⟨node 11, "n"⟩], .named ⟨node 12, ⟨node 13, .integer⟩⟩⟩]⟩)
      .absent
      ⟨node 14, .compound (node 15) [.assign (node 16) ⟨node 17, ⟨node 18, "n"⟩⟩
        (.call (node 19) ⟨node 20, "abs"⟩ [.const (node 21) (.integer (node 22) ⟨node 23, "1"⟩)])]⟩⟩

theorem Sample.quiet_accepted :
    ∃ ctx, Sample.quiet.checkWith Required.table .empty = .ok ctx ∧ ctx.errorCount = 0 ∧
      ctx.records.type? 7 = some .invalidConstant ∧
      ∀ r ∈ ctx.records, r.type = .invalidConstant → r.id = 7 := by
  obtain ⟨ctx, hcheck, h⟩ := Sample.quiet.accepts_without_hidden_errors
  have hrun : (Sample.quiet.checkWith Required.table .empty).toOption.map
      (fun ctx => (ctx.errorCount, (ctx.records.type? 7).map Ty.isInvalidConstant)) =
      some (0, some true) := by
    decide +kernel
  rw [hcheck] at hrun
  obtain ⟨hcount, htype⟩ := Prod.mk.inj (Option.some.inj hrun)
  obtain ⟨t, htype, hinvalid⟩ := Option.map_eq_some_iff.mp htype
  rw [t.isInvalidConstant_iff.mp hinvalid] at htype
  refine ⟨ctx, hcheck, hcount, htype, ?_⟩
  intro r hr hinvalid
  exact List.mem_singleton.mp (((h hcount).1 r hr).2.2 hinvalid)

end PascalCheck
