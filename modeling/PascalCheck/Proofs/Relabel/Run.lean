import PascalCheck.Proofs.Fresh
import PascalCheck.Proofs.Plan
import PascalCheck.Proofs.Relabel.Stmt

/-!
A check that starts in some context runs side by side with one that starts without a history. The
second run has the same scope, but its tags count from the start of the check, and everything that
was made before the start has the tag 0.
-/

namespace PascalCheck

def since (start tag : Nat) : Nat :=
  tag + 1 - start

theorem since_of_lt {start tag : Nat} (h : tag < start) : since start tag = 0 := by
  unfold since
  omega

theorem since_add {start tag : Nat} (h : start ≤ tag) (n : Nat) :
    since start (tag + n) = since start tag + n := by
  unfold since
  omega

theorem since_inj {start tag tag' : Nat} (h : start ≤ tag) :
    since start tag = since start tag' ↔ tag = tag' := by
  unfold since
  omega

variable [Naming]

namespace Scope

variable (f : Nat → Nat)

theorem push_relabel (s : Scope) : (s.relabel f).push = s.push.relabel f := rfl

theorem pop?_relabel (s : Scope) : (s.relabel f).pop? = s.pop?.map (relabel f) := by
  rcases s with ⟨inner, _ | ⟨frame, outer⟩⟩
  . rfl
  . rfl

theorem frame_insert?_relabel (frame : Frame) (e : Entry) :
    (frame.relabel f).insert? (e.relabel f) = (frame.insert? e).map (Frame.relabel f) := by
  unfold Frame.insert?
  have hindex : (frame.relabel f).index.lookup (e.relabel f).name = frame.index.lookup e.name := rfl
  split
  next h =>
    rw [dif_pos (hindex.symm.trans h), Option.map_some, Option.some.injEq]
    apply Frame.ext
    . simp [Frame.relabel, Frame.append]
    . simp [Frame.relabel, Frame.append, Entry.relabel]
  next h =>
    rw [dif_neg fun hnone => h (hindex.trans hnone)]
    rfl

theorem define?_relabel (s : Scope) (name : String) (type : Ty) (place : Option Span) :
    (s.relabel f).define? name (type.relabel f) place =
      (s.define? name type place).map (relabel f) := by
  unfold define?
  have hinsert := frame_insert?_relabel f s.inner ⟨canonicalName name, type, place⟩
  rw [Option.map_map, show (s.relabel f).inner.insert? ⟨canonicalName name, type.relabel f, place⟩ =
    (s.inner.insert? ⟨canonicalName name, type, place⟩).map (Frame.relabel f) from hinsert,
    Option.map_map]
  rfl

theorem types_relabel (s : Scope) :
    (s.relabel f).inner.entries.map (·.type) =
      (s.inner.entries.map (·.type)).map (Ty.relabel f) := by
  simp [relabel, Frame.relabel, Entry.relabel]

end Scope

namespace Context

/-- From `before`, a check has come to `ctx`; without a history it would have come to `model`. -/
structure Follows (before ctx model : Context) : Prop where
  scope : model.scope = ctx.scope.relabel (since before.nextTag)
  le : before.nextTag ≤ ctx.nextTag
  nextTag : model.nextTag = since before.nextTag ctx.nextTag
  diagnostics : ctx.diagnostics = before.diagnostics ++ model.diagnostics
  records : ∃ new, ctx.records = new ++ before.records ∧
    model.records = new.map (Record.relabel (since before.nextTag))

namespace Follows

variable {before ctx model : Context}

theorem add (h : Follows before ctx model) (found : Findings) :
    Follows before (ctx.add found) (model.add (found.relabel (since before.nextTag))) := by
  obtain ⟨new, hrecords, hmodel⟩ := h.records
  refine ⟨h.scope, Nat.le_add_right_of_le h.le, ?_, ?_, found.records ++ new, ?_, ?_⟩
  . simp [Context.add, Findings.relabel, h.nextTag, since_add h.le]
  . simp [Context.add, Findings.relabel, h.diagnostics]
  . simp [Context.add, hrecords]
  . simp [Context.add, Findings.relabel, hmodel]

theorem note (h : Follows before ctx model) (entry entry' : LogEntry) :
    Follows before (ctx.note entry) (model.note entry') :=
  ⟨h.scope, h.le, h.nextTag, h.diagnostics, h.records⟩

theorem record (h : Follows before ctx model) (id : Nat) {type type' : Ty}
    (htype : type' = type.relabel (since before.nextTag)) :
    Follows before (ctx.add (.record id type)) (model.add (.record id type')) := by
  rw [htype, ← Findings.relabel_record]
  exact h.add (.record id type)

theorem make (h : Follows before ctx model) (type type' : Nat → Ty)
    (htype : ∀ n, type' (since before.nextTag n) = (type n).relabel (since before.nextTag)) :
    Follows before (ctx.make type).2 (model.make type').2 ∧
      (model.make type').1 = (ctx.make type).1.relabel (since before.nextTag) := by
  constructor
  . refine ⟨h.scope, Nat.le_succ_of_le h.le, ?_, h.diagnostics, h.records⟩
    have hnext := since_add h.le 1
    rw [← h.nextTag] at hnext
    exact hnext.symm
  . have hmade := htype ctx.nextTag
    rw [← h.nextTag] at hmade
    exact hmade

theorem push (h : Follows before ctx model) : Follows before ctx.push model.push := by
  refine ⟨?_, h.le, h.nextTag, h.diagnostics, h.records⟩
  unfold Context.push
  rw [h.scope, Scope.push_relabel]

theorem pop (h : Follows before ctx model) : Follows before ctx.pop model.pop := by
  refine ⟨?_, h.le, h.nextTag, h.diagnostics, h.records⟩
  unfold Context.pop
  rw [h.scope, Scope.pop?_relabel]
  cases ctx.scope.pop? <;> rfl

theorem define (h : Follows before ctx model) (name : Name) {type type' : Ty}
    (htype : type' = type.relabel (since before.nextTag)) :
    Follows before (ctx.define name type) (model.define name type') := by
  unfold Context.define
  rw [htype, h.scope, Scope.define?_relabel, Scope.getInner?_relabel]
  cases ctx.scope.define? name.value type (some name.span) with
  | some scope => exact ⟨rfl, h.le, h.nextTag, h.diagnostics, h.records⟩
  | none =>
    cases ctx.scope.getInner? name.value with
    | none => exact h.add (.reports [redeclaration name none])
    | some e => exact h.add (.reports [redeclaration name e.place])

theorem foldl {α : Type} (h : Follows before ctx model) (f : Context → α → Context) (xs : List α)
    (hf : ∀ x ∈ xs, ∀ ctx model, Follows before ctx model →
      Follows before (f ctx x) (f model x)) :
    Follows before (xs.foldl f ctx) (xs.foldl f model) :=
  List.foldl_rel h hf

theorem defineAll (h : Follows before ctx model) (names : List Name) {type type' : Ty}
    (htype : type' = type.relabel (since before.nextTag)) :
    Follows before (ctx.defineAll names type) (model.defineAll names type') :=
  List.foldl_rel h fun name _ _ _ h => h.define name htype

theorem predefine (h : Follows before ctx model) (a : Attempt) :
    Follows before (ctx.predefine a)
      (model.predefine { a with type := a.type.relabel (since before.nextTag) }) := by
  refine ⟨?_, h.le, h.nextTag, h.diagnostics, h.records⟩
  unfold Context.predefine
  rw [h.scope, Scope.define?_relabel]
  cases ctx.scope.define? a.name a.type a.place <;> rfl

end Follows

end Context

open Context (Follows)

variable {before ctx model : Context}

theorem ConstDef.check_follows (d : ConstDef) (h : Follows before ctx model) :
    Follows before (d.check ctx) (d.check model) := by
  have hadd := h.add (d.value.check ctx.scope).findings
  simp only [ConstDef.check_eq, h.scope, Const.check_relabel, Typing.type_relabel,
    Typing.findings_relabel, Ty.isInvalidConstant_relabel]
  split
  . exact hadd
  . exact hadd.define d.name rfl

theorem TypeName.check_follows (t : TypeName) (h : Follows before ctx model) :
    Follows before (t.check ctx) (t.check model) :=
  h.record t.info.id rfl

theorem TypeDenoter.check_follows (t : TypeDenoter) (h : Follows before ctx model) :
    Follows before (t.check ctx).2 (t.check model).2 ∧
      (t.check model).1 = (t.check ctx).1.relabel (since before.nextTag) := by
  induction t generalizing ctx model with
  | named name => exact ⟨name.check_follows h, rfl⟩
  | file info component ih =>
    obtain ⟨hcomponent, htype⟩ := ih h
    obtain ⟨hmake, hfile⟩ := hcomponent.make (.file · (component.check ctx).1)
      (.file · (component.check model).1) fun n => congrArg (Ty.file _) htype
    rw [check_file, check_file]
    exact ⟨hmake.record info.id hfile, hfile⟩

theorem VarDecl.check_follows (d : VarDecl) (h : Follows before ctx model) :
    Follows before (d.check ctx) (d.check model) := by
  obtain ⟨hcheck, htype⟩ := d.type.check_follows h
  rw [VarDecl.check_eq, VarDecl.check_eq]
  exact hcheck.defineAll d.names htype

theorem Group.check_follows (g : Group) (h : Follows before ctx model) :
    Follows before (g.check ctx) (g.check model) := by
  obtain ⟨hmake, hparameter⟩ := (g.type.check_follows h).make
    (.parameter · .formal g.mode g.type.type) (.parameter · .formal g.mode g.type.type) fun _ => rfl
  rw [Group.check_eq, Group.check_eq]
  exact (hmake.record g.info.id hparameter).defineAll g.names hparameter

namespace Context

theorem leave_follows (h : Follows before ctx model) (kind : RoutineKind) (name : Name)
    (type type' : Nat → Ty)
    (htype : ∀ n, type' (since before.nextTag n) = (type n).relabel (since before.nextTag)) :
    Follows before (ctx.leave kind name type) (model.leave kind name type') := by
  have hpop := (h.note
    (.scopeOf name.value (ctx.scope.inner.entries.map fun e => (e.name, e.type.text)))
    (.scopeOf name.value (model.scope.inner.entries.map fun e => (e.name, e.type.text)))).pop
  have hleaving := hpop.note (.leaving kind name.value) (.leaving kind name.value)
  obtain ⟨hmake, hmade⟩ := hleaving.make type type' htype
  exact (hmake.record name.id hmade).define name hmade

end Context

namespace Ty

def Below (n : Nat) (t : Ty) : Prop :=
  ∀ k ∈ t.tags, k < n

theorem same_relabel {start tag : Nat} (h : start ≤ tag) (params : List Ty) (result t : Ty) :
    ((Ty.function tag params result).relabel (since start)).same (t.relabel (since start)) =
      (Ty.function tag params result).same t := by
  rw [Bool.eq_iff_iff]
  cases t <;> simp [relabel, same, identity, since_inj h]

theorem same_eq_false_of_below {start tag : Nat} (h : start ≤ tag) (params : List Ty)
    (result : Ty) {t : Ty} (ht : t.Below start) :
    (Ty.function tag params result).same t = false := by
  have hne (k : Nat) (hk : k ∈ t.tags) : tag ≠ k := by
    have := ht k hk
    omega
  cases t with
  | primitive p => rfl
  | sentinel s => rfl
  | _ => simp [same, identity, hne _ (List.mem_cons_self ..)]

end Ty

namespace Records

theorem type?_append (new old : Records) (id : Nat) :
    Records.type? (new ++ old) id = (Records.type? new id).or (Records.type? old id) := by
  unfold Records.type?
  rw [List.find?_append, Option.map_or]

theorem type?_relabel (f : Nat → Nat) (records : Records) (id : Nat) :
    Records.type? (records.map (Record.relabel f)) id =
      (records.type? id).map (Ty.relabel f) := by
  unfold Records.type?
  rw [List.find?_map, Option.map_map, Option.map_map]
  rfl

theorem exists_of_type?_eq_some {records : Records} {id : Nat} {t : Ty}
    (h : records.type? id = some t) : ∃ r ∈ records, r.type = t := by
  obtain ⟨r, hr, rfl⟩ := Option.map_eq_some_iff.mp h
  exact ⟨r, List.mem_of_find?_eq_some hr, rfl⟩

end Records

theorem Block.givesResult_follows (h : Follows before ctx model)
    (hbefore : ∀ r ∈ before.records, r.type.Below before.nextTag) (b : Block) {tag : Nat}
    (htag : before.nextTag ≤ tag) (params : List Ty) (result : Ty) :
    b.givesResult model.records
        ((Ty.function tag params result).relabel (since before.nextTag)) =
      b.givesResult ctx.records (.function tag params result) := by
  obtain ⟨new, hrecords, hmodel⟩ := h.records
  unfold Block.givesResult
  congr 1
  funext s
  rw [hrecords, hmodel, Records.type?_append, Records.type?_relabel]
  cases Records.type? new s.info.id with
  | some t => exact Ty.same_relabel htag params result t
  | none =>
    cases hold : Records.type? before.records s.info.id with
    | none => rfl
    | some t =>
      -- A record from before the check is of an older type than the function.
      obtain ⟨r, hr, rfl⟩ := Records.exists_of_type?_eq_some hold
      exact (Ty.same_eq_false_of_below htag params result (hbefore r hr)).symm

theorem Routine.lacksResult_follows (h : Follows before ctx model)
    (hbefore : ∀ r ∈ before.records, r.type.Below before.nextTag) (r : Routine) {tag : Nat}
    (htag : before.nextTag ≤ tag) (params : List Ty) :
    r.lacksResult model.records ((r.type params tag).relabel (since before.nextTag)) =
      r.lacksResult ctx.records (r.type params tag) := by
  cases r with
  | procedure info name groups b => rfl
  | function info name groups result b =>
    exact congrArg (!·) (b.givesResult_follows h hbefore htag params result.type)

theorem Stmt.check_follows (s : Stmt) (h : Follows before ctx model) :
    Follows before (ctx.add (s.check ctx.scope)) (model.add (s.check model.scope)) := by
  have hadd := h.add (s.check ctx.scope)
  rw [← Stmt.check_relabel, ← h.scope] at hadd
  exact hadd

def Context.Mirrors (before : Context) (f : Context → Context) : Prop :=
  ∀ ctx model, Follows before ctx model → Follows before (f ctx) (f model)

namespace Routine

theorem type_relabel (r : Routine) (params : List Ty) (f : Nat → Nat) (n : Nat) :
    r.type (params.map (Ty.relabel f)) (f n) = (r.type params n).relabel f := by
  cases r with
  | procedure info name groups b =>
    exact (congrArg (Ty.procedure (f n)) (Ty.relabelAll_eq_map f params)).symm
  | function info name groups result b =>
    exact (congrArg (Ty.function (f n) · _) (Ty.relabelAll_eq_map f params)).symm

theorem entered_follows (r : Routine) (h : Follows before ctx model) :
    Follows before (r.entered ctx) (r.entered model) := by
  have hresult : Follows before (r.result?.elim ctx fun result => result.check ctx)
      (r.result?.elim model fun result => result.check model) := by
    cases r.result? with
    | none => exact h
    | some result => exact result.check_follows h
  exact (hresult.note (.entering r.kind r.name.value) (.entering r.kind r.name.value)).push.foldl
    (fun ctx g => g.check ctx) r.groups fun g _ _ _ h => g.check_follows h

theorem params_follows (r : Routine) (h : Follows before ctx model) :
    r.params model = (r.params ctx).map (Ty.relabel (since before.nextTag)) := by
  unfold params
  rw [(r.entered_follows h).scope, Scope.types_relabel]

theorem inside_follows (r : Routine) (h : Follows before ctx model) :
    Follows before (r.inside ctx) (r.inside model) ∧
      r.own model = (r.own ctx).relabel (since before.nextTag) := by
  have htype := r.type_relabel (r.params ctx) (since before.nextTag)
  rw [← r.params_follows h] at htype
  obtain ⟨hmake, hmade⟩ := (r.entered_follows h).make _ _ htype
  exact ⟨hmake.define r.name hmade, hmade⟩

theorem mirrors_of_block (hbefore : ∀ r ∈ before.records, r.type.Below before.nextTag)
    (r : Routine) (hblock : before.Mirrors r.block.check) : before.Mirrors r.check := by
  intro ctx model h
  rw [check_eq_inside, check_eq_inside]
  obtain ⟨hinside, hown⟩ := r.inside_follows h
  have hdone := hblock _ _ hinside
  -- The function was made in this check, which tells it from all that was recorded before.
  have hlacks := r.lacksResult_follows hdone hbefore (r.entered_follows h).le (r.params ctx)
  change r.lacksResult _ ((r.own ctx).relabel _) = r.lacksResult _ (r.own ctx) at hlacks
  simp only [hown, hlacks]
  have htype := r.type_relabel (r.params ctx) (since before.nextTag)
  rw [← r.params_follows h] at htype
  refine Context.leave_follows ?_ r.kind r.name _ _ htype
  split
  . exact hdone.add (.error r.name.span (.noResult r.name.value))
  . exact hdone

end Routine

theorem Block.check_mirrors (hbefore : ∀ r ∈ before.records, r.type.Below before.nextTag)
    (b : Block) : before.Mirrors b.check := by
  induction b using Block.nested_induction with
  | h b ih =>
    intro ctx model h
    rw [Block.check_eq, Block.check_eq]
    have hconsts := h.foldl (fun ctx d => d.check ctx) b.constDefs
      fun d _ _ _ h => ConstDef.check_follows d h
    have hvars := hconsts.foldl (fun ctx d => d.check ctx) b.varDecls
      fun d _ _ _ h => VarDecl.check_follows d h
    have hroutines := hvars.foldl (fun ctx r => r.check ctx) b.routines
      fun r hr _ _ h => r.mirrors_of_block hbefore (ih r hr) _ _ h
    exact b.body.stmt.check_follows hroutines

theorem Context.predefineAll_follows (h : Follows before ctx model) (table : Predefined) :
    Follows before (ctx.predefineAll table)
      (model.predefineAll (table.relabel (since before.nextTag))) := by
  have hmaxint : Follows before (ctx.predefine Required.maxint)
      (model.predefine Required.maxint) := h.predefine Required.maxint
  refine Follows.note ?_ _ _
  unfold Predefined.relabel
  rw [List.foldl_map]
  exact List.foldl_rel hmaxint fun entry _ _ _ h => h.predefine entry

theorem Context.checkFile_follows (h : Follows before ctx model) (name : Name) :
    Follows before (ctx.checkFile name) (model.checkFile name) := by
  unfold Context.checkFile
  split
  . obtain ⟨hmake, hfile⟩ := h.make (.file · .char) (.file · .char) fun _ => rfl
    exact hmake.define name hfile
  . have hadd := h.add (Name.check ctx.scope name).findings
    rw [← Typing.findings_relabel, ← Name.check_relabel, ← h.scope] at hadd
    exact hadd

theorem Program.check_follows (hbefore : ∀ r ∈ before.records, r.type.Below before.nextTag)
    (p : Program) (h : Follows before ctx model) (table : Predefined) :
    Follows before (p.check table ctx)
      (p.check (table.relabel (since before.nextTag)) model) := by
  rw [Program.check_eq, Program.check_eq, Program.starting, Program.starting, Heading.check_eq,
    Heading.check_eq]
  have htable := Context.predefineAll_follows h table
  have hheading := (htable.note (.program p.heading.name.value) (.program p.heading.name.value)).foldl
    Context.checkFile p.heading.params fun name _ _ _ h => Context.checkFile_follows h name
  exact (p.block.check_mirrors hbefore _ _ hheading).note _ _

end PascalCheck
