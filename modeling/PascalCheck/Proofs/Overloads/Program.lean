import PascalCheck.Proofs.Overloads.Order
import PascalCheck.Proofs.Signatures

/-!
Whole programs with overload sets in another order. Two checks of one program run side by side, with
predefined names whose sets differ in the order of their alternatives. Before and after each
declaration, block and routine their contexts differ only in such orders and in the words of reports.
-/

namespace PascalCheck

section Statements

variable {R : Ty → Ty → Prop}

theorem Stmt.checkAll_agrees {s s' : Scope} {stmts : List Stmt}
    (h : ∀ stmt ∈ stmts, (stmt.check s).Agrees R (stmt.check s')) :
    (checkAll s stmts).Agrees R (checkAll s' stmts) := by
  induction stmts with
  | nil => exact .none
  | cons stmt stmts ih =>
    rw [List.forall_mem_cons] at h
    exact h.1.append (ih h.2)

namespace Ty.Reordered

variable {a b : Ty} (h : a.Reordered b)

include h

theorem isFunction : a.isFunction = b.isFunction := by
  cases h <;> rfl

theorem isOrdinal : a.isOrdinal = b.isOrdinal := by
  simp only [Ty.isOrdinal, Ty.isInteger, isChar, Ty.isBoolean, h.equiv_left]

variable {a' b' : Ty} (h' : a'.Reordered b')

include h'

theorem equiv : a.equiv a' = b.equiv b' :=
  (h.equiv_left a').trans (h'.equiv_right b)

theorem converts (charLiteral : Bool) :
    PascalCheck.converts a a' charLiteral = PascalCheck.converts b b' charLiteral := by
  simp only [PascalCheck.converts, Ty.isReal, Ty.isInteger, isChar, isString, h.equiv_left,
    h'.equiv_left]

theorem assignable (charLiteral : Bool) :
    PascalCheck.assignable a a' charLiteral = PascalCheck.assignable b b' charLiteral := by
  rw [PascalCheck.assignable, h.equiv h', h.converts h', PascalCheck.assignable]

theorem judgeAssignment (charLiteral : Bool) :
    (PascalCheck.judgeAssignment a a' charLiteral).fault?.isSome =
        (PascalCheck.judgeAssignment b b' charLiteral).fault?.isSome ∧
      (PascalCheck.judgeAssignment a a' charLiteral).givesResult =
        (PascalCheck.judgeAssignment b b' charLiteral).givesResult := by
  have hassignable := h.assignable h' charLiteral
  simp only [PascalCheck.judgeAssignment, h'.isInvalidConstant, h.isError, h'.isError,
    h.isFunction, hassignable]
  split
  . exact ⟨rfl, rfl⟩
  split
  . exact ⟨rfl, rfl⟩
  split
  . exact ⟨rfl, rfl⟩
  -- No overload set is a routine, so both sides are in the same case.
  cases h with
  | same =>
    cases h' with
    | same => exact ⟨rfl, rfl⟩
    | overload tag tag' hperm hdistinguishable hfunctions =>
      have hset := Ty.Reordered.overload tag tag' hperm hdistinguishable hfunctions
      cases a with
      | function k params result =>
        simp only [hset.equiv_left result, (Ty.Reordered.same result).converts hset, and_self]
      | _ => exact ⟨rfl, rfl⟩
  | overload tag tag' hperm hdistinguishable hfunctions =>
    have hset := Ty.Reordered.overload tag tag' hperm hdistinguishable hfunctions
    cases h' with
    | same =>
      cases a' with
      | function k params result =>
        simp only [hset.assignable (.same result), and_self]
      | _ => exact ⟨rfl, rfl⟩
    | overload => exact ⟨rfl, rfl⟩

end Ty.Reordered

namespace Scope.Relates

variable (hR : Ty.Reorders R) {s s' : Scope} (h : s.Relates R s')

include hR h

theorem checkAssignment (info : Info) (target : Target) (value : Expr) :
    (PascalCheck.checkAssignment s info target value).Agrees R
      (PascalCheck.checkAssignment s' info target value) := by
  have hvalue := h.check hR value
  have htarget := (h.check_name hR target.name).record target.info
  obtain ⟨hfault, hgives⟩ := (hR.reordered htarget.type).judgeAssignment
    (hR.reordered hvalue.type) value.isCharLiteral
  simp only [PascalCheck.checkAssignment, hgives]
  refine ((hvalue.findings.append htarget.findings).append ?_).append ?_
  . split
    next hnone =>
      rw [hnone, Option.isSome_none, eq_comm, Option.isSome_eq_false_iff,
        Option.isNone_iff_eq_none] at hfault
      rw [hfault]
      exact .none
    next fault hsome =>
      rw [hsome, Option.isSome_some, eq_comm, Option.isSome_iff_exists] at hfault
      obtain ⟨fault', hfault⟩ := hfault
      rw [hfault]
      exact .error _ _ _
  . split
    . exact .record info.id htarget.type
    . exact .none

theorem checkCondition (stmt : Conditional) (condition : Expr) :
    (PascalCheck.checkCondition s stmt condition).Agrees R
      (PascalCheck.checkCondition s' stmt condition) := by
  have hcondition := h.check hR condition
  have htype := hR.reordered hcondition.type
  simp only [PascalCheck.checkCondition, htype.isInvalidConstant, htype.isError, htype.isBoolean]
  refine hcondition.findings.append ?_
  split
  . exact .error _ _ _
  . split
    . exact .none
    . exact .error _ _ _

theorem checkLimit (limit : Limit) (control : Name) {t t' : Ty} (ht : R t t') (value : Expr) :
    (PascalCheck.checkLimit s limit control t value).Agrees R
      (PascalCheck.checkLimit s' limit control t' value) := by
  have hvalue := h.check hR value
  have htype := hR.reordered hvalue.type
  simp only [PascalCheck.checkLimit, htype.isInvalidConstant, htype.isError,
    htype.equiv (hR.reordered ht)]
  refine hvalue.findings.append ?_
  split
  . exact .error _ _ _
  . split
    . exact .none
    . exact .error _ _ _

theorem checkControl (control : Target) (initial final : Expr) :
    (PascalCheck.checkControl s control initial final).Agrees R
      (PascalCheck.checkControl s' control initial final) := by
  have hcontrol := (h.check_name hR control.name).record control.info
  have htype := hR.reordered hcontrol.type
  simp only [PascalCheck.checkControl, htype.isError, htype.isOrdinal]
  refine hcontrol.findings.append ?_
  split
  . exact .none
  . split
    . exact (h.checkLimit hR .initial control.name hcontrol.type initial).append
        (h.checkLimit hR .final control.name hcontrol.type final)
    . exact .error _ _ _

theorem checkProcedureCall (place : Span) (callee : Name) (args : Option (List Expr)) :
    (PascalCheck.checkProcedureCall s place callee args).Agrees R
      (PascalCheck.checkProcedureCall s' place callee args) :=
  (h.check_call hR .procedure callee place (Expr.checkAll_agrees fun e _ => h.check hR e)).findings

theorem check_stmt (stmt : Stmt) : (stmt.check s).Agrees R (stmt.check s') := by
  induction stmt using Stmt.induction with
  | assign info target value => exact h.checkAssignment hR info target value
  | call info callee args => exact h.checkProcedureCall hR info.span callee args
  | compound info stmts ih => exact Stmt.checkAll_agrees ih
  | ifThen info condition thenStmt ih => exact (h.checkCondition hR _ condition).append ih
  | ifThenElse info condition thenStmt elseStmt ihthen ihelse =>
    exact ((h.checkCondition hR _ condition).append ihthen).append ihelse
  | repeatUntil info stmts condition ih =>
    exact (Stmt.checkAll_agrees ih).append (h.checkCondition hR _ condition)
  | whileDo info condition body ih => exact (h.checkCondition hR _ condition).append ih
  | forDo info direction control initial final body ih =>
    exact (h.checkControl hR control initial final).append ih
  | empty info => exact .none

end Scope.Relates

end Statements

structure Ty.Rearranged (a b : Ty) : Prop where
  reordered : a.Reordered b
  identity : a.identity = b.identity

theorem Ty.reorders_rearranged : Ty.Reorders Ty.Rearranged :=
  ⟨fun t => ⟨.same t, rfl⟩, Ty.Rearranged.reordered⟩

structure Entry.Rearranged (e e' : Entry) : Prop where
  name : e.name = e'.name
  type : e.type.Rearranged e'.type
  place : e.place = e'.place

def Frame.Rearranged (f f' : Frame) : Prop :=
  List.Forall₂ Entry.Rearranged f.entries f'.entries

structure Scope.Rearranged (s s' : Scope) : Prop where
  inner : s.inner.Rearranged s'.inner
  outer : List.Forall₂ Frame.Rearranged s.outer s'.outer

structure Attempt.Rearranged (a a' : Attempt) : Prop where
  name : a.name = a'.name
  type : a.type.Rearranged a'.type
  place : a.place = a'.place

theorem Attempt.rearranged_refl (a : Attempt) : a.Rearranged a :=
  ⟨rfl, Ty.reorders_rearranged.same a.type, rfl⟩

theorem Frame.rearranged_refl (f : Frame) : f.Rearranged f :=
  List.forall₂_same.mpr fun e _ => ⟨rfl, Ty.reorders_rearranged.same e.type, rfl⟩

theorem Frame.Rearranged.get? {f f' : Frame} (h : f.Rearranged f') (key : String) :
    Option.Rel Entry.Rearranged (f.get? key) (f'.get? key) := by
  rw [f.get?_eq_find?, f'.get?_eq_find?]
  unfold Frame.Rearranged at h
  generalize f.entries = es, f'.entries = es' at h
  induction h with
  | nil => exact .none
  | cons he _ ih =>
    rw [Entry.find?_cons, Entry.find?_cons, he.name]
    split
    . exact .some he
    . exact ih

namespace Scope.Rearranged

theorem refl (s : Scope) : s.Rearranged s :=
  ⟨s.inner.rearranged_refl, List.forall₂_same.mpr fun f _ => f.rearranged_refl⟩

variable {s s' : Scope} (h : s.Rearranged s')

include h

theorem relates : s.Relates Ty.Rearranged s' := by
  intro name
  have hframes : List.Forall₂ Frame.Rearranged (s.inner :: s.outer) (s'.inner :: s'.outer) :=
    .cons h.inner h.outer
  unfold Scope.lookup? Scope.get?
  generalize s.inner :: s.outer = fs, s'.inner :: s'.outer = fs' at hframes
  induction hframes with
  | nil => exact .none
  | @cons f f' _ _ hf _ ih =>
    have hget := hf.get? (canonicalName name)
    rw [List.findSome?_cons, List.findSome?_cons]
    generalize f.get? (canonicalName name) = found, f'.get? (canonicalName name) = found' at hget
    cases hget with
    | none => exact ih
    | some he => exact .some he.type

theorem getInner? (name : String) :
    Option.Rel Entry.Rearranged (s.getInner? name) (s'.getInner? name) :=
  h.inner.get? (canonicalName name)

theorem define? (name : String) {t t' : Ty} (ht : t.Rearranged t') (place : Option Span) :
    Option.Rel Scope.Rearranged (s.define? name t place) (s'.define? name t' place) := by
  have hinner := h.getInner? name
  cases hfound : s.getInner? name with
  | none =>
    cases hfound' : s'.getInner? name with
    | none =>
      rw [s.define?_of_free t place hfound, s'.define?_of_free t' place hfound']
      exact .some ⟨List.rel_append h.inner (.cons ⟨rfl, ht, rfl⟩ .nil), h.outer⟩
    | some e =>
      rw [hfound, hfound'] at hinner
      cases hinner
  | some e =>
    cases hfound' : s'.getInner? name with
    | none =>
      rw [hfound, hfound'] at hinner
      cases hinner
    | some e' =>
      rw [s.define?_of_bound t place hfound, s'.define?_of_bound t' place hfound']
      exact .none

theorem define_getD (name : String) {t t' : Ty} (ht : t.Rearranged t') (place : Option Span) :
    ((s.define? name t place).getD s).Rearranged ((s'.define? name t' place).getD s') := by
  have hdefine := h.define? name ht place
  generalize s.define? name t place = found, s'.define? name t' place = found' at hdefine
  cases hdefine with
  | none => exact h
  | some hscope => exact hscope

theorem push : s.push.Rearranged s'.push :=
  ⟨.nil, .cons h.inner h.outer⟩

theorem pop_getD : (s.pop?.getD s).Rearranged (s'.pop?.getD s') := by
  have houter := h.outer
  unfold Scope.pop?
  generalize hs : s.outer = fs, hs' : s'.outer = fs' at houter
  cases houter with
  | nil => exact h
  | cons hf hfs => exact ⟨hf, hfs⟩

end Scope.Rearranged

namespace Context

/-- The same was reported at the same places, and the same is bound and recorded. -/
structure Rearranged (a b : Context) : Prop where
  scope : a.scope.Rearranged b.scope
  nextTag : a.nextTag = b.nextTag
  marks : a.diagnostics.map (fun d => (d.severity, d.place)) =
    b.diagnostics.map fun d => (d.severity, d.place)
  records : List.Forall₂ (Record.Agrees Ty.Rearranged) a.records b.records

namespace Rearranged

theorem refl (ctx : Context) : ctx.Rearranged ctx :=
  ⟨.refl _, rfl, rfl, Record.agrees_refl Ty.reorders_rearranged _⟩

variable {a b : Context} (h : a.Rearranged b)

include h

theorem reordered : a.scope.Reordered b.scope := by
  intro name
  have hname := h.scope.relates name
  generalize a.scope.lookup? name = found, b.scope.lookup? name = found' at hname
  cases hname with
  | none => exact .none
  | some ht => exact .some ht.reordered

theorem add {found found' : Findings} (hfound : found.Agrees Ty.Rearranged found') :
    (a.add found).Rearranged (b.add found') := by
  refine ⟨h.scope, ?_, ?_, List.rel_append hfound.records h.records⟩
  . simp only [Context.add, h.nextTag, hfound.actuals]
  . have hmarks := hfound.marks
    unfold Findings.marks at hmarks
    simp only [Context.add, List.map_append, h.marks, hmarks]

theorem record (id : Nat) {t t' : Ty} (ht : t = t') :
    (a.add (.record id t)).Rearranged (b.add (.record id t')) := by
  rw [ht]
  exact h.add (.record id (Ty.reorders_rearranged.same t'))

theorem note (entry entry' : LogEntry) : (a.note entry).Rearranged (b.note entry') :=
  ⟨h.scope, h.nextTag, h.marks, h.records⟩

theorem noteScope (routine : String) : (a.noteScope routine).Rearranged (b.noteScope routine) :=
  h.note _ _

theorem make {type type' : Nat → Ty} (htype : ∀ n, type n = type' n) :
    (a.make type).1 = (b.make type').1 ∧ (a.make type).2.Rearranged (b.make type').2 := by
  refine ⟨?_, h.scope, ?_, h.marks, h.records⟩
  . simp only [Context.make, h.nextTag, htype]
  . simp only [Context.make, h.nextTag]

theorem push : a.push.Rearranged b.push :=
  ⟨h.scope.push, h.nextTag, h.marks, h.records⟩

theorem pop : a.pop.Rearranged b.pop :=
  ⟨h.scope.pop_getD, h.nextTag, h.marks, h.records⟩

theorem define (name : Name) {t t' : Ty} (ht : t.Rearranged t') :
    (a.define name t).Rearranged (b.define name t') := by
  have hdefine := h.scope.define? name.value ht (some name.span)
  unfold Context.define
  generalize a.scope.define? name.value t (some name.span) = found,
    b.scope.define? name.value t' (some name.span) = found' at hdefine
  cases hdefine with
  | none => exact h.add ⟨rfl, .nil, rfl⟩
  | some hscope => exact ⟨hscope, h.nextTag, h.marks, h.records⟩

theorem defineAll (names : List Name) {t t' : Ty} (ht : t = t') :
    (a.defineAll names t).Rearranged (b.defineAll names t') := by
  rw [ht]
  exact List.foldl_rel h fun name _ _ _ h => h.define name (Ty.reorders_rearranged.same t')

theorem predefine {attempt attempt' : Attempt} (hattempt : attempt.Rearranged attempt') :
    (a.predefine attempt).Rearranged (b.predefine attempt') := by
  refine ⟨?_, h.nextTag, h.marks, h.records⟩
  rw [Context.predefine, Context.predefine, hattempt.name, hattempt.place]
  exact h.scope.define_getD _ hattempt.type _

theorem predefineAll {table table' : Predefined}
    (htable : List.Forall₂ Attempt.Rearranged table table') :
    (a.predefineAll table).Rearranged (b.predefineAll table') := by
  have hmaxint := h.predefine Required.maxint.rearranged_refl
  unfold Context.predefineAll
  refine Rearranged.note ?_ _ _
  generalize a.predefine Required.maxint = a, b.predefine Required.maxint = b at hmaxint
  clear h
  induction htable generalizing a b with
  | nil => exact hmaxint
  | cons hattempt _ ih => exact ih _ _ (hmaxint.predefine hattempt)

theorem checkFile (name : Name) : (a.checkFile name).Rearranged (b.checkFile name) := by
  unfold Context.checkFile
  split
  . obtain ⟨hmade, hmake⟩ := h.make fun n => (rfl : Ty.file n .char = _)
    simp only [hmade]
    exact hmake.define name (Ty.reorders_rearranged.same _)
  . exact h.add (h.scope.relates.check_name Ty.reorders_rearranged name).findings

theorem leave (kind : RoutineKind) (name : Name) {type type' : Nat → Ty}
    (htype : ∀ n, type n = type' n) :
    (a.leave kind name type).Rearranged (b.leave kind name type') := by
  have hleaving := (h.noteScope name.value).pop.note (.leaving kind name.value)
    (.leaving kind name.value)
  obtain ⟨hmade, hmake⟩ := hleaving.make htype
  have hrecord := hmake.record name.id hmade
  unfold Context.leave
  simp only [hmade] at hrecord ⊢
  exact hrecord.define name (Ty.reorders_rearranged.same _)

end Rearranged

end Context

section Declarations

variable {a b : Context} (h : a.Rearranged b)

include h

theorem TypeDenoter.check_rearranged (t : TypeDenoter) :
    (t.check a).1 = (t.check b).1 ∧ (t.check a).2.Rearranged (t.check b).2 := by
  induction t with
  | named name => exact ⟨rfl, h.record name.info.id rfl⟩
  | file info component ih =>
    obtain ⟨hcomponent, hctx⟩ := ih
    obtain ⟨hfile, hmake⟩ := hctx.make fun n => congrArg (Ty.file n) hcomponent
    rw [check_file, check_file]
    exact ⟨hfile, hmake.record info.id hfile⟩

theorem ConstDef.check_rearranged (d : ConstDef) : (d.check a).Rearranged (d.check b) := by
  have hvalue := h.scope.relates.check_const Ty.reorders_rearranged d.value
  have hadd := h.add hvalue.findings
  simp only [ConstDef.check_eq, hvalue.type.reordered.isInvalidConstant]
  split
  . exact hadd
  . exact hadd.define d.name hvalue.type

theorem VarDecl.check_rearranged (d : VarDecl) : (d.check a).Rearranged (d.check b) := by
  obtain ⟨htype, hctx⟩ := d.type.check_rearranged h
  rw [VarDecl.check_eq, VarDecl.check_eq]
  exact hctx.defineAll d.names htype

theorem Group.check_rearranged (g : Group) : (g.check a).Rearranged (g.check b) := by
  have htypeName := h.record g.type.info.id (rfl : g.type.type = g.type.type)
  obtain ⟨htype, hmake⟩ := htypeName.make fun n =>
    (rfl : Ty.parameter n .formal g.mode g.type.type = _)
  rw [Group.check_eq, Group.check_eq]
  exact (hmake.record g.info.id htype).defineAll g.names htype

theorem Context.Rearranged.same_type? (own : Ty) (id : Nat) :
    (a.records.type? id).any own.same = (b.records.type? id).any own.same := by
  have hrecords := h.records
  unfold Records.type?
  generalize a.records = rs, b.records = rs' at hrecords
  induction hrecords with
  | nil => rfl
  | cons hr _ ih =>
    rw [List.find?_cons, List.find?_cons, hr.id]
    split
    . simp only [Option.map_some, Option.any_some, Ty.same, hr.type.identity]
    . exact ih

namespace Routine

variable (r : Routine)

theorem lacksResult_rearranged (own : Ty) :
    r.lacksResult a.records own = r.lacksResult b.records own := by
  simp only [lacksResult, Block.givesResult, h.same_type?]

theorem entered_rearranged : (r.entered a).Rearranged (r.entered b) := by
  have hresult : (r.result?.elim a fun result => result.check a).Rearranged
      (r.result?.elim b fun result => result.check b) := by
    cases r.result? with
    | none => exact h
    | some result => exact h.record result.info.id rfl
  exact List.foldl_rel (hresult.note _ _).push fun g _ _ _ h => g.check_rearranged h

theorem params_rearranged : r.params a = r.params b := by
  -- Parameters are a matter of the tags, which are the same.
  rw [params, params, entries_entered, entries_entered, h.nextTag]

theorem type_rearranged (tag : Nat) : r.type (r.params a) tag = r.type (r.params b) tag := by
  rw [r.params_rearranged h]

theorem inside_rearranged :
    r.own a = r.own b ∧ (r.inside a).Rearranged (r.inside b) := by
  obtain ⟨hmade, hmake⟩ := (r.entered_rearranged h).make (r.type_rearranged h)
  have hown : r.own a = r.own b := hmade
  refine ⟨hown, ?_⟩
  unfold inside
  rw [hown]
  exact hmake.define r.name (Ty.reorders_rearranged.same _)

theorem check_rearranged_of_block
    (hblock : (r.block.check (r.inside a)).Rearranged (r.block.check (r.inside b))) :
    (r.check a).Rearranged (r.check b) := by
  simp only [check_eq_inside, (r.inside_rearranged h).1, r.lacksResult_rearranged hblock]
  refine Context.Rearranged.leave ?_ r.kind r.name (r.type_rearranged h)
  split
  . exact hblock.add (.error _ _ _)
  . exact hblock

end Routine

end Declarations

namespace Block

theorem declare_rearranged_of_routines {b : Block}
    (hroutines : ∀ r ∈ b.routines, ∀ ctx ctx' : Context, ctx.Rearranged ctx' →
      (r.block.check ctx).Rearranged (r.block.check ctx'))
    {ctx ctx' : Context} (h : ctx.Rearranged ctx') :
    (b.declare ctx).Rearranged (b.declare ctx') := by
  unfold declare upTo
  have h := List.foldl_rel h fun d (_ : d ∈ b.constDefs) _ _ h => d.check_rearranged h
  have h := List.foldl_rel h fun d (_ : d ∈ b.varDecls) _ _ h => d.check_rearranged h
  exact List.foldl_rel h fun r (hr : r ∈ b.routines) _ _ h =>
    r.check_rearranged_of_block h (hroutines r hr _ _ (r.inside_rearranged h).2)

theorem check_rearranged (b : Block) :
    ∀ ctx ctx' : Context, ctx.Rearranged ctx' → (b.check ctx).Rearranged (b.check ctx') := by
  induction b using Block.nested_induction with
  | h b ih =>
    intro ctx ctx' h
    have hdeclare := declare_rearranged_of_routines ih h
    rw [check_eq_declare, check_eq_declare]
    exact hdeclare.add (hdeclare.scope.relates.check_stmt Ty.reorders_rearranged b.body.stmt)

theorem declare_rearranged (b : Block) {ctx ctx' : Context} (h : ctx.Rearranged ctx') :
    (b.declare ctx).Rearranged (b.declare ctx') :=
  declare_rearranged_of_routines (fun r _ => r.block.check_rearranged) h

end Block

namespace Program

variable {table table' : Predefined} (htable : List.Forall₂ Attempt.Rearranged table table')
  (p : Program) (ctx : Context)

include htable

theorem starting_rearranged : (p.starting table ctx).Rearranged (p.starting table' ctx) := by
  have hpredefined := (Context.Rearranged.refl ctx).predefineAll htable
  simp only [starting, Heading.check_eq]
  exact List.foldl_rel (hpredefined.note _ _) fun name _ _ _ h => h.checkFile name

theorem check_rearranged : (p.check table ctx).Rearranged (p.check table' ctx) := by
  rw [p.check_eq, p.check_eq]
  exact (p.block.check_rearranged _ _ (p.starting_rearranged htable ctx)).note _ _

end Program

inductive Attempt.Permuted : Attempt → Attempt → Prop where
  | same (a : Attempt) : Permuted a a
  | overload (name : String) (tag : Nat) (place : Option Span)
      {alternatives alternatives' : List Ty} :
      alternatives.Perm alternatives' →
      Permuted ⟨name, .overload tag alternatives, place⟩ ⟨name, .overload tag alternatives', place⟩

theorem Required.rearranged_of_permuted {n next : Nat} {made made' : Predefined}
    (hmade : table.fresh n = .ok (made, next)) (h : List.Forall₂ Attempt.Permuted made made') :
    List.Forall₂ Attempt.Rearranged made made' := by
  -- The alternatives of required functions are distinguishable.
  have hmem := (List.forall₂_and_left made made').mpr ⟨fun attempt hattempt => hattempt, h⟩
  refine hmem.imp ?_
  rintro attempt attempt' ⟨hattempt, hpermuted⟩
  cases hpermuted with
  | same => exact attempt.rearranged_refl
  | overload name tag place hperm =>
    obtain ⟨hdistinguishable, hfunctions⟩ := distinguishable_of_fresh hmade hattempt rfl
    exact ⟨rfl, ⟨.overload tag tag hperm hdistinguishable hfunctions, rfl⟩, rfl⟩

namespace Call

theorem overloads_resolve_in_any_order :
    (∀ args (a b : Ty), a.TakesValues → b.TakesValues → takes args a = true →
      takes args b = true → Ty.equivParams a.params b.params = true) ∧
    (∀ alternatives, Distinguishable alternatives → Unambiguous alternatives) ∧
    (∀ n, ∃ made next, Required.table.fresh n = .ok (made, next) ∧
      (∀ entry ∈ made, ∀ tag alternatives, entry.type = .overload tag alternatives →
        Unambiguous alternatives ∧ ∀ alternatives' tag', alternatives.Perm alternatives' →
          Ty.Reordered (.overload tag alternatives) (.overload tag' alternatives')) ∧
      ∀ made', List.Forall₂ Attempt.Permuted made made' → ∀ (p : Program) (ctx : Context),
        (p.starting made ctx).Rearranged (p.starting made' ctx) ∧
        (p.check made ctx).Rearranged (p.check made' ctx)) ∧
    (∀ ctx ctx' : Context, ctx.Rearranged ctx' → ctx.scope.Reordered ctx'.scope ∧
      (∀ b : Block, (b.declare ctx).Rearranged (b.declare ctx') ∧
        (b.check ctx).Rearranged (b.check ctx')) ∧
      ∀ r : Routine, (r.inside ctx).Rearranged (r.inside ctx')) ∧
    ∀ s s' : Scope, s.Reordered s' → ∀ e : Expr,
      (e.check s).Agrees Ty.Reordered (e.check s') ∧
      (∀ info callee args, e = .call info callee args →
        (e.check s).type = (e.check s').type) ∧
      ((∀ name ∈ e.uncalled, s.lookup? name = s'.lookup? name) → e.check s = e.check s') := by
  refine ⟨?_, ?_, ?_, ?_, ?_⟩
  . intro args a b ha hb htakes htakes'
    exact equivParams_of_takes ha hb htakes htakes'
  . intro alternatives h
    exact h.unambiguous
  . intro n
    obtain ⟨made, next, hmade⟩ := Predefined.fresh_total Required.table_isMakeable n
    refine ⟨made, next, hmade, ?_, ?_⟩
    . intro entry hmem tag alternatives htype
      obtain ⟨hdistinguishable, hfunctions⟩ := Required.distinguishable_of_fresh hmade hmem htype
      exact ⟨hdistinguishable.unambiguous, fun _ tag' hperm =>
        .overload tag tag' hperm hdistinguishable hfunctions⟩
    . intro made' hpermuted p ctx
      have hmade' := Required.rearranged_of_permuted hmade hpermuted
      exact ⟨p.starting_rearranged hmade' ctx, p.check_rearranged hmade' ctx⟩
  . intro ctx ctx' h
    exact ⟨h.reordered, fun b => ⟨b.declare_rearranged h, b.check_rearranged _ _ h⟩,
      fun r => (r.inside_rearranged h).2⟩
  . intro s s' h e
    refine ⟨h.check Ty.reorders_reordered e, ?_, Scope.Reordered.check_eq h⟩
    rintro info callee args rfl
    exact h.type_check_call Ty.reorders_reordered info callee fun e _ =>
      h.check Ty.reorders_reordered e

end Call

namespace Sample

def absolute (p : Primitive) : Ty :=
  Required.function [p] p

def absScope (alternatives : List Ty) : Scope :=
  ⟨.ofList [⟨"abs", .overload 0 alternatives, none⟩, ⟨"k", .integer, none⟩], []⟩

theorem absScope_reordered :
    (absScope [absolute .integer, absolute .real]).Reordered
      (absScope [absolute .real, absolute .integer]) := by
  have hdistinguishable : Call.Distinguishable [absolute .integer, absolute .real] := by
    constructor
    . intro a ha
      simp only [List.mem_cons, List.not_mem_nil, or_false] at ha
      obtain rfl | rfl := ha <;> exact Required.takesValues_of_form (Required.form_function_eq _ _)
    . decide
  have hget (alternatives : List Ty) (key : String) :
      (absScope alternatives).inner.get? key =
        if "abs" = key then some ⟨"abs", .overload 0 alternatives, none⟩
        else if "k" = key then some ⟨"k", .integer, none⟩ else none := by
    have hentries : (absScope alternatives).inner.entries =
        [⟨"abs", .overload 0 alternatives, none⟩, ⟨"k", .integer, none⟩] := rfl
    rw [Frame.get?_eq_find?, hentries, Entry.find?_cons, Entry.find?_cons]
    rfl
  intro name
  have hlookup (alternatives : List Ty) : (absScope alternatives).lookup? name =
      ((absScope alternatives).inner.get? (canonicalName name)).map (·.type) := by
    rw [Scope.lookup?, Scope.get?, List.findSome?_cons]
    cases (absScope alternatives).inner.get? (canonicalName name) <;> rfl
  rw [hlookup, hlookup, hget, hget]
  split
  . exact .some (Ty.Reordered.overload 0 0 (.swap ..) hdistinguishable (by decide))
  . split
    . exact .some (.same _)
    . exact .none

def absOfVariable : Expr :=
  -- `abs(k)`
  .call (node 0) ⟨node 1, "abs"⟩ [.var (node 2) ⟨node 3, "k"⟩]

def absOfAbs : Expr :=
  -- `abs(abs)`
  .call (node 0) ⟨node 1, "abs"⟩ [.var (node 2) ⟨node 3, "abs"⟩]

theorem absOfVariable_in_any_order :
    absOfVariable.check (absScope [absolute .integer, absolute .real]) =
      absOfVariable.check (absScope [absolute .real, absolute .integer]) := by
  obtain ⟨-, -, heq⟩ :=
    Call.overloads_resolve_in_any_order.2.2.2.2 _ _ absScope_reordered absOfVariable
  apply heq
  have huncalled : absOfVariable.uncalled = ["k"] := rfl
  rw [huncalled, List.forall_mem_singleton]
  rfl

theorem absOfAbs_shows_order :
    (absScope [absolute .integer, absolute .real]).Reordered
      (absScope [absolute .real, absolute .integer]) ∧
    (absOfAbs.check (absScope [absolute .integer, absolute .real])).findings.diagnostics.map
        Diagnostic.text ≠
      (absOfAbs.check (absScope [absolute .real, absolute .integer])).findings.diagnostics.map
        Diagnostic.text :=
  ⟨absScope_reordered, by decide +kernel⟩

end Sample

end PascalCheck
