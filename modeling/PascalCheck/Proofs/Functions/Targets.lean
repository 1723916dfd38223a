import Mathlib.Data.List.Induction
import PascalCheck.Proofs.Blocks
import PascalCheck.Proofs.Coverage.Stmt

/-!
Which functions an assignment can have for its target. The functions that are bound where a
statement part is checked are those whose blocks it is in, those that have been declared after their
blocks were checked, and those that were bound before the block of the program. The check of an
assignment makes no difference between them, so it accepts one to a function from outside.
-/

namespace PascalCheck

variable {Q : Ty → Prop}

theorem Context.foldl_within {α : Type} {f : Context → α → Context} {ctx : Context}
    (h : ctx.scope.Within Q) (xs : List α)
    (hf : ∀ ctx : Context, ctx.scope.Within Q → ∀ x ∈ xs, (f ctx x).scope.Within Q) :
    (xs.foldl f ctx).scope.Within Q :=
  List.foldlRecOn (motive := fun after : Context => after.scope.Within Q) xs f h hf

section Declarations

variable (hQ : ∀ t : Ty, t.isFunction = false → Q t) {ctx : Context} (h : ctx.scope.Within Q)

include hQ h

theorem ConstDef.scope_within (d : ConstDef) : (d.check ctx).scope.Within Q := by
  have hbuiltIn (t : Ty) (ht : t.isBuiltIn = true) : Q t := by
    apply hQ
    cases t <;> first | rfl | cases ht
  have hvalue := (d.value.check_within hbuiltIn h).type
  simp only [check_eq]
  split
  . exact h
  . exact (ctx.add (d.value.check ctx.scope).findings).scope_define_within h d.name hvalue

theorem Context.defineAll_within (names : List Name) {type : Ty} (htype : type.isFunction = false) :
    (ctx.defineAll names type).scope.Within Q :=
  foldl_within h names fun _ h name _ => Context.scope_define_within h name (hQ _ htype)

theorem VarDecl.scope_within (d : VarDecl) : (d.check ctx).scope.Within Q := by
  have htype : (d.type.check ctx).1.isFunction = false := by
    cases d.type <;> rfl
  rw [← d.type.scope_check ctx] at h
  rw [check_eq]
  exact Context.defineAll_within hQ h d.names htype

theorem Group.scope_within (g : Group) : (g.check ctx).scope.Within Q := by
  have htype : (g.typeIn ctx).isFunction = false := rfl
  have hgroup : (((g.type.check ctx).make (.parameter · .formal g.mode g.type.type)).2.add
    (.record g.info.id (g.typeIn ctx))).scope.Within Q := h
  rw [check_eq]
  exact Context.defineAll_within hQ hgroup g.names htype

theorem Routine.inside_within (r : Routine) (hown : Q (r.own ctx)) :
    (r.inside ctx).scope.Within Q := by
  have hentering : ((r.result?.elim ctx fun result => result.check ctx).note
      (.entering r.kind r.name.value)).push.scope.Within Q := by
    cases r.result? with
    | none => exact h.push
    | some result => exact h.push
  have hentered := Context.foldl_within hentering r.groups fun _ h g _ => g.scope_within hQ h
  exact ((r.entered ctx).make (r.type (r.params ctx))).2.scope_define_within hentered r.name hown

theorem Program.starting_within (p : Program) {table : Predefined}
    (htable : ∀ entry ∈ table, Q entry.type) : (p.starting table ctx).scope.Within Q := by
  have hmaxint : (ctx.predefine Required.maxint).scope.Within Q :=
    Context.scope_predefine_within h (hQ _ rfl)
  have hpredefined : ((ctx.predefineAll table).note
      (.program p.heading.name.value)).scope.Within Q :=
    Context.foldl_within hmaxint table fun _ h entry hentry =>
      Context.scope_predefine_within h (htable entry hentry)
  rw [starting, Heading.check_eq]
  refine Context.foldl_within hpredefined p.heading.params fun ctx h name _ => ?_
  unfold Context.checkFile
  split
  . exact (ctx.make (.file · .char)).2.scope_define_within h name (hQ _ rfl)
  . exact h

end Declarations

theorem Routine.scope_within {ctx : Context} (h : ctx.scope.Within Q) (r : Routine)
    (houter : Q (r.outer ctx)) : (r.check ctx).scope.Within Q := by
  rw [scope_check]
  exact h.define_getD r.name.value (some r.name.span) houter

namespace Block

theorem upTo_within (hQ : ∀ t : Ty, t.isFunction = false → Q t) {ctx : Context}
    (h : ctx.scope.Within Q) (b : Block) (rs : List Routine)
    (houter : ∀ before r after, rs = before ++ r :: after → Q (r.outer (b.upTo before ctx))) :
    (b.upTo rs ctx).scope.Within Q := by
  induction rs using List.reverseRecOn with
  | nil =>
    have hconsts := Context.foldl_within h b.constDefs fun _ h d _ => d.scope_within hQ h
    exact Context.foldl_within hconsts b.varDecls fun _ h d _ => d.scope_within hQ h
  | append_singleton rs r ih =>
    rw [upTo_append]
    refine Routine.scope_within (ih ?_) r (houter rs r [] rfl)
    intro before r' after hrs
    apply houter before r' (after ++ [r])
    rw [hrs, List.append_assoc]
    rfl

/-- Where a function comes from that is bound when the check comes to the block `here`. -/
inductive Origin (root : Block) (start : Context) (here : Block) (ctx : Context) (t : Ty) :
    Prop where
  | enclosing {r : Routine} {c : Context} : root.Meets start r c →
    r.block.Reaches (r.inside c) here ctx → t = r.own c → Origin root start here ctx t
  | declared {r : Routine} {c : Context} : root.Meets start r c → t = r.outer c →
    Origin root start here ctx t
  | given {e : Entry} : e ∈ start.scope.entries → t = e.type → Origin root start here ctx t

def Traced (root : Block) (start : Context) (here : Block) (ctx : Context) (t : Ty) : Prop :=
  t.isFunction = true → root.Origin start here ctx t

variable {root here : Block} {start ctx : Context}

theorem traced_of_isFunction {t : Ty} (h : t.isFunction = false) :
    root.Traced start here ctx t := by
  intro hfunction
  rw [h] at hfunction
  cases hfunction

theorem Origin.inside {t : Ty} {before after : List Routine} {r : Routine}
    (hr : here.routines = before ++ r :: after) (h : root.Origin start here ctx t) :
    root.Origin start r.block (r.inside (here.upTo before ctx)) t := by
  cases h with
  | enclosing hmeets hreaches ht => exact .enclosing hmeets (.inside hreaches hr) ht
  | declared hmeets ht => exact .declared hmeets ht
  | given he ht => exact .given he ht

theorem Reaches.upTo_traced {before after : List Routine} (h : root.Reaches start here ctx)
    (hbefore : here.routines = before ++ after)
    (hctx : ctx.scope.Within (root.Traced start here ctx)) :
    (here.upTo before ctx).scope.Within (root.Traced start here ctx) := by
  apply upTo_within (fun _ => traced_of_isFunction) hctx
  intro before' r after' hsplit _
  rw [hsplit, List.append_assoc] at hbefore
  exact .declared ⟨here, ctx, before', _, h, hbefore, rfl⟩ rfl

theorem Reaches.traced (h : root.Reaches start here ctx) :
    ctx.scope.Within (root.Traced start here ctx) := by
  induction h with
  | start => exact fun e he _ => .given he rfl
  | @inside here ctx before after r hreaches hr ih =>
    have hupTo := hreaches.upTo_traced hr ih
    have hinside : (here.upTo before ctx).scope.Within
        (root.Traced start r.block (r.inside (here.upTo before ctx))) :=
      fun e he hfunction => .inside hr (hupTo e he hfunction)
    apply Routine.inside_within (fun _ => traced_of_isFunction) hinside
    exact fun _ => .enclosing ⟨here, ctx, before, after, hreaches, hr, rfl⟩ .start rfl

theorem Reaches.origin_of_lookup? (h : root.Reaches start here ctx) {name : String} {t : Ty}
    (hlookup : (here.declare ctx).scope.lookup? name = some t) (hfunction : t.isFunction = true) :
    root.Origin start here ctx t := by
  obtain ⟨e, he, rfl⟩ := Scope.exists_entry_of_lookup? hlookup
  exact h.upTo_traced (List.append_nil here.routines).symm h.traced e he hfunction

end Block

theorem checkAssignment_to_function {scope : Scope} {info : Info} {target : Target} {value : Expr}
    {tag : Nat} {params : List Ty} {result : Ty}
    (htarget : scope.lookup? target.name.value = some (.function tag params result))
    (hinvalid : (value.check scope).type.isInvalidConstant = false)
    (hvalue : (value.check scope).type.equiv result = true) :
    (checkAssignment scope info target value).diagnostics =
      (value.check scope).findings.diagnostics := by
  have hname : Name.check scope target.name = .silent (.function tag params result) := by
    rw [Name.check, htarget]
  have hfault : (judgeAssignment (.function tag params result) (value.check scope).type
      value.isCharLiteral).fault? = none := by
    unfold judgeAssignment
    rw [hinvalid, if_neg Bool.false_ne_true]
    split
    . rfl
    . split
      . rfl
      . simp [hvalue]
  simp only [checkAssignment, hname, Typing.record, Typing.silent, hfault]
  split <;> simp [Findings.record]

def Context.Brings (ctx : Context) (table : Predefined) (t : Ty) : Prop :=
  (∃ entry ∈ table, t = entry.type) ∨ ∃ e ∈ ctx.scope.entries, t = e.type

namespace Program

theorem starting_brings (p : Program) (table : Predefined) (ctx : Context) :
    (p.starting table ctx).scope.Within fun t => t.isFunction = true → ctx.Brings table t := by
  refine starting_within ?_ ?_ p ?_
  . intro t ht hfunction
    rw [ht] at hfunction
    cases hfunction
  . exact fun e he _ => .inr ⟨e, he, rfl⟩
  . exact fun entry hentry _ => .inl ⟨entry, hentry, rfl⟩

theorem assigns_to_functions_in_scope (p : Program) (table : Predefined) (ctx : Context) :
    (∀ r : Routine, r.DeclaredIn p.block → ∃ c, p.block.Meets (p.starting table ctx) r c) ∧
    ∀ here c, p.block.Reaches (p.starting table ctx) here c →
      (p.plan table).ComesTo ctx here.plan c ∧
      ∀ info target value tag params result,
        .assign info target value ∈ here.body.stmt.all →
        (here.declare c).scope.lookup? target.name.value = some (.function tag params result) →
        ((∃ r c', p.block.Meets (p.starting table ctx) r c' ∧
            r.block.Reaches (r.inside c') here c ∧ .function tag params result = r.own c') ∨
          (∃ r c', p.block.Meets (p.starting table ctx) r c' ∧
            .function tag params result = r.outer c') ∨
          ctx.Brings table (.function tag params result)) ∧
        ((value.check (here.declare c).scope).type.isInvalidConstant = false →
          (value.check (here.declare c).scope).type.equiv result = true →
          (checkAssignment (here.declare c).scope info target value).diagnostics =
            (value.check (here.declare c).scope).findings.diagnostics) := by
  refine ⟨fun r hr => Block.meets_of_declaredIn hr _, fun here c hreaches => ⟨?_, ?_⟩⟩
  . exact (p.plan_comesTo_block table ctx).trans hreaches.comesTo
  . intro info target value tag params result _ hlookup
    refine ⟨?_, fun hinvalid hvalue => checkAssignment_to_function hlookup hinvalid hvalue⟩
    cases hreaches.origin_of_lookup? hlookup rfl with
    | enclosing hmeets hinside ht => exact .inl ⟨_, _, hmeets, hinside, ht⟩
    | declared hmeets ht => exact .inr (.inl ⟨_, _, hmeets, ht⟩)
    | given he ht =>
      have hbrings := p.starting_brings table ctx _ he
      rw [← ht] at hbrings
      exact .inr (.inr (hbrings rfl))

end Program

namespace Sample

-- Evaluating a sample goes through the frame of all required names.
set_option maxRecDepth 2000

def assignsOutside : Stmt :=
  -- `f := 2`, in a program that declares `f`.
  .assign (node 15) ⟨node 16, ⟨node 17, "f"⟩⟩
    (.const (node 18) (.integer (node 19) ⟨node 20, "2"⟩))

def assignsPredefined : Stmt :=
  -- `odd := true`
  .assign (node 21) ⟨node 22, ⟨node 23, "odd"⟩⟩ (.const (node 24) (.bool (node 25) ⟨node 26, true⟩))

def outside : Program :=
  -- `program p; function f : integer; f := 1; begin f := 2; odd := true end.`
  ⟨node 0, ⟨node 1, ⟨node 2, "p"⟩, []⟩,
    .mk (node 3) none none
      (.present (node 4) [.function (node 5) ⟨node 6, "f"⟩ none ⟨node 7, ⟨node 8, .integer⟩⟩
        (.mk (node 9) none none .absent
          ⟨node 10, .assign (node 11) ⟨node 12, ⟨node 13, "f"⟩⟩
            (.const (node 14) (.integer (node 27) ⟨node 28, "1"⟩))⟩)])
      ⟨node 29, .compound (node 30) [assignsOutside, assignsPredefined]⟩⟩

theorem all_outside : outside.block.body.stmt.all =
    [.compound (node 30) [assignsOutside, assignsPredefined], assignsOutside, assignsPredefined] :=
  rfl

theorem outside_accepted :
    ∃ after, outside.checkWith Required.table .empty = .ok after ∧ after.errorCount = 0 ∧
      assignsOutside ∈ outside.block.body.stmt.all ∧
      assignsPredefined ∈ outside.block.body.stmt.all ∧
      (∃ t, after.scope.lookup? "f" = some t ∧ t.isFunction = true ∧
        after.records.type? 15 = some t) ∧
      ∃ t, after.scope.lookup? "odd" = some t ∧ t.isFunction = true ∧
        after.records.type? 21 = some t := by
  rw [all_outside]
  refine ⟨_, rfl, ?_⟩
  simp only [Program.check_eq, Block.check_eq, Program.starting, Heading.check_eq]
  refine ⟨rfl, ?_, ?_, ⟨_, rfl, rfl, rfl⟩, _, rfl, rfl, rfl⟩
  . exact List.mem_cons_of_mem _ List.mem_cons_self
  . exact List.mem_cons_of_mem _ (List.mem_cons_of_mem _ List.mem_cons_self)

theorem outside_function_in_scope :
    (outside.block.declare (outside.starting [] .empty)).scope.lookup? "f" =
      some (.function 1 [] .integer) ∧
    ((∃ r c, outside.block.Meets (outside.starting [] .empty) r c ∧
        r.block.Reaches (r.inside c) outside.block (outside.starting [] .empty) ∧
        .function 1 [] .integer = r.own c) ∨
      ∃ r c, outside.block.Meets (outside.starting [] .empty) r c ∧
        .function 1 [] .integer = r.outer c) := by
  have hlookup : (outside.block.declare (outside.starting [] .empty)).scope.lookup? "f" =
      some (.function 1 [] .integer) := rfl
  have hmem : assignsOutside ∈ outside.block.body.stmt.all := by
    rw [all_outside]
    exact List.mem_cons_of_mem _ List.mem_cons_self
  refine ⟨hlookup, ?_⟩
  have h := ((outside.assigns_to_functions_in_scope [] .empty).2 _ _ .start).2
  obtain henclosing | hdeclared | hbrings := (h _ _ _ _ _ _ hmem hlookup).1
  . exact .inl henclosing
  . exact .inr hdeclared
  . simp [Context.Brings, Scope.entries, Context.empty, Scope.empty] at hbrings

end Sample

end PascalCheck
