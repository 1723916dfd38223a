import PascalCheck.Proofs.Acceptance
import PascalCheck.Proofs.Blocks

/-!
What becomes of constant definitions. A definition binds its name or something is reported, unless
its value is a number that cannot be read: who uses such a number reports it, and the definition is
no use. So in an accepted program all other constants are bound.
-/

namespace PascalCheck

namespace Const

/--
Whether a constant is written with a number that cannot be read, and nothing is said about that. A
sign right in front of an integer has its size checked.
-/
def isOverlooked : Const → Bool
  | .integer _ lexeme | .chr _ lexeme => !Numeral.isInteger lexeme.value
  | .signed _ _ (.integer _ lexeme) =>
    !Numeral.isInteger lexeme.value && Numeral.withinBounds .integer lexeme.value
  | .signed _ _ operand => operand.isOverlooked
  | _ => false

theorem applySign_overlooks {scope : Scope} {place : Span} {sign : Sign} {operand : Const}
    (hoperand : ∀ info lexeme, operand ≠ .integer info lexeme) (t : Typing) :
    (applySign scope place sign operand t).type.isInvalidConstant = true ∧
        (applySign scope place sign operand t).findings.Silent ↔
      t.type.isInvalidConstant = true ∧ t.findings.Silent := by
  have herror : Ty.error.isInvalidConstant = false := rfl
  unfold applySign
  split
  next info lexeme => exact absurd rfl (hoperand info lexeme)
  next =>
    split
    . rfl
    next hclass =>
      simp only [Bool.or_eq_true, not_or] at hclass
      simp [hclass.1.2, herror]

theorem isOverlooked_iff {scope : Scope} (hscope : scope.Within (·.isSentinel = false))
    (c : Const) : c.isOverlooked = true ↔
      (c.check scope).type.isInvalidConstant = true ∧ (c.check scope).findings.Silent := by
  induction c with
  | integer info lexeme =>
    cases h : Numeral.isInteger lexeme.value <;>
      simp [isOverlooked, check, lexemeType, Ty.isInvalidConstant, h]
  | chr info lexeme =>
    cases h : Numeral.isInteger lexeme.value <;>
      simp [isOverlooked, check, lexemeType, Ty.isInvalidConstant, h]
  | signed info sign operand ih =>
    cases operand with
    | integer info' lexeme =>
      by_cases hrange : Numeral.withinBounds .integer lexeme.value = true
      . simpa [isOverlooked, check, applySign, Scope.bounds_eq, hrange] using ih
      . simp [isOverlooked, check, applySign, Scope.bounds_eq, hrange]
    | _ =>
      rw [check, Typing.type_record, Typing.findings_record, Findings.silent_append]
      simpa [isOverlooked, applySign_overlooks] using ih
  | named info name => simp [isOverlooked, check, Name.check_isInvalidConstant hscope]
  | signedNamed info sign name =>
    have hname := Name.check_isInvalidConstant hscope name
    simp only [isOverlooked, check, Typing.type_record, applySignToName]
    split
    . simp [hname]
    . simp [Ty.isInvalidConstant]
  | _ => simp [isOverlooked, check, Ty.isInvalidConstant]

end Const

namespace ConstDef

variable {d : ConstDef} {ctx : Context}

def entry (d : ConstDef) (ctx : Context) : Entry :=
  ⟨canonicalName d.name.value, (d.value.check ctx.scope).type, some d.name.span⟩

structure Binds (d : ConstDef) (ctx : Context) : Prop where
  free : ctx.scope.getInner? d.name.value = none
  scope : (d.check ctx).scope =
    ⟨ctx.scope.inner.append (d.entry ctx) (ctx.scope.inner.lookup_index_of_get? free),
      ctx.scope.outer⟩

def Reports (d : ConstDef) (ctx : Context) : Prop :=
  ∃ found, found ≠ [] ∧ (d.check ctx).diagnostics = ctx.diagnostics ++ found

theorem check_of_invalid (h : (d.value.check ctx.scope).type.isInvalidConstant = true) :
    d.check ctx = ctx.add (d.value.check ctx.scope).findings := by
  simp only [check_eq, if_pos h]

theorem check_of_valid (h : (d.value.check ctx.scope).type.isInvalidConstant = false) :
    d.check ctx = (ctx.add (d.value.check ctx.scope).findings).define d.name
      (d.value.check ctx.scope).type := by
  simp only [check_eq, if_neg (Bool.eq_false_iff.mp h)]

theorem not_binds_of_invalid (h : (d.value.check ctx.scope).type.isInvalidConstant = true) :
    ¬ d.Binds ctx := by
  intro hbinds
  have hinner := congrArg (·.inner.entries.length) hbinds.scope
  rw [check_of_invalid h] at hinner
  simp [Context.add] at hinner

theorem reports_of_invalid (h : (d.value.check ctx.scope).type.isInvalidConstant = true) :
    d.Reports ctx ↔ ¬ (d.value.check ctx.scope).findings.Silent := by
  unfold Reports
  rw [check_of_invalid h]
  simp [Context.add, Findings.Silent]

theorem binds_or_reports_of_valid
    (h : (d.value.check ctx.scope).type.isInvalidConstant = false) :
    d.Binds ctx ∨ d.Reports ctx := by
  cases hfree : ctx.scope.getInner? d.name.value with
  | none =>
    refine .inl ⟨hfree, ?_⟩
    have hadded : (ctx.add (d.value.check ctx.scope).findings).scope.getInner? d.name.value = none :=
      hfree
    rw [check_of_valid h]
    exact Context.scope_define_of_free _ hadded
  | some e =>
    refine .inr ⟨(d.value.check ctx.scope).findings.diagnostics ++
      [Context.redeclaration d.name e.place], by simp, ?_⟩
    have hbound : (ctx.add (d.value.check ctx.scope).findings).scope.getInner? d.name.value =
        some e := hfree
    rw [check_of_valid h, Context.define_of_bound _ hbound]
    exact List.append_assoc _ _ _

theorem binds_or_reports_iff (hscope : ctx.scope.Within (·.isSentinel = false)) :
    d.Binds ctx ∨ d.Reports ctx ↔ d.value.isOverlooked = false := by
  have hoverlooked := Const.isOverlooked_iff hscope d.value
  cases hvalid : (d.value.check ctx.scope).type.isInvalidConstant with
  | true =>
    rw [← Bool.not_eq_true, hoverlooked, reports_of_invalid hvalid, hvalid]
    simp [not_binds_of_invalid hvalid]
  | false =>
    rw [← Bool.not_eq_true, hoverlooked, hvalid]
    simp [binds_or_reports_of_valid hvalid]

theorem binds_of_silent (hscope : ctx.scope.Within (·.isSentinel = false))
    (hvalue : d.value.isOverlooked = false) (hsilent : (d.check ctx).diagnostics = []) :
    d.Binds ctx := by
  refine ((binds_or_reports_iff hscope).mpr hvalue).resolve_right ?_
  rintro ⟨found, hfound, hdiagnostics⟩
  rw [hsilent, eq_comm, List.append_eq_nil_iff] at hdiagnostics
  exact hfound hdiagnostics.2

theorem Binds.getInner? (h : d.Binds ctx) :
    (d.check ctx).scope.getInner? d.name.value = some (d.entry ctx) := by
  rw [h.scope]
  exact Scope.getInner?_last rfl _

end ConstDef

namespace Block

variable {ids : List Nat} {root here : Block} {start ctx : Context}

theorem check_grows_declare {b : Block} {before after : List ConstDef} {d : ConstDef}
    (h : b.constDefs = before ++ d :: after) (ctx : Context) :
    (d.check (before.foldl (fun ctx d => d.check ctx) ctx)).scope.Grows (b.declare ctx).scope := by
  unfold declare upTo
  rw [h, List.foldl_append, List.foldl_cons]
  refine (Scope.Grows.foldl after (fun d _ => d.check_grows) _).trans ?_
  refine (Scope.Grows.foldl b.varDecls (fun d _ => d.check_grows) _).trans ?_
  exact Scope.Grows.foldl b.routines (fun r _ => r.check_grows) _

theorem check_extends_declare {b : Block} {before after : List ConstDef} {d : ConstDef}
    (h : b.constDefs = before ++ d :: after) (ctx : Context) :
    Context.Extends (d.check (before.foldl (fun ctx d => d.check ctx) ctx)) (b.declare ctx) := by
  unfold declare upTo
  rw [h, List.foldl_append, List.foldl_cons]
  refine (Context.Extends.foldl _ after fun d _ => d.check_extends).trans ?_
  refine (Context.Extends.foldl _ b.varDecls fun d _ => d.check_extends).trans ?_
  exact Context.Extends.foldl _ b.routines fun r _ => r.check_extends

theorem Reaches.healthy (h : root.Reaches start here ctx)
    (hids : ∀ id ∈ root.constIds, id ∈ ids) (hstart : start.Healthy ids)
    (hsilent : (root.check start).diagnostics = []) :
    ctx.Healthy ids ∧ ∀ id ∈ here.constIds, id ∈ ids := by
  induction h with
  | start => exact ⟨hstart, hids⟩
  | @inside here ctx before after r hreaches hr ih =>
    obtain ⟨hctx, hhere⟩ := ih
    rw [forall_mem_constIds] at hhere
    -- All that was checked before `r` was silent too, so it has kept the context healthy.
    have hupTo := ((upTo_extends hr ctx).trans hreaches.extends).nil_of_nil hsilent
    have hbefore : ∀ r ∈ before, Context.Preserves ids r.check := by
      intro r' hr'
      have hmem : r' ∈ here.routines := hr ▸ List.mem_append_left _ hr'
      exact Routine.check_preserves (check_preserves (hhere.2 r' hmem))
    have hmem : r ∈ here.routines := hr ▸ List.mem_append_right _ List.mem_cons_self
    exact ⟨r.inside_healthy (upTo_healthy hhere.1 hbefore hctx hupTo), hhere.2 r hmem⟩

def BindsConstants (b : Block) (ctx : Context) : Prop :=
  ∀ d ∈ b.constDefs, d.value.isOverlooked = false →
    ∃ t, t.isSentinel = false ∧ (b.declare ctx).scope.getInner? d.name.value =
      some ⟨canonicalName d.name.value, t, some d.name.span⟩

theorem bindsConstants_of_silent {b : Block}
    (hids : ∀ d ∈ b.constDefs, ∀ id ∈ d.value.ids, id ∈ ids) (h : ctx.Healthy ids)
    (hsilent : (b.declare ctx).diagnostics = []) : b.BindsConstants ctx := by
  intro d hd hvalue
  obtain ⟨before, after, hsplit⟩ := List.append_of_mem hd
  -- The definition is bound in the context after those before it, and later checks keep it.
  have hsilent := (check_extends_declare hsplit ctx).nil_of_nil hsilent
  have hbefore := h.foldl before (fun d _ => d.check_extends)
    (fun d hd _ => ConstDef.check_healthy (hids d (hsplit ▸ List.mem_append_left _ hd)))
    ((d.check_extends _).nil_of_nil hsilent)
  have hsentinel {c : Context} (hc : c.Healthy ids) : c.scope.Within (·.isSentinel = false) :=
    fun e he => Ty.isSentinel_eq_false_of_isClean (hc.scope e he).1
  have hbinds := ConstDef.binds_of_silent (hsentinel hbefore) hvalue hsilent
  refine ⟨_, ?_, (check_grows_declare hsplit ctx).getInner? hbinds.getInner?⟩
  have hentry : d.entry (before.foldl (fun ctx d => d.check ctx) ctx) ∈
      (d.check (before.foldl (fun ctx d => d.check ctx) ctx)).scope.entries := by
    rw [hbinds.scope]
    simp [Scope.entries]
  exact hsentinel (ConstDef.check_healthy (hids d hd) hbefore hsilent) _ hentry

theorem Reaches.bindsConstants (h : root.Reaches start here ctx)
    (hstart : start.Healthy root.constIds) (hsilent : (root.check start).diagnostics = []) :
    here.BindsConstants ctx := by
  obtain ⟨hctx, hids⟩ := h.healthy (fun _ hid => hid) hstart hsilent
  rw [forall_mem_constIds] at hids
  have hdeclare := upTo_extends (List.append_nil here.routines).symm ctx
  exact bindsConstants_of_silent hids.1 hctx ((hdeclare.trans h.extends).nil_of_nil hsilent)

end Block

theorem Program.constants_bound_or_reported :
    (∀ (d : ConstDef) (ctx : Context), ctx.scope.Within (·.isSentinel = false) →
      (d.Binds ctx ∨ d.Reports ctx ↔ d.value.isOverlooked = false)) ∧
    ∀ p : Program, ∃ made ctx, ctx = { Context.empty with nextTag := ctx.nextTag } ∧
      p.checkWith Required.table .empty = .ok (p.check made ctx) ∧
      ((p.check made ctx).errorCount = 0 →
        p.block.BindsConstants (p.starting made ctx) ∧
        (p.check made ctx).scope = (p.block.declare (p.starting made ctx)).scope ∧
        ∀ r : Routine, r.DeclaredIn p.block →
          ∃ c, p.block.Reaches (p.starting made ctx) r.block c ∧ r.block.BindsConstants c) := by
  refine ⟨fun d ctx hscope => ConstDef.binds_or_reports_iff hscope, fun p => ?_⟩
  obtain ⟨made, next, hmade⟩ := Required.fresh_table
  refine ⟨made, _, rfl, p.checkWith_of_fresh hmade, fun hcount => ?_⟩
  have hforms := (Predefined.fresh_makes .trivial hmade).2.1
  have htable := Predefined.proper_of_sameForm hforms Required.table_proper
  have hstart := p.starting_healthy htable (Context.empty_healthy p.block.constIds next)
  have hsilent := Context.diagnostics_of_errorCount rfl (p.check_extends made _) hcount
  rw [p.check_eq] at hsilent
  refine ⟨Block.Reaches.start.bindsConstants hstart hsilent, ?_, fun r hr => ?_⟩
  . have hscope := congrArg Context.scope (p.block.check_eq_declare
      (p.starting made { Context.empty with nextTag := next }))
    rw [p.check_eq]
    exact hscope
  . obtain ⟨ctx, hmeets⟩ := Block.meets_of_declaredIn hr _
    exact ⟨_, hmeets.reaches, hmeets.reaches.bindsConstants hstart hsilent⟩

namespace Sample

-- Evaluating a sample goes through the frame of all required names.
set_option maxRecDepth 2000

def bigDefinition : ConstDef :=
  ⟨node 4, ⟨node 5, "big"⟩, .integer (node 6) ⟨node 7, "99999999999"⟩⟩

def oneDefinition : ConstDef :=
  ⟨node 8, ⟨node 9, "one"⟩, .integer (node 10) ⟨node 11, "1"⟩⟩

def dropping : Program :=
  -- `program p; const big = 99999999999; one = 1; begin end.`
  ⟨node 0, ⟨node 1, ⟨node 2, "p"⟩, []⟩,
    .mk (node 3) (some ⟨node 12, [bigDefinition, oneDefinition]⟩) none .absent
      ⟨node 13, .compound (node 14) []⟩⟩

theorem empty_within : Context.empty.scope.Within (·.isSentinel = false) := by
  simp [Scope.Within, Scope.entries, Context.empty, Scope.empty]

theorem dropping_accepted :
    ∃ after, dropping.checkWith Required.table .empty = .ok after ∧ after.errorCount = 0 ∧
      after.scope.lookup? "big" = none :=
  ⟨_, rfl, rfl, rfl⟩

theorem big_dropped :
    Context.empty.scope.Within (·.isSentinel = false) ∧
      ¬ (bigDefinition.Binds .empty ∨ bigDefinition.Reports .empty) ∧
      ∃ after, dropping.checkWith Required.table .empty = .ok after ∧ after.errorCount = 0 ∧
        bigDefinition ∈ dropping.block.constDefs ∧ after.scope.lookup? "big" = none := by
  have hoverlooked : bigDefinition.value.isOverlooked = true := rfl
  obtain ⟨after, hafter, hcount, hlookup⟩ := dropping_accepted
  refine ⟨empty_within, ?_, after, hafter, hcount, List.mem_cons_self, hlookup⟩
  rw [ConstDef.binds_or_reports_iff empty_within, hoverlooked]
  exact Bool.noConfusion

theorem one_bound :
    (oneDefinition.Binds .empty ∨ oneDefinition.Reports .empty) ∧
      ∃ after t, dropping.checkWith Required.table .empty = .ok after ∧ after.errorCount = 0 ∧
        after.scope.getInner? "one" = some ⟨"one", t, some (node 9).span⟩ := by
  obtain ⟨hdefinition, hprogram⟩ := Program.constants_bound_or_reported
  refine ⟨(hdefinition oneDefinition .empty empty_within).mpr rfl, ?_⟩
  obtain ⟨made, ctx, -, hcheck, h⟩ := hprogram dropping
  obtain ⟨after, hafter, hcount, -⟩ := dropping_accepted
  rw [hcheck] at hafter
  cases hafter
  obtain ⟨hbinds, hscope, -⟩ := h hcount
  obtain ⟨t, -, ht⟩ := hbinds oneDefinition (List.mem_cons_of_mem _ List.mem_cons_self) rfl
  refine ⟨_, t, hcheck, hcount, ?_⟩
  rw [hscope]
  exact ht

end Sample

end PascalCheck
