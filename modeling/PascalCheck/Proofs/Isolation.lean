import PascalCheck.Proofs.Arena.Reachable
import PascalCheck.Proofs.Growth
import PascalCheck.Proofs.Outline.Drawing
import PascalCheck.Proofs.Outline.Reads

/-!
What the check of a program leaves alone. It gives types to nodes of this program only, and makes new
types without touching those that are there, so nothing changes in what was found out about other
programs before.
-/

namespace PascalCheck

theorem Records.type?_eq_none {records : Records} {id : Nat} (h : id ∉ records.map (·.id)) :
    records.type? id = none := by
  rwa [← Option.not_isSome_iff_eq_none, Records.isSome_type?]

theorem Records.type?_append_of_not_mem {new old : Records} {id : Nat}
    (h : id ∉ new.map (·.id)) : Records.type? (new ++ old) id = old.type? id := by
  rw [Records.type?_append, type?_eq_none h, Option.none_or]

theorem Action.records_apply (ctx : Context) (a : Action) :
    (a.apply ctx).records = (a.apply { ctx with records := [] }).records ++ ctx.records := by
  cases a with
  | define name type => simp [apply, Context.records_define]
  | _ => simp [apply, Context.add, Context.note, Context.predefine, Context.push, Context.pop]

theorem Action.type?_apply (ctx : Context) {a : Action} {id : Nat}
    (h : ∀ item, a.item? = some item → id ∉ item.ids) :
    (a.apply ctx).records.type? id = ctx.records.type? id := by
  rw [records_apply]
  apply Records.type?_append_of_not_mem
  intro hid
  obtain hnone | ⟨item, hitem, hid⟩ := (mem_ids_apply { ctx with records := [] } a id).mp hid
  . cases hnone
  . exact h item hitem (item.annotated_subset _ hid)

theorem Context.type?_run (ctx : Context) {actions : List Action} {id : Nat}
    (h : ∀ a ∈ actions, ∀ item, a.item? = some item → id ∉ item.ids) :
    (ctx.run actions).records.type? id = ctx.records.type? id := by
  induction actions generalizing ctx with
  | nil => rw [run_nil]
  | cons a actions ih =>
    rw [List.forall_mem_cons] at h
    rw [run_cons, ih _ h.2, Action.type?_apply ctx h.1]

theorem Program.type?_check (p : Program) (table : Predefined) (ctx : Context) {id : Nat}
    (h : id ∉ (Root.program p).ids) :
    (p.check table ctx).records.type? id = ctx.records.type? id := by
  rw [← p.plan_does table ctx]
  apply Context.type?_run
  intro a ha item hitem hid
  apply h
  rw [Root.ids, ← p.plan_lists table ctx]
  exact List.mem_flatMap.mpr ⟨item, List.mem_filterMap.mpr ⟨a, ha, hitem⟩, hid⟩

def Kind.isFaulty : Kind → Bool
  | .sentinel .undefined | .sentinel .error | .sentinel .invalidConstant => true
  | _ => false

namespace Arena

def view (arena : Arena) (records : Records) : View where
  typeText? id :=
    match records.type? id with
    | none => some "<<no-type>>"
    | some type => do
      if (← arena.kind? type.identity).isFaulty then return "<<error-type>>"
      -- No chain of descriptors is longer than the arena.
      else arena.text? (arena.length + 1) type.identity
  hasType id := (records.type? id).isSome

def checked (arena : Arena) (p : Program) (table : Predefined) (ctx : Context) :
    Except Fault Arena := do
  let (made, nextTag) ← table.fresh.run ctx.nextTag
  let ctx := { ctx with nextTag }
  return (arena.predefining made).after ctx (p.plan made ctx)

variable {arena : Arena} {ctx : Context}

theorem Supports.view_eq (h : arena.Supports ctx) : arena.view ctx.records = ctx.records.view := by
  have htext (id : Nat) :
      (arena.view ctx.records).typeText? id = ctx.records.view.typeText? id := by
    simp only [view, Records.view, Records.typeText]
    cases htype : ctx.records.type? id with
    | none => rfl
    | some type =>
      obtain ⟨r, hr, rfl⟩ := Records.exists_of_type?_eq_some htype
      have hhas := h.records r hr
      have hfaulty : r.type.kind.isFaulty = (r.type.isError || r.type.isInvalidConstant) := by
        cases r.type with
        | sentinel s => cases s <;> rfl
        | _ => rfl
      simp only [hhas.known, Option.bind_eq_bind, Option.bind_some, hfaulty,
        text?_eq h.founded hhas (Nat.lt_succ_of_le hhas.rank_le)]
      split <;> rfl
  exact congrArg (View.mk · _) (funext htext)

theorem checked_of_fresh {table made : Predefined} {next : Nat} (p : Program)
    (h : table.fresh ctx.nextTag = .ok (made, next)) :
    arena.checked p table ctx =
      .ok ((arena.predefining made).after { ctx with nextTag := next }
        (p.plan made { ctx with nextTag := next })) := by
  rw [checked, show table.fresh.run ctx.nextTag = _ from h]
  rfl

end Arena

/--
All that a context says about other nodes than these is the same as before: the types recorded for
them, and so the drawings of the trees that they are in, for which types are looked up in the arenas.
Diagnostics are added, all of them errors.
-/
structure Context.Spares (ids : List Nat) (arena arena' : Arena) (before after : Context) :
    Prop where
  kinds : ∀ id kind, arena.kind? id = some kind → arena'.kind? id = some kind
  records : ∀ id, id ∉ ids → after.records.type? id = before.records.type? id
  diagnostics : ∃ ds, after.diagnostics = before.diagnostics ++ ds ∧
    (∀ d ∈ ds, d.severity = .error) ∧ after.errorCount = before.errorCount + ds.length
  drawings : ∀ (root : Root) (withIds withCategory : Bool), root.ids.Disjoint ids →
    ∃ text, root.outlinedBy ⟨arena.view before.records, withIds⟩ withCategory = .ok text ∧
      root.outlinedBy ⟨arena'.view after.records, withIds⟩ withCategory = .ok text

theorem Program.check_diagnostics (p : Program) (table : Predefined) (ctx : Context) :
    ∃ ds, (p.check table ctx).diagnostics = ctx.diagnostics ++ ds ∧
      (∀ d ∈ ds, d.severity = .error) ∧
      (p.check table ctx).errorCount = ctx.errorCount + ds.length := by
  obtain ⟨ds, hds, herrors⟩ := (p.check_extends table ctx).diagnostics
  refine ⟨ds, hds, herrors, ?_⟩
  rw [Context.errorCount, Diagnostic.errorCount, hds, List.countP_append]
  have hcount : ds.countP (·.severity == .error) = ds.length := by
    rw [List.countP_eq_length]
    intro d hd
    rw [herrors d hd]
    rfl
  rw [hcount]
  rfl

theorem Root.outlinedBy_view_congr {arena arena' : Arena} {before after : Context}
    (h : arena.Supports before) (h' : arena'.Supports after) {root : Root}
    (hrecords : after.records.AgreeOn before.records root.ids) (withIds withCategory : Bool) :
    ∃ text, root.outlinedBy ⟨arena.view before.records, withIds⟩ withCategory = .ok text ∧
      root.outlinedBy ⟨arena'.view after.records, withIds⟩ withCategory = .ok text := by
  refine ⟨(root.outline before.records).draw withIds, ?_, ?_⟩
  . rw [h.view_eq, root.outlinedBy_eq]
  . rw [h'.view_eq, root.outlinedBy_eq, root.outline_congr hrecords]

theorem Program.checkWith_only_extends (p : Program) {table : Predefined} {ctx : Context}
    {arena : Arena} (hctx : arena.Supports ctx)
    (htable : ∀ entry ∈ table, entry.type.isMakeable = true) :
    ∃ (after : Context) (arena' : Arena), p.checkWith table ctx = .ok after ∧
      arena.checked p table ctx = .ok arena' ∧ arena'.Supports after ∧
      ctx.Spares (Root.program p).ids arena arena' after := by
  obtain ⟨made, next, hfresh⟩ := Predefined.fresh_total htable ctx.nextTag
  -- The program is checked from where the types of the predefined names have been made.
  obtain ⟨hsupports, hmade⟩ := hctx.fresh hfresh
  have hfits := p.plan_fits made _ _ hsupports (List.forall_mem_map.mpr hmade)
  have hafter := hsupports.run hfits
  rw [p.plan_does] at hafter
  refine ⟨_, _, p.checkWith_of_fresh hfresh, Arena.checked_of_fresh p hfresh, hafter, ?_, ?_, ?_, ?_⟩
  . intro id kind hkind
    exact Arena.kind?_append (Arena.kind?_append hkind _) _
  . exact fun id hid => p.type?_check made _ hid
  . exact p.check_diagnostics made _
  . intro root withIds withCategory hdisjoint
    apply Root.outlinedBy_view_congr hctx hafter
    exact fun id hid => p.type?_check made _ (hdisjoint hid)

def Sample.later : Program :=
  -- `program later; var r : integer; r := s.`, where there is no `s`.
  ⟨node 40, ⟨node 41, ⟨node 42, "later"⟩, []⟩,
    .mk (node 43) none
      (some ⟨node 44, [⟨node 45, [⟨node 46, "r"⟩], .named ⟨node 47, ⟨node 48, .integer⟩⟩⟩]⟩) .absent
      ⟨node 49, .assign (node 50) ⟨node 51, ⟨node 52, "r"⟩⟩ (.var (node 53) ⟨node 54, "s"⟩)⟩⟩

theorem Sample.later_spares_skipping :
    let arena := Arena.after [] .empty (Sample.skipping.plan [] .empty)
    ∃ (after : Context) (arena' : Arena) (text : String),
      Sample.later.checkWith Required.table (Sample.skipping.check [] .empty) = .ok after ∧
      arena.checked Sample.later Required.table (Sample.skipping.check [] .empty) = .ok arena' ∧
      (Root.program Sample.skipping).outlinedBy
        ⟨arena.view (Sample.skipping.check [] .empty).records, true⟩ true = .ok text ∧
      (Root.program Sample.skipping).outlinedBy ⟨arena'.view after.records, true⟩ true =
        .ok text := by
  have hreachable : (Sample.skipping.check [] .empty).Reachable _ :=
    .check Sample.skipping .new (by simp)
  obtain ⟨after, arena', hafter, harena, -, hspares⟩ :=
    Sample.later.checkWith_only_extends hreachable.supports Required.table_isMakeable
  have hdisjoint : ∀ id ∈ (Root.program Sample.skipping).ids,
      id ∉ (Root.program Sample.later).ids := by decide
  obtain ⟨text, hbefore, htext⟩ := hspares.drawings _ true true fun id h => hdisjoint id h
  exact ⟨after, arena', text, hafter, harena, hbefore, htext⟩

end PascalCheck
