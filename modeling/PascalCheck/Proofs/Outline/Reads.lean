import PascalCheck.Proofs.Outline.Syntax
import PascalCheck.Proofs.Coverage.Program

/-!
Which records an outline depends on. Only the types of the nodes that a check may give a type to are
looked up, so records that agree on their numbers give the same outline.
-/

namespace PascalCheck

namespace Records

def AgreeOn (records records' : Records) (ids : List Nat) : Prop :=
  ∀ id ∈ ids, records.type? id = records'.type? id

variable {records records' : Records}

@[simp]
theorem agreeOn_cons (id : Nat) (ids : List Nat) :
    records.AgreeOn records' (id :: ids) ↔
      records.type? id = records'.type? id ∧ records.AgreeOn records' ids :=
  List.forall_mem_cons

@[simp]
theorem agreeOn_append (ids ids' : List Nat) :
    records.AgreeOn records' (ids ++ ids') ↔
      records.AgreeOn records' ids ∧ records.AgreeOn records' ids' :=
  List.forall_mem_append

theorem agreeOn_flatMap {α : Type} {ids : α → List Nat} {xs : List α} :
    records.AgreeOn records' (xs.flatMap ids) ↔ ∀ x ∈ xs, records.AgreeOn records' (ids x) :=
  List.forall_mem_flatMap

theorem typeText_congr {id : Nat} (h : records.type? id = records'.type? id) :
    records.typeText id = records'.typeText id := by
  rw [typeText, h, typeText]

end Records

def Root.ids : Root → List Nat
  | .program p => p.block.items.flatMap Item.ids
  | .heading _ => []
  | .block b => b.items.flatMap Item.ids
  | .body b => Item.ids (.body b.stmt)
  | .constPart p => p.defs.flatMap (·.value.ids)
  | .constDef d => d.value.ids
  | .const c => c.ids
  | .type t => t.items.flatMap Item.ids
  | .typeName t => t.item.ids
  | .varPart p => p.decls.flatMap (·.type.items.flatMap Item.ids)
  | .varDecl d => d.type.items.flatMap Item.ids
  | .routinePart _ routines => routines.flatMap (·.items.flatMap Item.ids)
  | .routine r => r.items.flatMap Item.ids
  | .group g => g.items.flatMap Item.ids
  | .stmt s => Item.ids (.body s)
  | .target t => [t.info.id]
  | .expr e => e.all.flatMap Expr.ids

open Records (typeText_congr agreeOn_flatMap)

variable {records records' : Records}

theorem Const.outline_congr {c : Const} (h : records.AgreeOn records' c.ids) :
    c.outline records = c.outline records' := by
  induction c with
  | signed info sign operand ih =>
    rw [ids, Records.agreeOn_cons] at h
    simp only [outline, typeText_congr h.1, ih h.2]
  | _ =>
    simp only [ids, info, Records.agreeOn_cons] at h
    simp only [outline, typeText_congr h.1]

namespace Expr

theorem info_mem_ids (e : Expr) : e.info.id ∈ e.all.flatMap ids := by
  rw [all_eq, List.flatMap_cons]
  cases e <;> exact List.mem_append_left _ List.mem_cons_self

theorem outlines_congr {es : List Expr} (h : ∀ e ∈ es, e.outline records = e.outline records') :
    outlines records es = outlines records' es := by
  induction es with
  | nil => rw [outlines, outlines]
  | cons e es ih =>
    rw [List.forall_mem_cons] at h
    rw [outlines, h.1, ih h.2, outlines]

theorem outline_congr (e : Expr) (h : records.AgreeOn records' (e.all.flatMap ids)) :
    e.outline records = e.outline records' := by
  induction e using Expr.children_induction with
  | h e ih =>
    rw [all_eq, List.flatMap_cons, Records.agreeOn_append, List.flatMap_assoc, agreeOn_flatMap] at h
    obtain ⟨hown, hchildren⟩ := h
    have ih (c : Expr) (hc : c ∈ e.children) := ih c hc (hchildren c hc)
    cases e with
    | const info c =>
      rw [ids, Records.agreeOn_cons] at hown
      simp only [outline, typeText_congr hown.1, Const.outline_congr hown.2]
    | call info callee args =>
      simp only [ids, Expr.info, Records.agreeOn_cons] at hown
      have hargs : outlines records args = outlines records' args := outlines_congr ih
      simp only [outline, typeText_congr hown.1, hargs]
    | _ =>
      simp only [ids, Expr.info, Records.agreeOn_cons] at hown
      simp only [children, List.forall_mem_cons] at ih
      simp only [outline, typeText_congr hown.1, ih]

end Expr

theorem Item.ids_typed (id : Nat) : (Item.typed id).ids = [id] := rfl

theorem TypeName.outline_congr {t : TypeName} (h : records.AgreeOn records' t.item.ids) :
    t.outline records = t.outline records' := by
  rw [item, Item.ids_typed, Records.agreeOn_cons] at h
  rw [outline, typeText_congr h.1, outline]

theorem TypeDenoter.outline_congr {t : TypeDenoter}
    (h : records.AgreeOn records' (t.items.flatMap Item.ids)) :
    t.outline records = t.outline records' := by
  induction t with
  | named name =>
    apply TypeName.outline_congr
    simpa only [items, List.flatMap_singleton] using h
  | file info component ih =>
    rw [items, List.flatMap_append, Records.agreeOn_append, List.flatMap_singleton,
      Item.ids_typed, Records.agreeOn_cons] at h
    simp only [outline, typeText_congr h.2.1, ih h.1]

theorem Target.outline_congr {t : Target} (h : records.type? t.info.id = records'.type? t.info.id) :
    t.outline records = t.outline records' := by
  rw [outline, typeText_congr h, outline]

namespace Stmt

theorem outlines_congr {ss : List Stmt} (h : ∀ s ∈ ss, s.outline records = s.outline records') :
    outlines records ss = outlines records' ss := by
  induction ss with
  | nil => rw [outlines, outlines]
  | cons s ss ih =>
    rw [List.forall_mem_cons] at h
    rw [outlines, h.1, ih h.2, outlines]

theorem outline_congr (s : Stmt) (h : records.AgreeOn records' (Item.ids (.body s))) :
    s.outline records = s.outline records' := by
  induction s using Stmt.children_induction with
  | h s ih =>
    rw [Item.ids, all_eq, List.flatMap_cons, Records.agreeOn_append, ids, Records.agreeOn_cons,
      Records.agreeOn_append, nodes, List.flatMap_assoc, List.flatMap_assoc, agreeOn_flatMap,
      agreeOn_flatMap] at h
    obtain ⟨⟨hinfo, htargets, hids⟩, hchildren⟩ := h
    have hexprs (e : Expr) (he : e ∈ s.exprs) := e.outline_congr (hids e he)
    have ih (c : Stmt) (hc : c ∈ s.children) := ih c hc (hchildren c hc)
    cases s with
    | assign info target value =>
      -- The line of an assignment shows the types of both its sides besides its own.
      have htarget := htargets target.info.id List.mem_cons_self
      have hvalue := hids value List.mem_cons_self value.info.id value.info_mem_ids
      have hpayload : assignmentPayload records info target value =
          assignmentPayload records' info target value := by
        simp only [assignmentPayload, typeText_congr htarget, typeText_congr hvalue]
        rw [show records.type? info.id = records'.type? info.id from hinfo]
      simp only [outline, hpayload, Target.outline_congr htarget, hexprs value List.mem_cons_self]
    | call info callee args =>
      have hargs : Expr.outlines records (args.getD []) = Expr.outlines records' (args.getD []) :=
        Expr.outlines_congr hexprs
      simp only [outline, hargs]
    | compound info stmts =>
      have hstmts : outlines records stmts = outlines records' stmts := outlines_congr ih
      simp only [outline, hstmts]
    | repeatUntil info stmts condition =>
      have hstmts : outlines records stmts = outlines records' stmts := outlines_congr ih
      simp only [outline, hstmts, hexprs condition List.mem_cons_self]
    | forDo info direction control initial final body =>
      have hcontrol := htargets control.info.id List.mem_cons_self
      simp only [exprs, children, List.forall_mem_cons] at hexprs ih
      simp only [outline, Target.outline_congr hcontrol, hexprs, ih]
    | _ =>
      simp only [exprs, children, List.forall_mem_cons] at hexprs ih
      simp only [outline, hexprs, ih]

end Stmt

theorem ConstDef.outline_congr {d : ConstDef} (h : records.AgreeOn records' d.value.ids) :
    d.outline records = d.outline records' := by
  rw [outline, Const.outline_congr h, outline]

theorem ConstPart.outline_congr {p : ConstPart}
    (h : ∀ d ∈ p.defs, records.AgreeOn records' d.value.ids) :
    p.outline records = p.outline records' := by
  rw [outline, List.map_congr_left fun d hd => ConstDef.outline_congr (h d hd), outline]

theorem VarDecl.outline_congr {d : VarDecl}
    (h : records.AgreeOn records' (d.type.items.flatMap Item.ids)) :
    d.outline records = d.outline records' := by
  rw [outline, TypeDenoter.outline_congr h, outline]

theorem VarPart.outline_congr {p : VarPart}
    (h : ∀ d ∈ p.decls, records.AgreeOn records' (d.type.items.flatMap Item.ids)) :
    p.outline records = p.outline records' := by
  rw [outline, List.map_congr_left fun d hd => VarDecl.outline_congr (h d hd), outline]

theorem Group.outline_congr {g : Group} (h : records.AgreeOn records' (g.items.flatMap Item.ids)) :
    g.outline records = g.outline records' := by
  rw [items, List.flatMap_cons, List.flatMap_singleton, Records.agreeOn_append, Item.ids_typed,
    Records.agreeOn_cons] at h
  simp only [outline, typeText_congr h.2.1, TypeName.outline_congr h.1]

theorem Body.outline_congr {b : Body} (h : records.AgreeOn records' (Item.ids (.body b.stmt))) :
    b.outline records = b.outline records' := by
  rw [outline, b.stmt.outline_congr h, outline]

namespace Routine

theorem outlines_congr {rs : List Routine} (h : ∀ r ∈ rs, r.outline records = r.outline records') :
    outlines records rs = outlines records' rs := by
  induction rs with
  | nil => rw [outlines, outlines]
  | cons r rs ih =>
    rw [List.forall_mem_cons] at h
    rw [outlines, h.1, ih h.2, outlines]

theorem outline_congr_of_block {r : Routine}
    (ih : records.AgreeOn records' (r.block.items.flatMap Item.ids) →
      r.block.outline records = r.block.outline records')
    (h : records.AgreeOn records' (r.items.flatMap Item.ids)) :
    r.outline records = r.outline records' := by
  simp only [items_eq, headItems, List.flatMap_append, Records.agreeOn_append, List.flatMap_assoc,
    List.flatMap_map, List.flatMap_singleton, agreeOn_flatMap, Item.ids_typed,
    Records.agreeOn_cons] at h
  obtain ⟨⟨⟨⟨hresult, -⟩, hgroups⟩, hblock⟩, hname, -⟩ := h
  have hgroups : r.groups.map (·.outline records) = r.groups.map (·.outline records') :=
    List.map_congr_left fun g hg => Group.outline_congr (agreeOn_flatMap.mpr (hgroups g hg))
  have hblock := ih (agreeOn_flatMap.mpr hblock)
  cases r with
  | procedure info name params b =>
    simp only [Routine.name, groups, block] at hname hgroups hblock
    simp only [outline, typeText_congr hname, hgroups, hblock]
  | function info name params result b =>
    have hresult := TypeName.outline_congr (hresult result (by simp [result?]))
    simp only [Routine.name, groups, block] at hname hgroups hblock
    simp only [outline, typeText_congr hname, hgroups, hresult, hblock]

end Routine

theorem Block.outline_congr (b : Block) (h : records.AgreeOn records' (b.items.flatMap Item.ids)) :
    b.outline records = b.outline records' := by
  revert h
  refine @Block.induction
    (fun b => records.AgreeOn records' (b.items.flatMap Item.ids) →
      b.outline records = b.outline records')
    (fun r => records.AgreeOn records' (r.items.flatMap Item.ids) →
      r.outline records = r.outline records') ?_ ?_ ?_ b
  . intro info consts vars part body ih h
    simp only [Block.items_eq, List.flatMap_append, Records.agreeOn_append, List.flatMap_assoc,
      List.flatMap_map, List.flatMap_singleton, agreeOn_flatMap] at h
    obtain ⟨⟨⟨hconsts, hvars⟩, hroutines⟩, hbody⟩ := h
    have hconsts : consts.map (·.outline records) = consts.map (·.outline records') := by
      cases consts with
      | none => rfl
      | some p => exact congrArg some (ConstPart.outline_congr hconsts)
    have hvars : vars.map (·.outline records) = vars.map (·.outline records') := by
      cases vars with
      | none => rfl
      | some p =>
        exact congrArg some (VarPart.outline_congr fun d hd => agreeOn_flatMap.mpr (hvars d hd))
    have hpart : part.outlines records = part.outlines records' := by
      cases part with
      | absent => rw [RoutinePart.outlines, RoutinePart.outlines]
      | present info routines =>
        rw [RoutinePart.outlines, RoutinePart.outlines, Routine.outlines_congr]
        intro r hr
        exact ih r hr (agreeOn_flatMap.mpr (hroutines r hr))
    have hbody : body.outline records = body.outline records' := Body.outline_congr hbody
    simp only [outline, hconsts, hvars, hpart, hbody]
  . intro info name params b ih h
    exact Routine.outline_congr_of_block ih h
  . intro info name params result b ih h
    exact Routine.outline_congr_of_block ih h

theorem Routine.outline_congr (r : Routine)
    (h : records.AgreeOn records' (r.items.flatMap Item.ids)) :
    r.outline records = r.outline records' :=
  Routine.outline_congr_of_block r.block.outline_congr h

theorem Root.outline_congr (root : Root) (h : records.AgreeOn records' root.ids) :
    root.outline records = root.outline records' := by
  cases root with
  | program p => rw [outline, Program.outline, p.block.outline_congr h, outline, Program.outline]
  | heading heading => rfl
  | block b => exact b.outline_congr h
  | body b => exact Body.outline_congr h
  | constPart p => exact ConstPart.outline_congr (agreeOn_flatMap.mp h)
  | constDef d => exact ConstDef.outline_congr h
  | const c => exact Const.outline_congr h
  | type t => exact TypeDenoter.outline_congr h
  | typeName t => exact TypeName.outline_congr h
  | varPart p => exact VarPart.outline_congr (agreeOn_flatMap.mp h)
  | varDecl d => exact VarDecl.outline_congr h
  | routinePart info routines =>
    rw [outline, outline, Routine.outlines_congr]
    intro r hr
    exact r.outline_congr (agreeOn_flatMap.mp h r hr)
  | routine r => exact r.outline_congr h
  | group g => exact Group.outline_congr h
  | stmt s => exact s.outline_congr h
  | target t => exact Target.outline_congr (h t.info.id List.mem_cons_self)
  | expr e => exact e.outline_congr h

end PascalCheck
