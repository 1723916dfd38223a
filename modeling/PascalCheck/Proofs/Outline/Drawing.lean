import Mathlib.Data.List.Forall2
import PascalCheck.Proofs.Nodes.Visits
import PascalCheck.Proofs.Outline.Lines

/-!
The visitor that draws outlines, against the outlines that are to be drawn. Each method is a sequence
of steps, and every step adds lines to the text and leaves the markers as they were. A method gives
its parts their markers one by one; that they are the right ones is seen from the parts that are
still to come.
-/

namespace PascalCheck

namespace Outline

def drawn (withIds : Bool) (lines : List (List Bool × Line)) : String :=
  String.join (lines.map fun line => margin line.1 ++ line.2.text withIds ++ "\n")

theorem drawn_append (withIds : Bool) (lines lines' : List (List Bool × Line)) :
    drawn withIds (lines ++ lines') = drawn withIds lines ++ drawn withIds lines' := by
  rw [drawn, List.map_append, String.join_append]
  rfl

def linesBefore (hasMore : Bool) (above : List Bool) : List Outline → List (List Bool × Line)
  | [] => []
  | o :: os => o.lines (above ++ [!os.isEmpty || hasMore]) ++ linesBefore hasMore above os

theorem linesBefore_false (above : List Bool) (os : List Outline) :
    linesBefore false above os = linesAll above os := by
  induction os with
  | nil => rw [linesBefore, linesAll]
  | cons o os ih => rw [linesBefore, linesAll, ih, Bool.or_false]

theorem linesBefore_true_append (above : List Bool) (os : List Outline) {os' : List Outline}
    (hne : os' ≠ []) :
    linesBefore true above os ++ linesAll above os' = linesAll above (os ++ os') := by
  induction os with
  | nil => rfl
  | cons o os ih =>
    have hfollowed : (!(os ++ os').isEmpty) = true := by
      simp [hne]
    rw [linesBefore, List.append_assoc, ih, List.cons_append, linesAll, hfollowed, Bool.or_true]

end Outline

namespace Draw

open Outline (drawn linesAll linesBefore)

def markersOf (above : List Bool) : List Char :=
  above.map fun isFollowed => if isFollowed then '├' else '└'

theorem margin_markersOf (above : List Bool) : margin (markersOf above) = Outline.margin above := by
  fun_induction Outline.margin above with
  | case1 => rfl
  | case2 => rfl
  | case3 => rfl
  | case4 above hne ih | case5 above hne ih =>
    obtain ⟨next, rest, rfl⟩ := List.exists_cons_of_ne_nil hne
    rw [← ih]
    rfl

/-- A step at a node, the way down to which is `above`, adds these lines and cannot fail. -/
def Adds {α : Type} (withIds : Bool) (above : List Bool) (step : Draw α) (value : α)
    (lines : List (List Bool × Line)) : Prop :=
  ∀ text, step.run ⟨markersOf above, text⟩ =
    .ok (value, ⟨markersOf above, text ++ drawn withIds lines⟩)

def Renders (withIds : Bool) (part : Draw Unit) (o : Outline) : Prop :=
  ∀ above, Adds withIds above part () (o.lines above)

variable {α β : Type} {withIds : Bool} {above : List Bool}

namespace Adds

theorem pure (value : α) : Adds withIds above (Pure.pure value) value [] := by
  intro text
  rw [drawn, List.map_nil, String.join_nil, String.append_empty]
  rfl

theorem bind {step : Draw α} {next : α → Draw β} {value : α} {value' : β}
    {lines lines' : List (List Bool × Line)} (h : Adds withIds above step value lines)
    (h' : Adds withIds above (next value) value' lines') :
    Adds withIds above (step >>= next) value' (lines ++ lines') := by
  intro text
  rw [StateT.run_bind, h text, Outline.drawn_append, ← String.append_assoc]
  exact h' _

theorem andThen {step : Draw Unit} {next : Draw α} {value : α}
    {lines lines' : List (List Bool × Line)} (h : Adds withIds above step () lines)
    (h' : Adds withIds above next value lines') :
    Adds withIds above (do step; next) value (lines ++ lines') :=
  h.bind h'

theorem withMarker {part : Draw Unit} {isFollowed : Bool} {lines : List (List Bool × Line)}
    (h : Adds withIds (above ++ [isFollowed]) part () lines) :
    Adds withIds above (Draw.withMarker (if isFollowed then '├' else '└') part) () lines := by
  intro text
  have hmarkers : markersOf (above ++ [isFollowed]) =
      markersOf above ++ [if isFollowed then '├' else '└'] := by
    rw [markersOf, List.map_append]
    rfl
  have hpart := h text
  rw [hmarkers] at hpart
  simp only [Draw.withMarker, StateT.run_bind, StateT.run_modify, pure_bind, hpart]
  change Except.ok ((), Drawing.mk (markersOf above ++ [_]).dropLast _) = _
  rw [List.dropLast_concat]

end Adds

namespace Renders

theorem child {part : Draw Unit} {o : Outline} (h : Renders withIds part o) :
    Adds withIds above (Draw.child part) () (o.lines (above ++ [true])) := by
  have hpart := (h (above ++ [true])).withMarker
  exact hpart

theorem lastChild {part : Draw Unit} {o : Outline} (h : Renders withIds part o) :
    Adds withIds above (Draw.lastChild part) () (o.lines (above ++ [false])) := by
  have hpart := (h (above ++ [false])).withMarker
  exact hpart

end Renders

theorem adds_children_from {parts : List (Draw Unit)} {os : List Outline}
    (h : List.Forall₂ (Renders withIds) parts os) (hasMore : Bool) (i : Nat) :
    Adds withIds above
      ((parts.zipIdx i).forM fun part =>
        if part.2 + 1 == i + parts.length && !hasMore then lastChild part.1 else child part.1)
      () (linesBefore hasMore above os) := by
  induction h generalizing i with
  | nil => exact .pure ()
  | @cons part o parts os hpart hparts ih =>
    have hlength : i + (part :: parts).length = i + 1 + parts.length := by
      rw [List.length_cons]
      omega
    have hempty : os.isEmpty = parts.isEmpty := by
      cases hparts <;> rfl
    have hlast : (i + 1 == i + 1 + parts.length) = parts.isEmpty := by
      cases parts <;> simp
    have hfirst : Adds withIds above
        (if i + 1 == i + 1 + parts.length && !hasMore then lastChild part else child part) ()
        (o.lines (above ++ [!parts.isEmpty || hasMore])) := by
      rw [hlast]
      cases parts.isEmpty <;> cases hasMore
      . exact hpart.child
      . exact hpart.child
      . exact hpart.lastChild
      . exact hpart.child
    rw [List.zipIdx_cons, hlength, linesBefore, hempty]
    exact hfirst.bind (ih (i + 1))

theorem adds_children {parts : List (Draw Unit)} {os : List Outline}
    (h : List.Forall₂ (Renders withIds) parts os) (hasMore : Bool) :
    Adds withIds above (children parts hasMore) () (linesBefore hasMore above os) := by
  simpa only [children, Nat.zero_add] using adds_children_from h hasMore 0

/-! Steps that see to the next parts of a node, with those that see to the parts after them. -/

theorem adds_child_bind {part : Draw Unit} {o : Outline} {next : Unit → Draw α} {value : α}
    {os : List Outline} (h : Renders withIds part o) (hne : os ≠ [])
    (hnext : Adds withIds above (next ()) value (linesAll above os)) :
    Adds withIds above (child part >>= next) value (linesAll above (o :: os)) := by
  have hfollowed : (!os.isEmpty) = true := by
    simp [hne]
  rw [linesAll, hfollowed]
  exact h.child.bind hnext

theorem adds_lastChild_bind {part : Draw Unit} {o : Outline} (h : Renders withIds part o)
    (value : α) :
    Adds withIds above (lastChild part >>= fun _ => pure value) value (linesAll above [o]) :=
  h.lastChild.bind (.pure value)

theorem adds_optionalChild_bind {part : Option (Draw Unit)} {o : Option Outline}
    {next : Unit → Draw α} {value : α} {os : List Outline}
    (h : Option.Rel (Renders withIds) part o) (hne : os ≠ [])
    (hnext : Adds withIds above (next ()) value (linesAll above os)) :
    Adds withIds above (optionalChild part >>= next) value (linesAll above (o.toList ++ os)) := by
  cases h with
  | none => exact (Adds.pure ()).bind hnext
  | some h => exact adds_child_bind h hne hnext

theorem adds_children_bind {parts : List (Draw Unit)} {os os' : List Outline}
    {next : Unit → Draw α} {value : α} (h : List.Forall₂ (Renders withIds) parts os)
    (hne : os' ≠ []) (hnext : Adds withIds above (next ()) value (linesAll above os')) :
    Adds withIds above (children parts true >>= next) value (linesAll above (os ++ os')) := by
  rw [← Outline.linesBefore_true_append above os hne]
  exact (adds_children h true).bind hnext

theorem adds_lastChildren_bind {parts : List (Draw Unit)} {os : List Outline}
    (h : List.Forall₂ (Renders withIds) parts os) (value : α) :
    Adds withIds above (children parts false >>= fun _ => pure value) value
      (linesAll above os) := by
  rw [← Outline.linesBefore_false, ← List.append_nil (linesBefore false above os)]
  exact (adds_children h false).bind (.pure value)

end Draw

namespace Outliner

open Draw (Adds Renders)
open Outline (linesAll)

variable {withIds : Bool} {above : List Bool} (records : Records)

abbrev reading (records : Records) (withIds : Bool) : Outliner :=
  ⟨records.view, withIds⟩

theorem adds_line (nodeClass : NodeClass) (info : Info) (payload : String) :
    Adds withIds above ((reading records withIds).line nodeClass.label info payload) ()
      [(above, ⟨⟨nodeClass, info⟩, payload⟩)] := by
  intro text
  simp only [line, StateT.run_modify, Draw.margin_markersOf, Outline.drawn, List.map_singleton,
    String.join_cons, String.join_nil, String.append_empty, Line.text, ← String.append_assoc]
  rfl

theorem adds_typeText (id : Nat) :
    Adds withIds above ((reading records withIds).typeText id) (records.typeText id) [] :=
  Adds.pure (records.typeText id)

theorem adds_typedLine (nodeClass : NodeClass) (info : Info) (payload : String) (id : Nat) :
    Adds withIds above ((reading records withIds).typedLine nodeClass.label info payload id) ()
      [(above, ⟨⟨nodeClass, info⟩, payload ++ records.typeText id⟩)] :=
  (adds_typeText records id).bind (adds_line records nodeClass info _)

variable {records}

theorem renders_of_pre {info : Info} {form : Form (Draw Unit)} {step : Draw Bool} {o : Outline}
    (hpre : (reading records withIds).pre? info form = some step)
    (hnode : form.nodeClass.isLeaf = false)
    (h : ∀ above, Adds withIds above step false (o.lines above)) :
    Renders withIds ((reading records withIds).visitor.visit info form) o := by
  intro above
  have hmethod : ∀ other, Adds withIds above
      (((reading records withIds).visitor.pre? info form).getD other) false (o.lines above) := by
    intro other
    change Adds withIds above (((reading records withIds).pre? info form).getD other) false _
    rw [hpre]
    exact h above
  rw [Visitor.visit, if_neg (Bool.eq_false_iff.mp hnode), ← List.append_nil (o.lines above)]
  exact (hmethod _).bind (.pure ())

theorem renders_of_leaf {info : Info} {form : Form (Draw Unit)} {step : Draw Unit} {o : Outline}
    (hmethod : (reading records withIds).leaf? info form = some step)
    (hleaf : form.nodeClass.isLeaf = true)
    (h : Renders withIds step o) :
    Renders withIds ((reading records withIds).visitor.visit info form) o := by
  rw [Visitor.visit, if_pos hleaf]
  change Renders withIds (((reading records withIds).leaf? info form).getD _) o
  rw [hmethod]
  exact h

theorem renders_of_category {info : Info} {form : Form (Draw Unit)} {part : Draw Unit}
    {o : Outline} (hpre : (reading records withIds).pre? info form = some (return true))
    (hnode : form.nodeClass.isLeaf = false) (hparts : form.parts = [part])
    (h : Renders withIds part o) :
    Renders withIds ((reading records withIds).visitor.visit info form) o := by
  intro above
  have hmethod : ∀ other, Adds withIds above
      (((reading records withIds).visitor.pre? info form).getD other) true [] := by
    intro other
    change Adds withIds above (((reading records withIds).pre? info form).getD other) true _
    rw [hpre]
    exact .pure true
  have hpart : Adds withIds above ([part].forM id) () (o.lines above ++ []) :=
    (h above).bind (.pure ())
  have hleave : Adds withIds above (unhandled .leave (form.mark info)) () [] := .pure ()
  have hafter := hpart.andThen hleave
  rw [List.append_nil, List.append_nil] at hafter
  rw [Visitor.visit, if_neg (Bool.eq_false_iff.mp hnode), hparts]
  exact (hmethod _).bind hafter

theorem adds_line_bind (nodeClass : NodeClass) (info : Info) (payload : String)
    {next : Unit → Draw Bool} {os : List Outline}
    (h : Adds withIds above (next ()) false (linesAll above os)) :
    Adds withIds above ((reading records withIds).line nodeClass.label info payload >>= next) false
      ((Outline.of nodeClass info payload os).lines above) :=
  (adds_line records nodeClass info payload).bind h

theorem adds_typedLine_bind (nodeClass : NodeClass) (info : Info) (payload : String) (id : Nat)
    {next : Unit → Draw Bool} {os : List Outline}
    (h : Adds withIds above (next ()) false (linesAll above os)) :
    Adds withIds above
      ((reading records withIds).typedLine nodeClass.label info payload id >>= next) false
      ((Outline.of nodeClass info (payload ++ records.typeText id) os).lines above) :=
  (adds_typedLine records nodeClass info payload id).bind h

theorem adds_type_bind (nodeClass : NodeClass) (info : Info) (id : Nat) {next : Unit → Draw Bool}
    {os : List Outline} (h : Adds withIds above (next ()) false (linesAll above os)) :
    Adds withIds above ((reading records withIds).typedLine nodeClass.label info "" id >>= next)
      false ((Outline.of nodeClass info (records.typeText id) os).lines above) := by
  rw [← String.empty_append (s := records.typeText id)]
  exact adds_typedLine_bind nodeClass info "" id h

theorem renders_line (nodeClass : NodeClass) (info : Info) (payload : String) :
    Renders withIds ((reading records withIds).line nodeClass.label info payload)
      (.of nodeClass info payload []) :=
  fun _ => adds_line records nodeClass info payload

theorem renders_typedLine (nodeClass : NodeClass) (info : Info) (payload : String) (id : Nat) :
    Renders withIds ((reading records withIds).typedLine nodeClass.label info payload id)
      (.of nodeClass info (payload ++ records.typeText id) []) :=
  fun _ => adds_typedLine records nodeClass info payload id

end Outliner

section Methods

open Draw Outliner

variable {records : Records} {withIds : Bool}

def Root.Drawn (records : Records) (withIds : Bool) (root : Root) : Prop :=
  Renders withIds (root.fold (reading records withIds).visitor.visit) (root.outline records)

def Root.DrawnForm (records : Records) (withIds : Bool) (root : Root) : Prop :=
  Renders withIds (root.foldForm (reading records withIds).visitor.visit) (root.outline records)

theorem Draw.renders_map {α : Type} {xs : List α} {part : α → Draw Unit} {outline : α → Outline}
    (h : ∀ x ∈ xs, Renders withIds (part x) (outline x)) :
    List.Forall₂ (Renders withIds) (xs.map part) (xs.map outline) := by
  rw [List.forall₂_map_left_iff, List.forall₂_map_right_iff, List.forall₂_same]
  exact h

theorem Draw.renders_option {α : Type} {x : Option α} {part : α → Draw Unit} {outline : α → Outline}
    (h : ∀ y ∈ x, Renders withIds (part y) (outline y)) :
    Option.Rel (Renders withIds) (x.map part) (x.map outline) := by
  cases x with
  | none => exact .none
  | some y => exact .some (h y rfl)

theorem Const.drawnForm {c : Const} (h : ∀ part ∈ c.parts, part.Drawn records withIds) :
    (Root.const c).DrawnForm records withIds := by
  cases c with
  | integer info lexeme =>
    exact renders_of_leaf rfl rfl (renders_typedLine .constInteger info _ info.id)
  | real info lexeme => exact renders_of_leaf rfl rfl (renders_typedLine .constReal info _ info.id)
  | signed info sign operand =>
    have hoperand := h (.const operand) (by simp [parts])
    refine renders_of_pre rfl rfl fun above => ?_
    exact adds_typedLine_bind .constSigned info _ info.id (adds_lastChild_bind hoperand false)
  | named info name => exact renders_of_leaf rfl rfl (renders_typedLine .constNamed info _ info.id)
  | signedNamed info sign name =>
    exact renders_of_leaf rfl rfl (renders_typedLine .constSignedNamed info _ info.id)
  | string info contents =>
    exact renders_of_leaf rfl rfl (renders_typedLine .constString info _ info.id)
  | chr info lexeme => exact renders_of_leaf rfl rfl (renders_typedLine .constChr info _ info.id)
  | bool info value => exact renders_of_leaf rfl rfl (renders_typedLine .constBool info _ info.id)

theorem Expr.renders_map {es : List Expr} (h : ∀ e ∈ es, (Root.expr e).Drawn records withIds) :
    List.Forall₂ (Renders withIds) (folds (reading records withIds).visitor.visit es)
      (outlines records es) := by
  rw [folds_eq_map, outlines_eq_map]
  exact Draw.renders_map h

theorem Expr.drawnForm {e : Expr} (h : ∀ part ∈ e.parts, part.Drawn records withIds) :
    (Root.expr e).DrawnForm records withIds := by
  cases e with
  | const info c =>
    have hconst := h (.const c) (by simp [parts])
    refine renders_of_pre rfl rfl fun above => ?_
    exact adds_type_bind .constExpr info info.id (adds_lastChild_bind hconst false)
  | var info name => exact renders_of_leaf rfl rfl (renders_typedLine .varExpr info _ info.id)
  | call info callee args =>
    rw [parts, List.forall_mem_map] at h
    refine renders_of_pre rfl rfl fun above => ?_
    exact adds_typedLine_bind .callExpr info _ info.id
      (adds_lastChildren_bind (renders_map h) false)
  | paren info inner =>
    have hinner := h (.expr inner) (by simp [parts])
    refine renders_of_pre rfl rfl fun above => ?_
    exact adds_type_bind .parenExpr info info.id (adds_lastChild_bind hinner false)
  | unary info op operand =>
    have hoperand := h (.expr operand) (by simp [parts])
    refine renders_of_pre rfl rfl fun above => ?_
    exact adds_typedLine_bind .unaryExpr info _ info.id (adds_lastChild_bind hoperand false)
  | binary info op left right =>
    have hleft := h (.expr left) (by simp [parts])
    have hright := h (.expr right) (by simp [parts])
    refine renders_of_pre rfl rfl fun above => ?_
    exact adds_typedLine_bind .binaryExpr info _ info.id
      (adds_child_bind hleft (by simp) (adds_lastChild_bind hright false))

theorem TypeDenoter.drawnForm {t : TypeDenoter} (h : ∀ part ∈ t.parts, part.Drawn records withIds) :
    (Root.type t).DrawnForm records withIds := by
  cases t with
  | named name =>
    exact renders_of_leaf rfl rfl (renders_typedLine .typeName name.info _ name.info.id)
  | file info component =>
    have hcomponent := h (.type component) (by simp [parts])
    refine renders_of_pre rfl rfl fun above => ?_
    exact adds_type_bind .fileType info info.id (adds_lastChild_bind hcomponent false)

theorem Stmt.renders_map {ss : List Stmt} (h : ∀ s ∈ ss, (Root.stmt s).Drawn records withIds) :
    List.Forall₂ (Renders withIds) (folds (reading records withIds).visitor.visit ss)
      (outlines records ss) := by
  rw [folds_eq_map, outlines_eq_map]
  exact Draw.renders_map h

theorem Stmt.drawnForm {s : Stmt} (h : ∀ part ∈ s.parts, part.Drawn records withIds) :
    (Root.stmt s).DrawnForm records withIds := by
  cases s with
  | assign info target value =>
    have htarget := h (.target target) (by simp [parts])
    have hvalue := h (.expr value) (by simp [parts])
    refine renders_of_pre rfl rfl fun above => ?_
    -- The types of both sides are read before the line is drawn.
    refine (adds_typeText records target.info.id).bind
      ((adds_typeText records value.info.id).bind ?_)
    exact adds_line_bind .assignStmt info _
      (adds_child_bind htarget (by simp) (adds_lastChild_bind hvalue false))
  | call info callee args =>
    refine renders_of_pre rfl rfl fun above => ?_
    cases args with
    | none => exact adds_line_bind .callStmt info _ (.pure false)
    | some args =>
      rw [parts, List.forall_mem_map] at h
      exact adds_line_bind .callStmt info _ (adds_lastChildren_bind (Expr.renders_map h) false)
  | compound info stmts =>
    rw [parts, List.forall_mem_map] at h
    refine renders_of_pre rfl rfl fun above => ?_
    exact adds_line_bind .compoundStmt info _ (adds_lastChildren_bind (renders_map h) false)
  | ifThen info condition thenStmt =>
    have hcondition := h (.expr condition) (by simp [parts])
    have hthen := h (.stmt thenStmt) (by simp [parts])
    refine renders_of_pre rfl rfl fun above => ?_
    exact adds_line_bind .ifStmt info _
      (adds_child_bind hcondition (by simp) (adds_lastChild_bind hthen false))
  | ifThenElse info condition thenStmt elseStmt =>
    have hcondition := h (.expr condition) (by simp [parts])
    have hthen := h (.stmt thenStmt) (by simp [parts])
    have helse := h (.stmt elseStmt) (by simp [parts])
    refine renders_of_pre rfl rfl fun above => ?_
    exact adds_line_bind .ifStmt info _ (adds_child_bind hcondition (by simp)
      (adds_child_bind hthen (by simp) (adds_lastChild_bind helse false)))
  | repeatUntil info stmts condition =>
    rw [parts, List.forall_mem_append, List.forall_mem_map, List.forall_mem_singleton] at h
    refine renders_of_pre rfl rfl fun above => ?_
    exact adds_line_bind .repeatStmt info _
      (adds_children_bind (renders_map h.1) (by simp) (adds_lastChild_bind h.2 false))
  | whileDo info condition body =>
    have hcondition := h (.expr condition) (by simp [parts])
    have hbody := h (.stmt body) (by simp [parts])
    refine renders_of_pre rfl rfl fun above => ?_
    exact adds_line_bind .whileStmt info _
      (adds_child_bind hcondition (by simp) (adds_lastChild_bind hbody false))
  | forDo info direction control initial final body =>
    have hcontrol := h (.target control) (by simp [parts])
    have hinitial := h (.expr initial) (by simp [parts])
    have hfinal := h (.expr final) (by simp [parts])
    have hbody := h (.stmt body) (by simp [parts])
    refine renders_of_pre rfl rfl fun above => ?_
    exact adds_line_bind .forStmt info _ (adds_child_bind hcontrol (by simp)
      (adds_child_bind hinitial (by simp)
        (adds_child_bind hfinal (by simp) (adds_lastChild_bind hbody false))))
  | empty info => exact renders_of_leaf rfl rfl (renders_line .emptyStmt info "")

theorem Group.drawnForm {g : Group} (h : (Root.typeName g.type).Drawn records withIds) :
    (Root.group g).DrawnForm records withIds := by
  obtain ⟨info, mode, names, type⟩ := g
  cases mode with
  | value =>
    refine renders_of_pre rfl rfl fun above => ?_
    exact adds_typedLine_bind .valueGroup info _ info.id (adds_lastChild_bind h false)
  | var =>
    refine renders_of_pre rfl rfl fun above => ?_
    exact adds_typedLine_bind .varGroup info _ info.id (adds_lastChild_bind h false)

theorem RoutinePart.renders {part : RoutinePart}
    (h : ∀ node ∈ part.nodes, node.Drawn records withIds) :
    ∃ o, part.outlines records = o.toList ∧
      Option.Rel (Renders withIds) (part.fold? (reading records withIds).visitor.visit) o := by
  cases part with
  | absent => exact ⟨none, rfl, .none⟩
  | present info routines =>
    exact ⟨some _, rfl, .some (h (.routinePart info routines) List.mem_cons_self)⟩

theorem Block.drawnForm {b : Block} (h : ∀ part ∈ b.parts, part.Drawn records withIds) :
    (Root.block b).DrawnForm records withIds := by
  obtain ⟨info, consts, vars, part, body⟩ := b
  simp only [parts, List.forall_mem_append, List.forall_mem_map, Option.mem_toList,
    List.forall_mem_singleton] at h
  obtain ⟨⟨⟨hconsts, hvars⟩, hpart⟩, hbody⟩ := h
  obtain ⟨o, houtlines, hpart⟩ := RoutinePart.renders hpart
  refine renders_of_pre rfl rfl fun above => ?_
  rw [Root.outline, outline, houtlines, List.append_assoc, List.append_assoc]
  exact adds_line_bind .block info _
    (adds_optionalChild_bind (Draw.renders_option hconsts) (by simp)
      (adds_optionalChild_bind (Draw.renders_option hvars) (by simp)
        (adds_optionalChild_bind hpart (by simp) (adds_lastChild_bind hbody false))))

theorem Routine.drawnForm {r : Routine} (h : ∀ part ∈ r.parts, part.Drawn records withIds) :
    (Root.routine r).DrawnForm records withIds := by
  cases r with
  | procedure info name params b =>
    rw [parts, List.forall_mem_append, List.forall_mem_map, List.forall_mem_singleton] at h
    refine renders_of_pre rfl rfl fun above => ?_
    cases params with
    | none => exact adds_typedLine_bind .procedure info _ name.id (adds_lastChild_bind h.2 false)
    | some params =>
      exact adds_typedLine_bind .procedure info _ name.id
        (adds_children_bind (Draw.renders_map h.1) (by simp) (adds_lastChild_bind h.2 false))
  | function info name params result b =>
    rw [parts, List.forall_mem_append, List.forall_mem_map, List.forall_mem_cons,
      List.forall_mem_singleton] at h
    obtain ⟨hparams, hresult, hblock⟩ := h
    refine renders_of_pre rfl rfl fun above => ?_
    cases params with
    | none =>
      exact adds_typedLine_bind .function info _ name.id
        (adds_child_bind hresult (by simp) (adds_lastChild_bind hblock false))
    | some params =>
      exact adds_typedLine_bind .function info _ name.id
        (adds_children_bind (Draw.renders_map hparams) (by simp)
          (adds_child_bind hresult (by simp) (adds_lastChild_bind hblock false)))

namespace Root

theorem drawnForm_of_parts {root : Root} (h : ∀ part ∈ root.parts, part.Drawn records withIds) :
    root.DrawnForm records withIds := by
  cases root with
  | program p =>
    have hheading := h (.heading p.heading) (by simp [parts])
    have hblock := h (.block p.block) (by simp [parts])
    refine renders_of_pre rfl rfl fun above => ?_
    exact adds_line_bind .program p.info _
      (adds_child_bind hheading (by simp) (adds_lastChild_bind hblock false))
  | heading heading => exact renders_of_leaf rfl rfl (renders_line .heading heading.info _)
  | block b => exact b.drawnForm h
  | body b =>
    have hstmt := h (.stmt b.stmt) (by simp [parts])
    refine renders_of_pre rfl rfl fun above => ?_
    exact adds_line_bind .body b.info _ (adds_lastChild_bind hstmt false)
  | constPart p =>
    rw [parts, List.forall_mem_map] at h
    refine renders_of_pre rfl rfl fun above => ?_
    exact adds_line_bind .constPart p.info _
      (adds_lastChildren_bind (Draw.renders_map h) false)
  | constDef d =>
    have hvalue := h (.const d.value) (by simp [parts])
    refine renders_of_pre rfl rfl fun above => ?_
    exact adds_line_bind .constDef d.info _ (adds_lastChild_bind hvalue false)
  | const c => exact Const.drawnForm h
  | type t => exact TypeDenoter.drawnForm h
  | typeName t => exact renders_of_leaf rfl rfl (renders_typedLine .typeName t.info _ t.info.id)
  | varPart p =>
    rw [parts, List.forall_mem_map] at h
    refine renders_of_pre rfl rfl fun above => ?_
    exact adds_line_bind .varPart p.info _ (adds_lastChildren_bind (Draw.renders_map h) false)
  | varDecl d =>
    have htype := h (.type d.type) (by simp [parts])
    refine renders_of_pre rfl rfl fun above => ?_
    exact adds_line_bind .varDecl d.info _ (adds_lastChild_bind htype false)
  | routinePart info routines =>
    rw [parts, List.forall_mem_map] at h
    refine renders_of_pre rfl rfl fun above => ?_
    rw [Routine.folds_eq_map, outline, Routine.outlines_eq_map]
    exact adds_line_bind .routinePart info _ (adds_lastChildren_bind (Draw.renders_map h) false)
  | routine r => exact Routine.drawnForm h
  | group g => exact Group.drawnForm (h (.typeName g.type) (by simp [parts]))
  | stmt s => exact Stmt.drawnForm h
  | target t => exact renders_of_leaf rfl rfl (renders_typedLine .target t.info _ t.info.id)
  | expr e => exact Expr.drawnForm h

theorem drawn (root : Root) : root.Drawn records withIds := by
  induction root using parts_induction with
  | h root ih =>
    have hform := drawnForm_of_parts ih
    cases root with
    | const _ | type _ | routine _ | group _ | stmt _ | expr _ =>
      exact renders_of_category rfl rfl rfl hform
    | _ => exact hform

theorem drawnForm (root : Root) : root.DrawnForm records withIds :=
  drawnForm_of_parts fun part _ => part.drawn

end Root

theorem Draw.Renders.run {part : Draw Unit} {o : Outline} (h : Renders withIds part o) :
    Outliner.run part = .ok (o.draw withIds) := by
  have hrun := h [] ""
  rw [String.empty_append] at hrun
  simp only [Outliner.run]
  rw [show StateT.run part ⟨[], ""⟩ = _ from hrun]
  rfl

def Root.outlinedBy (root : Root) (o : Outliner) (withCategory : Bool) : Except Fault String :=
  Outliner.run (root.visited o.visitor.visit withCategory)

theorem Root.outlinedBy_eq (records : Records) (withIds withCategory : Bool) (root : Root) :
    root.outlinedBy ⟨records.view, withIds⟩ withCategory =
      .ok ((root.outline records).draw withIds) := by
  cases withCategory with
  | true => exact root.drawn.run
  | false => exact root.drawnForm.run

end Methods

end PascalCheck
