import Mathlib.Data.List.Forall2
import PascalCheck.Proofs.Outline.Drawing

/-!
An outline and a walk go through the same nodes. The walk enters a category and then the form that it
has; the outline has one line for both. Otherwise there is a line for every node that the walk meets,
in the order of the walk.
-/

namespace PascalCheck

open Text (OneLine)

namespace Shape

def forms (s : Shape) : List Landmark :=
  s.marks.filter fun mark => !mark.nodeClass.isCategory

theorem marks_leaf (mark : Landmark) : (Shape.leaf mark).marks = [mark] := by
  simp [marks, events, walk]

theorem marks_node (mark : Landmark) (parts : List Shape) :
    (Shape.node mark parts).marks = mark :: parts.flatMap marks := by
  simp [marks, events, walk, walkAll_eq_flatMap, List.filter_flatMap, List.map_flatMap]
  rfl

theorem forms_node (mark : Landmark) (parts : List Shape) :
    (Shape.node mark parts).forms =
      (if mark.nodeClass.isCategory then [] else [mark]) ++ parts.flatMap forms := by
  unfold forms
  rw [marks_node, List.filter_cons, List.filter_flatMap]
  cases mark.nodeClass.isCategory <;> rfl

end Shape

namespace Outline

/-- One line for every node that is no category, with the parts below it in their order. -/
inductive Draws : Outline → Shape → Prop where
  | leaf {nodeClass : NodeClass} {info : Info} {payload : String} :
    nodeClass.isCategory = false → OneLine payload →
    Draws (.node ⟨⟨nodeClass, info⟩, payload⟩ []) (.leaf ⟨nodeClass, info⟩)
  | node {nodeClass : NodeClass} {info : Info} {payload : String} {parts : List Outline}
      {shapes : List Shape} : nodeClass.isCategory = false → OneLine payload →
    List.Forall₂ Draws parts shapes →
    Draws (.node ⟨⟨nodeClass, info⟩, payload⟩ parts) (.node ⟨nodeClass, info⟩ shapes)
  | category {nodeClass : NodeClass} {info : Info} {o : Outline} {form : Shape} :
    nodeClass.isCategory = true → Draws o form → Draws o (.node ⟨nodeClass, info⟩ [form])

def Shows (line : List Bool × Line) (mark : Landmark) : Prop :=
  OneLine line.2.payload ∧ line.2.mark = mark

theorem Draws.lines {o : Outline} {s : Shape} (h : o.Draws s) (above : List Bool) :
    List.Forall₂ Shows (o.lines above) s.forms := by
  revert above
  -- `Draws` is nested in `Forall₂`, so the recursor goes over trees and over lists of trees.
  refine @Draws.rec (fun o s _ => ∀ above, List.Forall₂ Shows (o.lines above) s.forms)
    (fun os ss _ => ∀ above, List.Forall₂ Shows (linesAll above os) (ss.flatMap Shape.forms))
    ?_ ?_ ?_ ?_ ?_ o s h
  . intro nodeClass info payload hform hpayload above
    rw [Outline.lines, linesAll, Shape.forms, Shape.marks_leaf, List.filter_cons_of_pos]
    . exact .cons ⟨hpayload, rfl⟩ .nil
    . rw [hform]
      rfl
  . intro nodeClass info payload parts shapes hform hpayload _ ih above
    rw [Outline.lines, Shape.forms_node, hform]
    exact .cons ⟨hpayload, rfl⟩ (ih above)
  . intro nodeClass info o form hcategory _ ih above
    rw [Shape.forms_node, hcategory, List.flatMap_singleton]
    exact ih above
  . intro above
    exact .nil
  . intro o s os ss _ _ ih ihs above
    rw [linesAll, List.flatMap_cons]
    exact List.rel_append (ih _) (ihs above)

end Outline

def Const.lexemes : Const → List String
  | .integer _ lexeme | .real _ lexeme | .chr _ lexeme => [lexeme.value]
  | .signed _ _ operand => operand.lexemes
  | .named _ _ | .signedNamed _ _ _ | .string _ _ | .bool _ _ => []

mutual

def Expr.lexemes : Expr → List String
  | .const _ c => c.lexemes
  | .var _ _ => []
  | .call _ _ args => Expr.lexemesAll args
  | .paren _ e | .unary _ _ e => e.lexemes
  | .binary _ _ left right => left.lexemes ++ right.lexemes

def Expr.lexemesAll : List Expr → List String
  | [] => []
  | e :: es => e.lexemes ++ Expr.lexemesAll es

end

mutual

def Stmt.lexemes : Stmt → List String
  | .assign _ _ value => value.lexemes
  | .call _ _ args => Expr.lexemesAll (args.getD [])
  | .compound _ stmts => Stmt.lexemesAll stmts
  | .ifThen _ condition thenStmt => condition.lexemes ++ thenStmt.lexemes
  | .ifThenElse _ condition thenStmt elseStmt =>
    condition.lexemes ++ thenStmt.lexemes ++ elseStmt.lexemes
  | .repeatUntil _ stmts condition => Stmt.lexemesAll stmts ++ condition.lexemes
  | .whileDo _ condition body => condition.lexemes ++ body.lexemes
  | .forDo _ _ _ initial final body => initial.lexemes ++ final.lexemes ++ body.lexemes
  | .empty _ => []

def Stmt.lexemesAll : List Stmt → List String
  | [] => []
  | s :: ss => s.lexemes ++ Stmt.lexemesAll ss

end

def ConstPart.lexemes (p : ConstPart) : List String :=
  p.defs.flatMap (·.value.lexemes)

mutual

def Block.lexemes : Block → List String
  | .mk _ consts _ part body =>
    consts.toList.flatMap ConstPart.lexemes ++ part.lexemes ++ body.stmt.lexemes

def RoutinePart.lexemes : RoutinePart → List String
  | .absent => []
  | .present _ routines => Routine.lexemesAll routines

def Routine.lexemes : Routine → List String
  | .procedure _ _ _ block | .function _ _ _ _ block => block.lexemes

def Routine.lexemesAll : List Routine → List String
  | [] => []
  | r :: rs => r.lexemes ++ Routine.lexemesAll rs

end

def Root.lexemes : Root → List String
  | .program p => p.block.lexemes
  | .block b => b.lexemes
  | .body b => b.stmt.lexemes
  | .constPart p => p.lexemes
  | .constDef d => d.value.lexemes
  | .const c => c.lexemes
  | .routinePart _ routines => Routine.lexemesAll routines
  | .routine r => r.lexemes
  | .stmt s => s.lexemes
  | .expr e => e.lexemes
  | .heading _ | .type _ | .typeName _ | .varPart _ | .varDecl _ | .group _ | .target _ => []

open Outline (Draws)

variable {records : Records}

theorem Const.outline_draws {c : Const} (h : ∀ lexeme ∈ c.lexemes, OneLine lexeme) :
    (c.outline records).Draws c.shape := by
  induction c with
  | integer info lexeme | real info lexeme | chr info lexeme =>
    refine .category rfl (.leaf rfl ?_)
    simpa [lexemes] using h
  | signed info sign operand ih =>
    refine .category rfl (.node rfl ?_ (.cons (ih h) .nil))
    simp
  | named info name | signedNamed info sign name | string info contents =>
    refine .category rfl (.leaf rfl ?_)
    simp
  | bool info value =>
    refine .category rfl (.leaf rfl ?_)
    simp only [Text.oneLine_append, Records.oneLine_typeText, Text.oneLine_space]
    split <;> decide

namespace Expr

theorem outlines_draw {es : List Expr} (h : ∀ lexeme ∈ lexemesAll es, OneLine lexeme)
    (ih : ∀ e ∈ es, (∀ lexeme ∈ e.lexemes, OneLine lexeme) → (e.outline records).Draws e.shape) :
    List.Forall₂ Draws (outlines records es) (shapes es) := by
  induction es with
  | nil => exact .nil
  | cons e es ihes =>
    rw [lexemesAll, List.forall_mem_append] at h
    rw [List.forall_mem_cons] at ih
    exact .cons (ih.1 h.1) (ihes h.2 ih.2)

theorem outline_draws {e : Expr} (h : ∀ lexeme ∈ e.lexemes, OneLine lexeme) :
    (e.outline records).Draws e.shape := by
  induction e using Expr.induction with
  | const info c => exact .category rfl (.node rfl (by simp) (.cons (Const.outline_draws h) .nil))
  | var info name => exact .category rfl (.leaf rfl (by simp))
  | call info callee args ih => exact .category rfl (.node rfl (by simp) (outlines_draw h ih))
  | paren info e ih => exact .category rfl (.node rfl (by simp) (.cons (ih h) .nil))
  | unary info op e ih => exact .category rfl (.node rfl (by simp) (.cons (ih h) .nil))
  | binary info op left right ihleft ihright =>
    rw [lexemes, List.forall_mem_append] at h
    exact .category rfl (.node rfl (by simp) (.cons (ihleft h.1) (.cons (ihright h.2) .nil)))

end Expr

theorem TypeName.outline_draws (t : TypeName) : (t.outline records).Draws t.shape :=
  .leaf rfl (by simp)

theorem TypeDenoter.outline_draws (t : TypeDenoter) : (t.outline records).Draws t.shape := by
  induction t with
  | named name => exact .category rfl name.outline_draws
  | file info component ih => exact .category rfl (.node rfl (by simp) (.cons ih .nil))

theorem Target.outline_draws (t : Target) : (t.outline records).Draws t.shape :=
  .leaf rfl (by simp)

namespace Stmt

theorem outlines_draw {ss : List Stmt} (h : ∀ lexeme ∈ lexemesAll ss, OneLine lexeme)
    (ih : ∀ s ∈ ss, (∀ lexeme ∈ s.lexemes, OneLine lexeme) → (s.outline records).Draws s.shape) :
    List.Forall₂ Draws (outlines records ss) (shapes ss) := by
  induction ss with
  | nil => exact .nil
  | cons s ss ihss =>
    rw [lexemesAll, List.forall_mem_append] at h
    rw [List.forall_mem_cons] at ih
    exact .cons (ih.1 h.1) (ihss h.2 ih.2)

theorem outline_draws {s : Stmt} (h : ∀ lexeme ∈ s.lexemes, OneLine lexeme) :
    (s.outline records).Draws s.shape := by
  induction s using Stmt.induction with
  | assign info target value =>
    exact .category rfl (.node rfl (by simp)
      (.cons target.outline_draws (.cons (Expr.outline_draws h) .nil)))
  | call info callee args =>
    refine .category rfl (.node rfl (by simp) (Expr.outlines_draw h ?_))
    exact fun e _ he => Expr.outline_draws he
  | compound info stmts ih => exact .category rfl (.node rfl (by simp) (outlines_draw h ih))
  | ifThen info condition thenStmt ih =>
    rw [lexemes, List.forall_mem_append] at h
    exact .category rfl (.node rfl (by simp)
      (.cons (Expr.outline_draws h.1) (.cons (ih h.2) .nil)))
  | ifThenElse info condition thenStmt elseStmt ihthen ihelse =>
    rw [lexemes, List.forall_mem_append, List.forall_mem_append] at h
    exact .category rfl (.node rfl (by simp)
      (.cons (Expr.outline_draws h.1.1) (.cons (ihthen h.1.2) (.cons (ihelse h.2) .nil))))
  | repeatUntil info stmts condition ih =>
    rw [lexemes, List.forall_mem_append] at h
    exact .category rfl (.node rfl (by simp)
      (List.rel_append (outlines_draw h.1 ih) (.cons (Expr.outline_draws h.2) .nil)))
  | whileDo info condition body ih =>
    rw [lexemes, List.forall_mem_append] at h
    exact .category rfl (.node rfl (by simp)
      (.cons (Expr.outline_draws h.1) (.cons (ih h.2) .nil)))
  | forDo info direction control initial final body ih =>
    rw [lexemes, List.forall_mem_append, List.forall_mem_append] at h
    exact .category rfl (.node rfl (by simp) (.cons control.outline_draws
      (.cons (Expr.outline_draws h.1.1) (.cons (Expr.outline_draws h.1.2) (.cons (ih h.2) .nil)))))
  | empty info => exact .category rfl (.leaf rfl (by simp))

end Stmt

theorem Outline.Draws.map {α : Type} {xs : List α} {outline : α → Outline} {shape : α → Shape}
    (h : ∀ x ∈ xs, (outline x).Draws (shape x)) :
    List.Forall₂ Draws (xs.map outline) (xs.map shape) := by
  rw [List.forall₂_map_left_iff, List.forall₂_map_right_iff, List.forall₂_same]
  exact h

theorem ConstDef.outline_draws {d : ConstDef} (h : ∀ lexeme ∈ d.value.lexemes, OneLine lexeme) :
    (d.outline records).Draws d.shape :=
  .node rfl (by simp) (.cons (Const.outline_draws h) .nil)

theorem ConstPart.outline_draws {p : ConstPart} (h : ∀ lexeme ∈ p.lexemes, OneLine lexeme) :
    (p.outline records).Draws p.shape := by
  rw [lexemes, List.forall_mem_flatMap] at h
  exact .node rfl (by simp) (Draws.map fun d hd => d.outline_draws (h d hd))

theorem VarDecl.outline_draws (d : VarDecl) : (d.outline records).Draws d.shape :=
  .node rfl (by simp) (.cons d.type.outline_draws .nil)

theorem VarPart.outline_draws (p : VarPart) : (p.outline records).Draws p.shape :=
  .node rfl (by simp) (Draws.map fun d _ => d.outline_draws)

theorem Group.outline_draws (g : Group) : (g.outline records).Draws g.shape := by
  rcases g with ⟨info, mode, names, type⟩
  cases mode with
  | value => exact .category rfl (.node rfl (by simp) (.cons type.outline_draws .nil))
  | var => exact .category rfl (.node rfl (by simp) (.cons type.outline_draws .nil))

theorem Body.outline_draws {b : Body} (h : ∀ lexeme ∈ b.stmt.lexemes, OneLine lexeme) :
    (b.outline records).Draws b.shape :=
  .node rfl (by simp) (.cons (Stmt.outline_draws h) .nil)

namespace Routine

theorem outlines_draw {rs : List Routine} (h : ∀ lexeme ∈ lexemesAll rs, OneLine lexeme)
    (ih : ∀ r ∈ rs, (∀ lexeme ∈ r.lexemes, OneLine lexeme) → (r.outline records).Draws r.shape) :
    List.Forall₂ Draws (outlines records rs) (shapes rs) := by
  induction rs with
  | nil => exact .nil
  | cons r rs ihrs =>
    rw [lexemesAll, List.forall_mem_append] at h
    rw [List.forall_mem_cons] at ih
    exact .cons (ih.1 h.1) (ihrs h.2 ih.2)

theorem groups_draw (params : Option (List Group)) :
    List.Forall₂ Draws ((params.getD []).map (·.outline records))
      ((params.getD []).map Group.shape) :=
  Draws.map fun g _ => g.outline_draws

theorem procedure_draws {b : Block} (hb : (b.outline records).Draws b.shape) (info : Info)
    (name : Name) (params : Option (List Group)) :
    ((Routine.procedure info name params b).outline records).Draws
      (Routine.procedure info name params b).shape :=
  .category rfl (.node rfl (by simp) (List.rel_append (groups_draw params) (.cons hb .nil)))

theorem function_draws {b : Block} (hb : (b.outline records).Draws b.shape) (info : Info)
    (name : Name) (params : Option (List Group)) (result : TypeName) :
    ((Routine.function info name params result b).outline records).Draws
      (Routine.function info name params result b).shape :=
  .category rfl (.node rfl (by simp)
    (List.rel_append (groups_draw params) (.cons result.outline_draws (.cons hb .nil))))

end Routine

theorem RoutinePart.outlines_draw {part : RoutinePart}
    (h : ∀ lexeme ∈ part.lexemes, OneLine lexeme)
    (ih : ∀ r ∈ part.routines, (∀ lexeme ∈ r.lexemes, OneLine lexeme) →
      (r.outline records).Draws r.shape) :
    List.Forall₂ Draws (part.outlines records) part.shapes := by
  cases part with
  | absent => exact .nil
  | present info routines =>
    exact .cons (.node rfl (by simp) (Routine.outlines_draw h ih)) .nil

theorem Block.outline_draws {b : Block} (h : ∀ lexeme ∈ b.lexemes, OneLine lexeme) :
    (b.outline records).Draws b.shape := by
  revert h
  refine @Block.induction
    (fun b => (∀ lexeme ∈ b.lexemes, OneLine lexeme) → (b.outline records).Draws b.shape)
    (fun r => (∀ lexeme ∈ r.lexemes, OneLine lexeme) → (r.outline records).Draws r.shape)
    ?_ ?_ ?_ b
  . intro info consts vars part body ih h
    rw [lexemes, List.forall_mem_append, List.forall_mem_append, List.forall_mem_flatMap] at h
    obtain ⟨⟨hconsts, hpart⟩, hbody⟩ := h
    have hconsts : List.Forall₂ Draws (consts.map (·.outline records)).toList
        (consts.map ConstPart.shape).toList := by
      cases consts with
      | none => exact .nil
      | some p => exact .cons (ConstPart.outline_draws (hconsts p (by simp))) .nil
    have hvars : List.Forall₂ Draws (vars.map (·.outline records)).toList
        (vars.map VarPart.shape).toList := by
      cases vars with
      | none => exact .nil
      | some p => exact .cons p.outline_draws .nil
    refine .node rfl (by simp) ?_
    apply List.rel_append
    . exact List.rel_append (List.rel_append hconsts hvars) (RoutinePart.outlines_draw hpart ih)
    . exact .cons (Body.outline_draws hbody) .nil
  . intro info name params b ih h
    exact Routine.procedure_draws (ih h) info name params
  . intro info name params result b ih h
    exact Routine.function_draws (ih h) info name params result

theorem Routine.outline_draws {r : Routine} (h : ∀ lexeme ∈ r.lexemes, OneLine lexeme) :
    (r.outline records).Draws r.shape := by
  cases r with
  | procedure info name params b =>
    exact procedure_draws (Block.outline_draws h) info name params
  | function info name params result b =>
    exact function_draws (Block.outline_draws h) info name params result

theorem Heading.outline_draws (heading : Heading) : heading.outline.Draws heading.shape :=
  .leaf rfl (by simp)

theorem Program.outline_draws {p : Program} (h : ∀ lexeme ∈ p.block.lexemes, OneLine lexeme) :
    (p.outline records).Draws p.shape :=
  .node rfl (by simp) (.cons p.heading.outline_draws (.cons (Block.outline_draws h) .nil))

theorem Root.outline_draws {root : Root} (h : ∀ lexeme ∈ root.lexemes, OneLine lexeme) :
    (root.outline records).Draws root.shape := by
  cases root with
  | program p => exact Program.outline_draws h
  | heading heading => exact heading.outline_draws
  | block b => exact Block.outline_draws h
  | body b => exact Body.outline_draws h
  | constPart p => exact ConstPart.outline_draws h
  | constDef d => exact ConstDef.outline_draws h
  | const c => exact Const.outline_draws h
  | type t => exact t.outline_draws
  | typeName t => exact t.outline_draws
  | varPart p => exact p.outline_draws
  | varDecl d => exact d.outline_draws
  | routinePart info routines =>
    exact .node rfl (by simp) (Routine.outlines_draw h fun r _ hr => r.outline_draws hr)
  | routine r => exact Routine.outline_draws h
  | group g => exact g.outline_draws
  | stmt s => exact Stmt.outline_draws h
  | target t => exact t.outline_draws
  | expr e => exact Expr.outline_draws h

namespace Outline

theorem Draws.inner {o : Outline} {s : Shape} (h : o.Draws s) : o.Draws s.inner := by
  cases h with
  | leaf hform hpayload => exact .leaf hform hpayload
  | node hform hpayload hparts =>
    unfold Shape.inner
    split
    . rename_i heq
      cases heq
      rw [hform]
      exact .node hform hpayload hparts
    . exact .node hform hpayload hparts
  | category hcategory h =>
    simpa only [Shape.inner, hcategory, if_true] using h

theorem Draws.marks_eq {o : Outline} {s : Shape} (h : o.Draws s) : o.marks = s.forms := by
  have hmarks := ((List.forall₂_and_left _ _).mp (h.lines [])).2
  rwa [← List.forall₂_eq_eq_eq, marks, List.forall₂_map_left_iff]

end Outline

theorem Root.outline_draws_walked {root : Root} (h : ∀ lexeme ∈ root.lexemes, OneLine lexeme)
    (withCategory : Bool) : (root.outline records).Draws (root.walked withCategory) := by
  have hroot : (root.outline records).Draws root.shape := Root.outline_draws h
  cases withCategory with
  | true => exact hroot
  | false => exact hroot.inner

theorem Root.draw_shows_walk (records : Records) (withCategory : Bool) {root : Root}
    (hlexemes : ∀ lexeme ∈ root.lexemes, OneLine lexeme) :
    (∃ text, root.outlinedBy ⟨records.view, false⟩ withCategory = .ok text) ∧
      ∃ text lines, root.outlinedBy ⟨records.view, true⟩ withCategory = .ok text ∧
        text.toList.splitOn '\n' = lines ++ [[]] ∧
        lines.map Shown.read? =
          (((Visitor.recorded (root.visited Visitor.observer.visit withCategory)).filter fun e =>
            (e.phase == .enter || e.phase == .leaf) && !e.mark.nodeClass.isCategory).map
              fun e => some e.mark.shown) := by
  refine ⟨⟨_, root.outlinedBy_eq records false withCategory⟩, ?_⟩
  have hdraws : (root.outline records).Draws (root.walked withCategory) :=
    outline_draws_walked hlexemes withCategory
  have hlines := ((List.forall₂_and_left _ _).mp (hdraws.lines [])).1
  obtain ⟨lines, hsplit, hread⟩ := Outline.read?_draw hlines
  refine ⟨_, lines, root.outlinedBy_eq records true withCategory, hsplit, ?_⟩
  rw [hread, hdraws.marks_eq, (Visitor.observer_follows.visited root withCategory).recorded_eq,
    Shape.forms, Shape.marks, List.filter_map, List.filter_filter, List.map_map]
  simp only [Function.comp_def, Bool.and_comm]

def Sample.negated : Expr :=
  -- `not 7`.
  .unary ⟨1, .point 3 5⟩ ⟨⟨2, .point 3 5⟩, .not⟩
    (.const ⟨3, .point 3 9⟩ (.integer ⟨4, .point 3 9⟩ ⟨⟨5, .point 3 9⟩, "7"⟩))

theorem Sample.negated_lines :
    ∃ text lines, (Root.expr negated).outlined [⟨3, .integer⟩] true = .ok text ∧
      text.toList.splitOn '\n' = lines ++ [[]] ∧
      lines.map Shown.read? =
        [some ⟨"UnOp", 1, ⟨3, 5⟩⟩, some ⟨"ExprConst", 3, ⟨3, 9⟩⟩,
          some ⟨"ConstInteger", 4, ⟨3, 9⟩⟩] := by
  have hlexemes : ∀ lexeme ∈ (Root.expr negated).lexemes, OneLine lexeme := by decide
  exact (Root.draw_shows_walk [⟨3, .integer⟩] true hlexemes).2

end PascalCheck
