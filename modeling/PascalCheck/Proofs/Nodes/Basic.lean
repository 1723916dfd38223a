import Mathlib.Data.List.Basic
import PascalCheck.Proofs.Outline.Syntax
import PascalCheck.Proofs.Plan
import PascalCheck.Shape.Syntax

/-!
The nodes of a tree. A tree of any kind has parts, which are trees again, in the order in which they
are written. Its shape and its outline are those of its parts below a node for the tree itself.
-/

namespace PascalCheck

section Parts

def Const.parts : Const → List Root
  | .signed _ _ operand => [.const operand]
  | .integer _ _ | .real _ _ | .named _ _ | .signedNamed _ _ _ | .string _ _ | .chr _ _
  | .bool _ _ => []

def Expr.parts : Expr → List Root
  | .const _ c => [.const c]
  | .var _ _ => []
  | .call _ _ args => args.map .expr
  | .paren _ e | .unary _ _ e => [.expr e]
  | .binary _ _ left right => [.expr left, .expr right]

def TypeDenoter.parts : TypeDenoter → List Root
  | .named _ => []
  | .file _ component => [.type component]

def Stmt.parts : Stmt → List Root
  | .assign _ target value => [.target target, .expr value]
  | .call _ _ args => (args.getD []).map .expr
  | .compound _ stmts => stmts.map .stmt
  | .ifThen _ condition thenStmt => [.expr condition, .stmt thenStmt]
  | .ifThenElse _ condition thenStmt elseStmt =>
    [.expr condition, .stmt thenStmt, .stmt elseStmt]
  | .repeatUntil _ stmts condition => stmts.map .stmt ++ [.expr condition]
  | .whileDo _ condition body => [.expr condition, .stmt body]
  | .forDo _ _ control initial final body =>
    [.target control, .expr initial, .expr final, .stmt body]
  | .empty _ => []

def RoutinePart.nodes : RoutinePart → List Root
  | .absent => []
  | .present info routines => [.routinePart info routines]

def Block.parts : Block → List Root
  | .mk _ consts vars part body =>
    consts.toList.map .constPart ++ vars.toList.map .varPart ++ part.nodes ++ [.body body]

def Routine.parts : Routine → List Root
  | .procedure _ _ params block => (params.getD []).map .group ++ [.block block]
  | .function _ _ params result block =>
    (params.getD []).map .group ++ [.typeName result, .block block]

end Parts

def Const.formClass : Const → NodeClass
  | .integer _ _ => .constInteger
  | .real _ _ => .constReal
  | .signed _ _ _ => .constSigned
  | .named _ _ => .constNamed
  | .signedNamed _ _ _ => .constSignedNamed
  | .string _ _ => .constString
  | .chr _ _ => .constChr
  | .bool _ _ => .constBool

def Expr.formClass : Expr → NodeClass
  | .const _ _ => .constExpr
  | .var _ _ => .varExpr
  | .call _ _ _ => .callExpr
  | .paren _ _ => .parenExpr
  | .unary _ _ _ => .unaryExpr
  | .binary _ _ _ _ => .binaryExpr

def TypeDenoter.formClass : TypeDenoter → NodeClass
  | .named _ => .typeName
  | .file _ _ => .fileType

def Stmt.formClass : Stmt → NodeClass
  | .assign _ _ _ => .assignStmt
  | .call _ _ _ => .callStmt
  | .compound _ _ => .compoundStmt
  | .ifThen _ _ _ | .ifThenElse _ _ _ _ => .ifStmt
  | .repeatUntil _ _ _ => .repeatStmt
  | .whileDo _ _ _ => .whileStmt
  | .forDo _ _ _ _ _ _ => .forStmt
  | .empty _ => .emptyStmt

def Routine.formClass : Routine → NodeClass
  | .procedure _ _ _ _ => .procedure
  | .function _ _ _ _ _ => .function

def Group.formClass (g : Group) : NodeClass :=
  match g.mode with
  | .value => .valueGroup
  | .var => .varGroup

namespace Root

def formClass : Root → NodeClass
  | .program _ => .program
  | .heading _ => .heading
  | .block _ => .block
  | .body _ => .body
  | .constPart _ => .constPart
  | .constDef _ => .constDef
  | .const c => c.formClass
  | .type t => t.formClass
  | .typeName _ => .typeName
  | .varPart _ => .varPart
  | .varDecl _ => .varDecl
  | .routinePart _ _ => .routinePart
  | .routine r => r.formClass
  | .group g => g.formClass
  | .stmt s => s.formClass
  | .target _ => .target
  | .expr e => e.formClass

def category? : Root → Option NodeClass
  | .const _ => some .const
  | .type _ => some .typeDenoter
  | .routine _ => some .routine
  | .group _ => some .group
  | .stmt _ => some .stmt
  | .expr _ => some .expr
  | .program _ | .heading _ | .block _ | .body _ | .constPart _ | .constDef _ | .typeName _
  | .varPart _ | .varDecl _ | .routinePart _ _ | .target _ => none

def parts : Root → List Root
  | .program p => [.heading p.heading, .block p.block]
  | .block b => b.parts
  | .body b => [.stmt b.stmt]
  | .constPart p => p.defs.map .constDef
  | .constDef d => [.const d.value]
  | .const c => c.parts
  | .type t => t.parts
  | .varPart p => p.decls.map .varDecl
  | .varDecl d => [.type d.type]
  | .routinePart _ routines => routines.map .routine
  | .routine r => r.parts
  | .group g => [.typeName g.type]
  | .stmt s => s.parts
  | .expr e => e.parts
  | .heading _ | .typeName _ | .target _ => []

def mark (root : Root) : Landmark :=
  ⟨root.formClass, root.info⟩

end Root

section Induction

variable {motive : Root → Prop} (h : ∀ root, (∀ part ∈ root.parts, motive part) → motive root)

include h

theorem Root.induction_of_no_parts {root : Root} (hparts : root.parts = []) : motive root := by
  apply h
  rw [hparts]
  exact List.forall_mem_nil _

theorem Const.parts_induction (c : Const) : motive (.const c) := by
  induction c with
  | signed info sign operand ih => exact h _ (List.forall_mem_singleton.mpr ih)
  | _ => exact Root.induction_of_no_parts h rfl

theorem Expr.parts_induction (e : Expr) : motive (.expr e) := by
  induction e using Expr.induction with
  | const info c => exact h _ (List.forall_mem_singleton.mpr (c.parts_induction h))
  | var info name => exact Root.induction_of_no_parts h rfl
  | call info callee args ih => exact h _ (List.forall_mem_map.mpr ih)
  | paren info e ih | unary info op e ih => exact h _ (List.forall_mem_singleton.mpr ih)
  | binary info op left right ihleft ihright =>
    exact h _ (List.forall_mem_cons.mpr ⟨ihleft, List.forall_mem_singleton.mpr ihright⟩)

theorem TypeDenoter.parts_induction (t : TypeDenoter) : motive (.type t) := by
  induction t with
  | named name => exact Root.induction_of_no_parts h rfl
  | file info component ih => exact h _ (List.forall_mem_singleton.mpr ih)

theorem Stmt.parts_induction (s : Stmt) : motive (.stmt s) := by
  have hexpr (e : Expr) : motive (.expr e) := e.parts_induction h
  have htarget (t : Target) : motive (.target t) := Root.induction_of_no_parts h rfl
  induction s using Stmt.induction with
  | assign info target value => exact h _ (by simp [Root.parts, parts, htarget, hexpr])
  | call info callee args => exact h _ (List.forall_mem_map.mpr fun e _ => hexpr e)
  | compound info stmts ih => exact h _ (List.forall_mem_map.mpr ih)
  | ifThen info condition thenStmt ih => exact h _ (by simp [Root.parts, parts, hexpr, ih])
  | ifThenElse info condition thenStmt elseStmt ihthen ihelse =>
    exact h _ (by simp [Root.parts, parts, hexpr, ihthen, ihelse])
  | repeatUntil info stmts condition ih =>
    apply h
    rw [Root.parts, parts, List.forall_mem_append, List.forall_mem_map]
    exact ⟨ih, List.forall_mem_singleton.mpr (hexpr condition)⟩
  | whileDo info condition body ih => exact h _ (by simp [Root.parts, parts, hexpr, ih])
  | forDo info direction control initial final body ih =>
    exact h _ (by simp [Root.parts, parts, htarget, hexpr, ih])
  | empty info => exact Root.induction_of_no_parts h rfl

theorem TypeName.parts_induction (t : TypeName) : motive (.typeName t) :=
  Root.induction_of_no_parts h rfl

theorem Group.parts_induction (g : Group) : motive (.group g) :=
  h _ (List.forall_mem_singleton.mpr (g.type.parts_induction h))

theorem ConstDef.parts_induction (d : ConstDef) : motive (.constDef d) :=
  h _ (List.forall_mem_singleton.mpr (d.value.parts_induction h))

theorem ConstPart.parts_induction (p : ConstPart) : motive (.constPart p) :=
  h _ (List.forall_mem_map.mpr fun d _ => d.parts_induction h)

theorem VarDecl.parts_induction (d : VarDecl) : motive (.varDecl d) :=
  h _ (List.forall_mem_singleton.mpr (d.type.parts_induction h))

theorem VarPart.parts_induction (p : VarPart) : motive (.varPart p) :=
  h _ (List.forall_mem_map.mpr fun d _ => d.parts_induction h)

theorem Body.parts_induction (b : Body) : motive (.body b) :=
  h _ (List.forall_mem_singleton.mpr (b.stmt.parts_induction h))

theorem Routine.induction_of_block (r : Routine) (hblock : motive (.block r.block)) :
    motive (.routine r) := by
  apply h
  cases r with
  | procedure info name params b =>
    rw [Root.parts, Routine.parts, List.forall_mem_append, List.forall_mem_map]
    exact ⟨fun g _ => g.parts_induction h, List.forall_mem_singleton.mpr hblock⟩
  | function info name params result b =>
    rw [Root.parts, Routine.parts, List.forall_mem_append, List.forall_mem_map,
      List.forall_mem_cons]
    exact ⟨fun g _ => g.parts_induction h, result.parts_induction h,
      List.forall_mem_singleton.mpr hblock⟩

theorem Block.parts_induction (b : Block) : motive (.block b) := by
  induction b using Block.nested_induction with
  | h b ih =>
    have hroutines : ∀ r ∈ b.routines, motive (.routine r) :=
      fun r hr => r.induction_of_block h (ih r hr)
    apply h
    obtain ⟨info, consts, vars, part, body⟩ := b
    simp only [Root.parts, Block.parts, List.forall_mem_append, List.forall_mem_map,
      List.forall_mem_singleton]
    refine ⟨⟨⟨fun p _ => p.parts_induction h, fun p _ => p.parts_induction h⟩, ?_⟩,
      body.parts_induction h⟩
    cases part with
    | absent => exact List.forall_mem_nil _
    | present info routines =>
      exact List.forall_mem_singleton.mpr (h _ (List.forall_mem_map.mpr hroutines))

theorem Root.parts_induction (root : Root) : motive root := by
  have hblock (b : Block) : motive (.block b) := b.parts_induction h
  have hroutine (r : Routine) : motive (.routine r) := r.induction_of_block h (hblock r.block)
  cases root with
  | program p =>
    refine h _ (List.forall_mem_cons.mpr ⟨?_, List.forall_mem_singleton.mpr (hblock p.block)⟩)
    exact induction_of_no_parts h rfl
  | heading heading => exact induction_of_no_parts h rfl
  | block b => exact hblock b
  | body b => exact b.parts_induction h
  | constPart p => exact p.parts_induction h
  | constDef d => exact d.parts_induction h
  | const c => exact c.parts_induction h
  | type t => exact t.parts_induction h
  | typeName t => exact t.parts_induction h
  | varPart p => exact p.parts_induction h
  | varDecl d => exact d.parts_induction h
  | routinePart info routines => exact h _ (List.forall_mem_map.mpr fun r _ => hroutine r)
  | routine r => exact hroutine r
  | group g => exact g.parts_induction h
  | stmt s => exact s.parts_induction h
  | target t => exact induction_of_no_parts h rfl
  | expr e => exact e.parts_induction h

end Induction

section Shapes

theorem Expr.shapes_eq_map (es : List Expr) : Expr.shapes es = es.map Expr.shape := by
  induction es with
  | nil => rw [shapes, List.map_nil]
  | cons e es ih => rw [shapes, ih, List.map_cons]

theorem Stmt.shapes_eq_map (ss : List Stmt) : Stmt.shapes ss = ss.map Stmt.shape := by
  induction ss with
  | nil => rw [shapes, List.map_nil]
  | cons s ss ih => rw [shapes, ih, List.map_cons]

theorem Routine.shapes_eq_map (rs : List Routine) : Routine.shapes rs = rs.map Routine.shape := by
  induction rs with
  | nil => rw [shapes, List.map_nil]
  | cons r rs ih => rw [shapes, ih, List.map_cons]

def Root.formShape (root : Root) (parts : List Shape) : Shape :=
  if root.formClass.isLeaf then .leaf root.mark else .node root.mark parts

theorem Expr.shape_eq (e : Expr) :
    e.shape = .category .expr e.info ((Root.expr e).formShape (e.parts.map Root.shape)) := by
  cases e with
  | call info callee args =>
    rw [shape, shapes_eq_map, parts, List.map_map]
    rfl
  | _ => rfl

theorem Stmt.shape_eq (s : Stmt) :
    s.shape = .category .stmt s.info ((Root.stmt s).formShape (s.parts.map Root.shape)) := by
  cases s with
  | call info callee args =>
    rw [shape, Expr.shapes_eq_map, parts, List.map_map]
    rfl
  | compound info stmts =>
    rw [shape, shapes_eq_map, parts, List.map_map]
    rfl
  | repeatUntil info stmts condition =>
    rw [shape, shapes_eq_map, parts, List.map_append, List.map_map]
    rfl
  | _ => rfl

theorem Block.shape_eq (b : Block) : b.shape = .node ⟨.block, b.info⟩ (b.parts.map Root.shape) := by
  obtain ⟨info, consts, vars, part, body⟩ := b
  have hpart : part.shapes = part.nodes.map Root.shape := by
    cases part <;> rfl
  simp only [shape, parts, hpart, Option.toList_map, List.map_append, List.map_map]
  rfl

theorem Routine.shape_eq (r : Routine) :
    r.shape = .category .routine r.info ((Root.routine r).formShape (r.parts.map Root.shape)) := by
  cases r <;>
    rw [shape, parts, List.map_append, List.map_map] <;>
    rfl

theorem Root.shape_eq (root : Root) :
    root.shape =
      let form := root.formShape (root.parts.map Root.shape)
      root.category?.elim form fun category => .category category root.info form := by
  cases root with
  | block b => exact b.shape_eq
  | constPart p =>
    rw [shape, ConstPart.shape, parts, List.map_map]
    rfl
  | const c => cases c <;> rfl
  | type t => cases t <;> rfl
  | varPart p =>
    rw [shape, VarPart.shape, parts, List.map_map]
    rfl
  | routinePart info routines =>
    rw [shape, Routine.shapes_eq_map, parts, List.map_map]
    rfl
  | routine r => exact r.shape_eq
  | group g =>
    obtain ⟨info, mode, names, type⟩ := g
    cases mode <;> rfl
  | stmt s => exact s.shape_eq
  | expr e => exact e.shape_eq
  | _ => rfl

end Shapes

section Outlines

def Outline.line : Outline → Line
  | .node line _ => line

def Outline.parts : Outline → List Outline
  | .node _ parts => parts

variable (records : Records)

theorem Expr.outlines_eq_map (es : List Expr) :
    Expr.outlines records es = es.map (·.outline records) := by
  induction es with
  | nil => rw [outlines, List.map_nil]
  | cons e es ih => rw [outlines, ih, List.map_cons]

theorem Stmt.outlines_eq_map (ss : List Stmt) :
    Stmt.outlines records ss = ss.map (·.outline records) := by
  induction ss with
  | nil => rw [outlines, List.map_nil]
  | cons s ss ih => rw [outlines, ih, List.map_cons]

theorem Routine.outlines_eq_map (rs : List Routine) :
    Routine.outlines records rs = rs.map (·.outline records) := by
  induction rs with
  | nil => rw [outlines, List.map_nil]
  | cons r rs ih => rw [outlines, ih, List.map_cons]

theorem Expr.parts_outline (e : Expr) :
    (e.outline records).parts = e.parts.map (·.outline records) := by
  cases e with
  | call info callee args =>
    rw [outline, outlines_eq_map, Expr.parts, List.map_map]
    rfl
  | _ => rfl

theorem Stmt.parts_outline (s : Stmt) :
    (s.outline records).parts = s.parts.map (·.outline records) := by
  cases s with
  | call info callee args =>
    rw [outline, Expr.outlines_eq_map, Stmt.parts, List.map_map]
    rfl
  | compound info stmts =>
    rw [outline, outlines_eq_map, Stmt.parts, List.map_map]
    rfl
  | repeatUntil info stmts condition =>
    rw [outline, outlines_eq_map, Stmt.parts, List.map_append, List.map_map]
    rfl
  | _ => rfl

theorem Block.parts_outline (b : Block) :
    (b.outline records).parts = b.parts.map (·.outline records) := by
  obtain ⟨info, consts, vars, part, body⟩ := b
  have hpart : part.outlines records = part.nodes.map (·.outline records) := by
    cases part <;> rfl
  simp only [outline, Outline.of, Outline.parts, Block.parts, hpart, Option.toList_map,
    List.map_append, List.map_map]
  rfl

theorem Routine.parts_outline (r : Routine) :
    (r.outline records).parts = r.parts.map (·.outline records) := by
  cases r <;>
    rw [outline, Routine.parts, List.map_append, List.map_map] <;>
    rfl

namespace Root

theorem mark_outline (root : Root) : (root.outline records).line.mark = root.mark := by
  cases root with
  | block b =>
    cases b
    rfl
  | const c => cases c <;> rfl
  | type t => cases t <;> rfl
  | routine r => cases r <;> rfl
  | group g =>
    obtain ⟨info, mode, names, type⟩ := g
    cases mode <;> rfl
  | stmt s => cases s <;> rfl
  | expr e => cases e <;> rfl
  | _ => rfl

theorem parts_outline (root : Root) :
    (root.outline records).parts = root.parts.map (·.outline records) := by
  cases root with
  | block b => exact b.parts_outline records
  | constPart p =>
    rw [outline, ConstPart.outline, parts, List.map_map]
    rfl
  | const c => cases c <;> rfl
  | type t => cases t <;> rfl
  | varPart p =>
    rw [outline, VarPart.outline, parts, List.map_map]
    rfl
  | routinePart info routines =>
    rw [outline, Routine.outlines_eq_map, parts, List.map_map]
    rfl
  | routine r => exact r.parts_outline records
  | stmt s => exact s.parts_outline records
  | expr e => exact e.parts_outline records
  | _ => rfl

end Root

end Outlines

end PascalCheck
