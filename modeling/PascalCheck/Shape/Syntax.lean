import PascalCheck.Shape.Basic
import PascalCheck.Syntax.Basic

/-!
The shapes of syntax trees. Names, lexemes, signs and operators are not nodes and do not appear.
-/

namespace PascalCheck

def Shape.category (nodeClass : NodeClass) (info : Info) (form : Shape) : Shape :=
  .node ⟨nodeClass, info⟩ [form]

def Const.shape : Const → Shape
  | .integer info _ => .category .const info (.leaf ⟨.constInteger, info⟩)
  | .real info _ => .category .const info (.leaf ⟨.constReal, info⟩)
  | .signed info _ operand => .category .const info (.node ⟨.constSigned, info⟩ [operand.shape])
  | .named info _ => .category .const info (.leaf ⟨.constNamed, info⟩)
  | .signedNamed info _ _ => .category .const info (.leaf ⟨.constSignedNamed, info⟩)
  | .string info _ => .category .const info (.leaf ⟨.constString, info⟩)
  | .chr info _ => .category .const info (.leaf ⟨.constChr, info⟩)
  | .bool info _ => .category .const info (.leaf ⟨.constBool, info⟩)

mutual

def Expr.shape : Expr → Shape
  | .const info c => .category .expr info (.node ⟨.constExpr, info⟩ [c.shape])
  | .var info _ => .category .expr info (.leaf ⟨.varExpr, info⟩)
  | .call info _ args => .category .expr info (.node ⟨.callExpr, info⟩ (Expr.shapes args))
  | .paren info inner => .category .expr info (.node ⟨.parenExpr, info⟩ [inner.shape])
  | .unary info _ operand => .category .expr info (.node ⟨.unaryExpr, info⟩ [operand.shape])
  | .binary info _ left right =>
    .category .expr info (.node ⟨.binaryExpr, info⟩ [left.shape, right.shape])

def Expr.shapes : List Expr → List Shape
  | [] => []
  | e :: es => e.shape :: Expr.shapes es

end

def TypeName.shape (t : TypeName) : Shape :=
  .leaf ⟨.typeName, t.info⟩

def TypeDenoter.shape : TypeDenoter → Shape
  | .named name => .category .typeDenoter name.info name.shape
  | .file info component =>
    .category .typeDenoter info (.node ⟨.fileType, info⟩ [component.shape])

def Target.shape (t : Target) : Shape :=
  .leaf ⟨.target, t.info⟩

mutual

def Stmt.shape : Stmt → Shape
  | .assign info target value =>
    .category .stmt info (.node ⟨.assignStmt, info⟩ [target.shape, value.shape])
  | .call info _ args =>
    .category .stmt info (.node ⟨.callStmt, info⟩ (Expr.shapes (args.getD [])))
  | .compound info stmts => .category .stmt info (.node ⟨.compoundStmt, info⟩ (Stmt.shapes stmts))
  | .ifThen info condition thenStmt =>
    .category .stmt info (.node ⟨.ifStmt, info⟩ [condition.shape, thenStmt.shape])
  | .ifThenElse info condition thenStmt elseStmt =>
    .category .stmt info
      (.node ⟨.ifStmt, info⟩ [condition.shape, thenStmt.shape, elseStmt.shape])
  | .repeatUntil info stmts condition =>
    .category .stmt info (.node ⟨.repeatStmt, info⟩ (Stmt.shapes stmts ++ [condition.shape]))
  | .whileDo info condition body =>
    .category .stmt info (.node ⟨.whileStmt, info⟩ [condition.shape, body.shape])
  | .forDo info _ control initial final body =>
    .category .stmt info
      (.node ⟨.forStmt, info⟩ [control.shape, initial.shape, final.shape, body.shape])
  | .empty info => .category .stmt info (.leaf ⟨.emptyStmt, info⟩)

def Stmt.shapes : List Stmt → List Shape
  | [] => []
  | s :: ss => s.shape :: Stmt.shapes ss

end

def ConstDef.shape (d : ConstDef) : Shape :=
  .node ⟨.constDef, d.info⟩ [d.value.shape]

def ConstPart.shape (p : ConstPart) : Shape :=
  .node ⟨.constPart, p.info⟩ (p.defs.map ConstDef.shape)

def VarDecl.shape (d : VarDecl) : Shape :=
  .node ⟨.varDecl, d.info⟩ [d.type.shape]

def VarPart.shape (p : VarPart) : Shape :=
  .node ⟨.varPart, p.info⟩ (p.decls.map VarDecl.shape)

def Group.shape (g : Group) : Shape :=
  let form := match g.mode with
    | .value => .valueGroup
    | .var => .varGroup
  .category .group g.info (.node ⟨form, g.info⟩ [g.type.shape])

def Body.shape (b : Body) : Shape :=
  .node ⟨.body, b.info⟩ [b.stmt.shape]

mutual

def Block.shape : Block → Shape
  | .mk info consts vars routines body =>
    .node ⟨.block, info⟩
      ((consts.map ConstPart.shape).toList ++ (vars.map VarPart.shape).toList ++ routines.shapes ++
        [body.shape])

def RoutinePart.shapes : RoutinePart → List Shape
  | .absent => []
  | .present info routines => [.node ⟨.routinePart, info⟩ (Routine.shapes routines)]

def Routine.shape : Routine → Shape
  | .procedure info _ params block =>
    .category .routine info
      (.node ⟨.procedure, info⟩ ((params.getD []).map Group.shape ++ [block.shape]))
  | .function info _ params result block =>
    .category .routine info
      (.node ⟨.function, info⟩
        ((params.getD []).map Group.shape ++ [result.shape, block.shape]))

def Routine.shapes : List Routine → List Shape
  | [] => []
  | r :: rs => r.shape :: Routine.shapes rs

end

def Heading.shape (h : Heading) : Shape :=
  .leaf ⟨.heading, h.info⟩

def Program.shape (p : Program) : Shape :=
  .node ⟨.program, p.info⟩ [p.heading.shape, p.block.shape]

def Root.shape : Root → Shape
  | .program p => p.shape
  | .heading h => h.shape
  | .block b => b.shape
  | .body b => b.shape
  | .constPart p => p.shape
  | .constDef d => d.shape
  | .const c => c.shape
  | .type t => t.shape
  | .typeName t => t.shape
  | .varPart p => p.shape
  | .varDecl d => d.shape
  | .routinePart info routines => .node ⟨.routinePart, info⟩ (Routine.shapes routines)
  | .routine r => r.shape
  | .group g => g.shape
  | .stmt s => s.shape
  | .target t => t.shape
  | .expr e => e.shape

end PascalCheck
