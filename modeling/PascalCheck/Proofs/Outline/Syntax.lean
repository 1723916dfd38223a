import PascalCheck.Proofs.Outline.Basic
import PascalCheck.Visitor.Outline

/-!
Outlines of syntax trees, with the types that have been recorded for their nodes.
-/

namespace PascalCheck

open Text (quote)

def Outline.of (nodeClass : NodeClass) (info : Info) (payload : String)
    (parts : List Outline) : Outline :=
  .node ⟨⟨nodeClass, info⟩, payload⟩ parts

def Const.outline (records : Records) : Const → Outline
  | .integer info lexeme =>
    .of .constInteger info (lexeme.value ++ " " ++ records.typeText info.id) []
  | .real info lexeme => .of .constReal info (lexeme.value ++ " " ++ records.typeText info.id) []
  | .signed info sign operand =>
    .of .constSigned info (sign.value.text ++ " " ++ records.typeText info.id)
      [operand.outline records]
  | .named info name =>
    .of .constNamed info (quote name.value ++ " " ++ records.typeText info.id) []
  | .signedNamed info sign name =>
    .of .constSignedNamed info
      (sign.value.text ++ " " ++ quote name.value ++ " " ++ records.typeText info.id) []
  | .string info contents =>
    .of .constString info (quote contents.value ++ " " ++ records.typeText info.id) []
  | .chr info lexeme => .of .constChr info (lexeme.value ++ " " ++ records.typeText info.id) []
  | .bool info value =>
    .of .constBool info
      ((if value.value then "true" else "false") ++ " " ++ records.typeText info.id) []

mutual

def Expr.outline (records : Records) : Expr → Outline
  | .const info c => .of .constExpr info (records.typeText info.id) [c.outline records]
  | .var info name => .of .varExpr info (quote name.value ++ " " ++ records.typeText info.id) []
  | .call info callee args =>
    .of .callExpr info (quote callee.value ++ " " ++ records.typeText info.id)
      (Expr.outlines records args)
  | .paren info inner => .of .parenExpr info (records.typeText info.id) [inner.outline records]
  | .unary info op operand =>
    .of .unaryExpr info (op.value.text ++ " " ++ records.typeText info.id)
      [operand.outline records]
  | .binary info op left right =>
    .of .binaryExpr info (op.value.text ++ " " ++ records.typeText info.id)
      [left.outline records, right.outline records]

def Expr.outlines (records : Records) : List Expr → List Outline
  | [] => []
  | e :: es => e.outline records :: Expr.outlines records es

end

def TypeName.outline (records : Records) (t : TypeName) : Outline :=
  .of .typeName t.info (quote t.primitive.value.text ++ " " ++ records.typeText t.info.id) []

def TypeDenoter.outline (records : Records) : TypeDenoter → Outline
  | .named name => name.outline records
  | .file info component =>
    .of .fileType info (records.typeText info.id) [component.outline records]

def Target.outline (records : Records) (t : Target) : Outline :=
  .of .target t.info (quote t.name.value ++ " " ++ records.typeText t.info.id) []

def assignmentPayload (records : Records) (info : Info) (target : Target) (value : Expr) : String :=
  "lhs " ++ records.typeText target.info.id ++ " rhs " ++ records.typeText value.info.id ++
    if (records.type? info.id).isSome then " result" else ""

mutual

def Stmt.outline (records : Records) : Stmt → Outline
  | .assign info target value =>
    .of .assignStmt info (assignmentPayload records info target value)
      [target.outline records, value.outline records]
  | .call info callee args =>
    .of .callStmt info (quote callee.value) (Expr.outlines records (args.getD []))
  | .compound info stmts => .of .compoundStmt info "" (Stmt.outlines records stmts)
  | .ifThen info condition thenStmt =>
    .of .ifStmt info "" [condition.outline records, thenStmt.outline records]
  | .ifThenElse info condition thenStmt elseStmt =>
    .of .ifStmt info ""
      [condition.outline records, thenStmt.outline records, elseStmt.outline records]
  | .repeatUntil info stmts condition =>
    .of .repeatStmt info "" (Stmt.outlines records stmts ++ [condition.outline records])
  | .whileDo info condition body =>
    .of .whileStmt info "" [condition.outline records, body.outline records]
  | .forDo info direction control initial final body =>
    .of .forStmt info direction.text
      [control.outline records, initial.outline records, final.outline records,
        body.outline records]
  | .empty info => .of .emptyStmt info "" []

def Stmt.outlines (records : Records) : List Stmt → List Outline
  | [] => []
  | s :: ss => s.outline records :: Stmt.outlines records ss

end

def ConstDef.outline (records : Records) (d : ConstDef) : Outline :=
  .of .constDef d.info (quote d.name.value) [d.value.outline records]

def ConstPart.outline (records : Records) (p : ConstPart) : Outline :=
  .of .constPart p.info "" (p.defs.map (·.outline records))

def VarDecl.outline (records : Records) (d : VarDecl) : Outline :=
  .of .varDecl d.info (Outliner.names d.names) [d.type.outline records]

def VarPart.outline (records : Records) (p : VarPart) : Outline :=
  .of .varPart p.info "" (p.decls.map (·.outline records))

def Group.outline (records : Records) (g : Group) : Outline :=
  let form := match g.mode with
    | .value => .valueGroup
    | .var => .varGroup
  .of form g.info (Outliner.names g.names ++ " " ++ records.typeText g.info.id)
    [g.type.outline records]

def Body.outline (records : Records) (b : Body) : Outline :=
  .of .body b.info "" [b.stmt.outline records]

mutual

def Block.outline (records : Records) : Block → Outline
  | .mk info consts vars routines body =>
    .of .block info ""
      ((consts.map (·.outline records)).toList ++ (vars.map (·.outline records)).toList ++
        routines.outlines records ++ [body.outline records])

def RoutinePart.outlines (records : Records) : RoutinePart → List Outline
  | .absent => []
  | .present info routines => [.of .routinePart info "" (Routine.outlines records routines)]

def Routine.outline (records : Records) : Routine → Outline
  | .procedure info name params block =>
    .of .procedure info (quote name.value ++ " " ++ records.typeText name.id)
      ((params.getD []).map (·.outline records) ++ [block.outline records])
  | .function info name params result block =>
    .of .function info (quote name.value ++ " " ++ records.typeText name.id)
      ((params.getD []).map (·.outline records) ++
        [result.outline records, block.outline records])

def Routine.outlines (records : Records) : List Routine → List Outline
  | [] => []
  | r :: rs => r.outline records :: Routine.outlines records rs

end

def Heading.outline (h : Heading) : Outline :=
  .of .heading h.info (quote h.name.value ++ " " ++ Outliner.names h.params) []

def Program.outline (records : Records) (p : Program) : Outline :=
  .of .program p.info "" [p.heading.outline, p.block.outline records]

def Root.outline (records : Records) : Root → Outline
  | .program p => p.outline records
  | .heading h => h.outline
  | .block b => b.outline records
  | .body b => b.outline records
  | .constPart p => p.outline records
  | .constDef d => d.outline records
  | .const c => c.outline records
  | .type t => t.outline records
  | .typeName t => t.outline records
  | .varPart p => p.outline records
  | .varDecl d => d.outline records
  | .routinePart info routines => .of .routinePart info "" (Routine.outlines records routines)
  | .routine r => r.outline records
  | .group g => g.outline records
  | .stmt s => s.outline records
  | .target t => t.outline records
  | .expr e => e.outline records

end PascalCheck
