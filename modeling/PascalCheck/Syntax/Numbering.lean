import PascalCheck.Syntax.Basic

/-!
Numbering of trees. A node gets its number after its parts, and the parts get theirs in the order in
which they are listed in the tree types, so the numbers of a tree are consecutive and the root has
the last one. Tokens are numbered like nodes; the direction of a for-statement is not a token.
-/

namespace PascalCheck

abbrev Numbering := StateM Nat

def Info.number (info : Info) : Numbering Info := fun n =>
  ({ info with id := n }, n + 1)

def Token.number {α : Type} (t : Token α) : Numbering (Token α) := do
  return { t with info := ← t.info.number }

def Const.number : Const → Numbering Const
  | .integer info lexeme => do
    let lexeme ← lexeme.number
    return .integer (← info.number) lexeme
  | .real info lexeme => do
    let lexeme ← lexeme.number
    return .real (← info.number) lexeme
  | .signed info sign operand => do
    let sign ← sign.number
    let operand ← operand.number
    return .signed (← info.number) sign operand
  | .named info name => do
    let name ← name.number
    return .named (← info.number) name
  | .signedNamed info sign name => do
    let sign ← sign.number
    let name ← name.number
    return .signedNamed (← info.number) sign name
  | .string info contents => do
    let contents ← contents.number
    return .string (← info.number) contents
  | .chr info lexeme => do
    let lexeme ← lexeme.number
    return .chr (← info.number) lexeme
  | .bool info value => do
    let value ← value.number
    return .bool (← info.number) value

mutual

def Expr.number : Expr → Numbering Expr
  | .const info c => do
    let c ← c.number
    return .const (← info.number) c
  | .var info name => do
    let name ← name.number
    return .var (← info.number) name
  | .call info callee args => do
    let callee ← callee.number
    let args ← Expr.numberAll args
    return .call (← info.number) callee args
  | .paren info inner => do
    let inner ← inner.number
    return .paren (← info.number) inner
  | .unary info op operand => do
    let op ← op.number
    let operand ← operand.number
    return .unary (← info.number) op operand
  | .binary info op left right => do
    let op ← op.number
    let left ← left.number
    let right ← right.number
    return .binary (← info.number) op left right

def Expr.numberAll : List Expr → Numbering (List Expr)
  | [] => return []
  | e :: es => do
    let e ← e.number
    return e :: (← Expr.numberAll es)

end

def TypeName.number (t : TypeName) : Numbering TypeName := do
  let primitive ← t.primitive.number
  return { info := ← t.info.number, primitive }

def TypeDenoter.number : TypeDenoter → Numbering TypeDenoter
  | .named name => return .named (← name.number)
  | .file info component => do
    let component ← component.number
    return .file (← info.number) component

def Target.number (t : Target) : Numbering Target := do
  let name ← t.name.number
  return { info := ← t.info.number, name }

mutual

def Stmt.number : Stmt → Numbering Stmt
  | .assign info target value => do
    let target ← target.number
    let value ← value.number
    return .assign (← info.number) target value
  | .call info callee args => do
    let callee ← callee.number
    let args ← args.mapM Expr.numberAll
    return .call (← info.number) callee args
  | .compound info stmts => do
    let stmts ← Stmt.numberAll stmts
    return .compound (← info.number) stmts
  | .ifThen info condition thenStmt => do
    let condition ← condition.number
    let thenStmt ← thenStmt.number
    return .ifThen (← info.number) condition thenStmt
  | .ifThenElse info condition thenStmt elseStmt => do
    let condition ← condition.number
    let thenStmt ← thenStmt.number
    let elseStmt ← elseStmt.number
    return .ifThenElse (← info.number) condition thenStmt elseStmt
  | .repeatUntil info stmts condition => do
    let stmts ← Stmt.numberAll stmts
    let condition ← condition.number
    return .repeatUntil (← info.number) stmts condition
  | .whileDo info condition body => do
    let condition ← condition.number
    let body ← body.number
    return .whileDo (← info.number) condition body
  | .forDo info direction control initial final body => do
    let control ← control.number
    let initial ← initial.number
    let final ← final.number
    let body ← body.number
    return .forDo (← info.number) direction control initial final body
  | .empty info => return .empty (← info.number)

def Stmt.numberAll : List Stmt → Numbering (List Stmt)
  | [] => return []
  | s :: ss => do
    let s ← s.number
    return s :: (← Stmt.numberAll ss)

end

def ConstDef.number (d : ConstDef) : Numbering ConstDef := do
  let name ← d.name.number
  let value ← d.value.number
  return { info := ← d.info.number, name, value }

def ConstPart.number (p : ConstPart) : Numbering ConstPart := do
  let defs ← p.defs.mapM ConstDef.number
  return { info := ← p.info.number, defs }

def VarDecl.number (d : VarDecl) : Numbering VarDecl := do
  let names ← d.names.mapM Token.number
  let type ← d.type.number
  return { info := ← d.info.number, names, type }

def VarPart.number (p : VarPart) : Numbering VarPart := do
  let decls ← p.decls.mapM VarDecl.number
  return { info := ← p.info.number, decls }

def Group.number (g : Group) : Numbering Group := do
  let names ← g.names.mapM Token.number
  let type ← g.type.number
  return { info := ← g.info.number, mode := g.mode, names, type }

def Body.number (b : Body) : Numbering Body := do
  let stmt ← b.stmt.number
  return { info := ← b.info.number, stmt }

mutual

def Block.number : Block → Numbering Block
  | .mk info consts vars routines body => do
    let consts ← consts.mapM ConstPart.number
    let vars ← vars.mapM VarPart.number
    let routines ← routines.number
    let body ← body.number
    return .mk (← info.number) consts vars routines body

def RoutinePart.number : RoutinePart → Numbering RoutinePart
  | .absent => return .absent
  | .present info routines => do
    let routines ← Routine.numberAll routines
    return .present (← info.number) routines

def Routine.number : Routine → Numbering Routine
  | .procedure info name params block => do
    let name ← name.number
    let params ← params.mapM (·.mapM Group.number)
    let block ← block.number
    return .procedure (← info.number) name params block
  | .function info name params result block => do
    let name ← name.number
    let params ← params.mapM (·.mapM Group.number)
    let result ← result.number
    let block ← block.number
    return .function (← info.number) name params result block

def Routine.numberAll : List Routine → Numbering (List Routine)
  | [] => return []
  | r :: rs => do
    let r ← r.number
    return r :: (← Routine.numberAll rs)

end

def Heading.number (h : Heading) : Numbering Heading := do
  let name ← h.name.number
  let params ← h.params.mapM Token.number
  return { info := ← h.info.number, name, params }

def Program.number (p : Program) : Numbering Program := do
  let heading ← p.heading.number
  let block ← p.block.number
  return { info := ← p.info.number, heading, block }

def Root.number : Root → Numbering Root
  | .program p => return .program (← p.number)
  | .heading h => return .heading (← h.number)
  | .block b => return .block (← b.number)
  | .body b => return .body (← b.number)
  | .constPart p => return .constPart (← p.number)
  | .constDef d => return .constDef (← d.number)
  | .const c => return .const (← c.number)
  | .type t => return .type (← t.number)
  | .typeName t => return .typeName (← t.number)
  | .varPart p => return .varPart (← p.number)
  | .varDecl d => return .varDecl (← d.number)
  | .routinePart info routines => do
    let routines ← Routine.numberAll routines
    return .routinePart (← info.number) routines
  | .routine r => return .routine (← r.number)
  | .group g => return .group (← g.number)
  | .stmt s => return .stmt (← s.number)
  | .target t => return .target (← t.number)
  | .expr e => return .expr (← e.number)

end PascalCheck
