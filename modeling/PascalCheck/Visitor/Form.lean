import PascalCheck.Shape.Basic
import PascalCheck.Syntax.Basic

/-!
Single nodes. A form is a node of some class, with what it holds and with something in place of the
nodes that are its parts; a tree is folded by putting the outcomes for the parts there.
-/

namespace PascalCheck

inductive Form (α : Type) where
  | program (heading block : α)
  | heading (name : Name) (params : List Name)
  | block (consts vars routines : Option α) (body : α)
  | body (stmt : α)
  | constPart (defs : List α)
  | constDef (name : Name) (value : α)
  | const (inner : α)
  | constInteger (lexeme : Token String)
  | constReal (lexeme : Token String)
  | constSigned (sign : Token Sign) (operand : α)
  | constNamed (name : Name)
  | constSignedNamed (sign : Token Sign) (name : Name)
  | constString (contents : Token String)
  | constChr (lexeme : Token String)
  | constBool (value : Token Bool)
  | typeDenoter (inner : α)
  | typeName (primitive : Token Primitive)
  | fileType (component : α)
  | varPart (decls : List α)
  | varDecl (names : List Name) (type : α)
  | routinePart (routines : List α)
  | routine (inner : α)
  | procedure (name : Name) (params : Option (List α)) (block : α)
  | function (name : Name) (params : Option (List α)) (result block : α)
  | group (inner : α)
  | valueGroup (names : List Name) (type : α)
  | varGroup (names : List Name) (type : α)
  | stmt (inner : α)
  | target (name : Name)
  | assignStmt (targetId valueId : Nat) (target value : α)
  | callStmt (callee : Name) (args : Option (List α))
  | compoundStmt (stmts : List α)
  | ifStmt (condition thenStmt : α) (elseStmt : Option α)
  | repeatStmt (stmts : List α) (condition : α)
  | whileStmt (condition body : α)
  | forStmt (direction : Direction) (control initial final body : α)
  | emptyStmt
  | expr (inner : α)
  | constExpr (const : α)
  | varExpr (name : Name)
  | callExpr (callee : Name) (args : List α)
  | parenExpr (inner : α)
  | unaryExpr (op : Token UnaryOp) (operand : α)
  | binaryExpr (op : Token BinaryOp) (left right : α)

def NodeClass.isLeaf : NodeClass → Bool
  | .heading | .constInteger | .constReal | .constNamed | .constSignedNamed | .constString
  | .constChr | .constBool | .typeName | .target | .emptyStmt | .varExpr => true
  | _ => false

namespace Form

variable {α : Type}

def nodeClass : Form α → NodeClass
  | program _ _ => .program
  | heading _ _ => .heading
  | block _ _ _ _ => .block
  | body _ => .body
  | constPart _ => .constPart
  | constDef _ _ => .constDef
  | const _ => .const
  | constInteger _ => .constInteger
  | constReal _ => .constReal
  | constSigned _ _ => .constSigned
  | constNamed _ => .constNamed
  | constSignedNamed _ _ => .constSignedNamed
  | constString _ => .constString
  | constChr _ => .constChr
  | constBool _ => .constBool
  | typeDenoter _ => .typeDenoter
  | typeName _ => .typeName
  | fileType _ => .fileType
  | varPart _ => .varPart
  | varDecl _ _ => .varDecl
  | routinePart _ => .routinePart
  | routine _ => .routine
  | procedure _ _ _ => .procedure
  | function _ _ _ _ => .function
  | group _ => .group
  | valueGroup _ _ => .valueGroup
  | varGroup _ _ => .varGroup
  | stmt _ => .stmt
  | target _ => .target
  | assignStmt _ _ _ _ => .assignStmt
  | callStmt _ _ => .callStmt
  | compoundStmt _ => .compoundStmt
  | ifStmt _ _ _ => .ifStmt
  | repeatStmt _ _ => .repeatStmt
  | whileStmt _ _ => .whileStmt
  | forStmt _ _ _ _ _ => .forStmt
  | emptyStmt => .emptyStmt
  | expr _ => .expr
  | constExpr _ => .constExpr
  | varExpr _ => .varExpr
  | callExpr _ _ => .callExpr
  | parenExpr _ => .parenExpr
  | unaryExpr _ _ => .unaryExpr
  | binaryExpr _ _ _ => .binaryExpr

def parts : Form α → List α
  | program head b => [head, b]
  | block consts vars routines b => consts.toList ++ vars.toList ++ routines.toList ++ [b]
  | body part | constDef _ part | const part | constSigned _ part | typeDenoter part
  | fileType part | varDecl _ part | routine part | group part | valueGroup _ part
  | varGroup _ part | stmt part | expr part | constExpr part | parenExpr part
  | unaryExpr _ part => [part]
  | constPart parts | varPart parts | routinePart parts | compoundStmt parts
  | callExpr _ parts => parts
  | procedure _ params b => params.getD [] ++ [b]
  | function _ params result b => params.getD [] ++ [result, b]
  | assignStmt _ _ left right => [left, right]
  | callStmt _ args => args.getD []
  | ifStmt condition first second => [condition, first] ++ second.toList
  | repeatStmt stmts condition => stmts ++ [condition]
  | whileStmt condition s => [condition, s]
  | forStmt _ control initial final s => [control, initial, final, s]
  | binaryExpr _ left right => [left, right]
  | heading _ _ | constInteger _ | constReal _ | constNamed _ | constSignedNamed _ _
  | constString _ | constChr _ | constBool _ | typeName _ | target _ | emptyStmt | varExpr _ => []

def mark (info : Info) (form : Form α) : Landmark :=
  ⟨form.nodeClass, info⟩

end Form

section Fold

variable {α : Type} (f : Info → Form α → α)

def foldIn (category : α → Form α) (info : Info) (form : Form α) : α :=
  f info (category (f info form))

def Const.form : Const → Form α
  | .integer _ lexeme => .constInteger lexeme
  | .real _ lexeme => .constReal lexeme
  | .signed _ sign operand => .constSigned sign (foldIn f .const operand.info operand.form)
  | .named _ name => .constNamed name
  | .signedNamed _ sign name => .constSignedNamed sign name
  | .string _ contents => .constString contents
  | .chr _ lexeme => .constChr lexeme
  | .bool _ value => .constBool value

def Const.fold (c : Const) : α :=
  foldIn f .const c.info (c.form f)

mutual

def Expr.form : Expr → Form α
  | .const _ c => .constExpr (c.fold f)
  | .var _ name => .varExpr name
  | .call _ callee args => .callExpr callee (Expr.folds args)
  | .paren _ inner => .parenExpr (foldIn f .expr inner.info inner.form)
  | .unary _ op operand => .unaryExpr op (foldIn f .expr operand.info operand.form)
  | .binary _ op left right =>
    .binaryExpr op (foldIn f .expr left.info left.form) (foldIn f .expr right.info right.form)

def Expr.folds : List Expr → List α
  | [] => []
  | e :: es => foldIn f .expr e.info e.form :: Expr.folds es

end

def Expr.fold (e : Expr) : α :=
  foldIn f .expr e.info (e.form f)

def TypeName.fold (t : TypeName) : α :=
  f t.info (.typeName t.primitive)

def TypeDenoter.form : TypeDenoter → Form α
  | .named name => .typeName name.primitive
  | .file _ component => .fileType (foldIn f .typeDenoter component.info component.form)

def TypeDenoter.fold (t : TypeDenoter) : α :=
  foldIn f .typeDenoter t.info (t.form f)

def Target.fold (t : Target) : α :=
  f t.info (.target t.name)

mutual

def Stmt.form : Stmt → Form α
  | .assign _ target value =>
    .assignStmt target.info.id value.info.id (target.fold f) (value.fold f)
  | .call _ callee args => .callStmt callee (args.map (Expr.folds f))
  | .compound _ stmts => .compoundStmt (Stmt.folds stmts)
  | .ifThen _ condition thenStmt =>
    .ifStmt (condition.fold f) (foldIn f .stmt thenStmt.info thenStmt.form) none
  | .ifThenElse _ condition thenStmt elseStmt =>
    .ifStmt (condition.fold f) (foldIn f .stmt thenStmt.info thenStmt.form)
      (some (foldIn f .stmt elseStmt.info elseStmt.form))
  | .repeatUntil _ stmts condition => .repeatStmt (Stmt.folds stmts) (condition.fold f)
  | .whileDo _ condition body =>
    .whileStmt (condition.fold f) (foldIn f .stmt body.info body.form)
  | .forDo _ direction control initial final body =>
    .forStmt direction (control.fold f) (initial.fold f) (final.fold f)
      (foldIn f .stmt body.info body.form)
  | .empty _ => .emptyStmt

def Stmt.folds : List Stmt → List α
  | [] => []
  | s :: ss => foldIn f .stmt s.info s.form :: Stmt.folds ss

end

def Stmt.fold (s : Stmt) : α :=
  foldIn f .stmt s.info (s.form f)

def ConstDef.fold (d : ConstDef) : α :=
  f d.info (.constDef d.name (d.value.fold f))

def ConstPart.fold (p : ConstPart) : α :=
  f p.info (.constPart (p.defs.map (·.fold f)))

def VarDecl.fold (d : VarDecl) : α :=
  f d.info (.varDecl d.names (d.type.fold f))

def VarPart.fold (p : VarPart) : α :=
  f p.info (.varPart (p.decls.map (·.fold f)))

def Group.form (g : Group) : Form α :=
  match g.mode with
  | .value => .valueGroup g.names (g.type.fold f)
  | .var => .varGroup g.names (g.type.fold f)

def Group.fold (g : Group) : α :=
  foldIn f .group g.info (g.form f)

def Body.fold (b : Body) : α :=
  f b.info (.body (b.stmt.fold f))

mutual

def Block.form : Block → Form α
  | .mk _ consts vars part body =>
    .block (consts.map (·.fold f)) (vars.map (·.fold f)) part.fold? (body.fold f)

def RoutinePart.fold? : RoutinePart → Option α
  | .absent => none
  | .present info routines => some (f info (.routinePart (Routine.folds routines)))

def Routine.form : Routine → Form α
  | .procedure _ name params block =>
    .procedure name (params.map (·.map (·.fold f))) (f block.info block.form)
  | .function _ name params result block =>
    .function name (params.map (·.map (·.fold f))) (result.fold f) (f block.info block.form)

def Routine.folds : List Routine → List α
  | [] => []
  | r :: rs => foldIn f .routine r.info r.form :: Routine.folds rs

end

def Block.fold (b : Block) : α :=
  f b.info (b.form f)

def Heading.fold (h : Heading) : α :=
  f h.info (.heading h.name h.params)

namespace Root

def form : Root → Form α
  | .program p => .program (p.heading.fold f) (p.block.fold f)
  | .heading h => .heading h.name h.params
  | .block b => b.form f
  | .body b => .body (b.stmt.fold f)
  | .constPart p => .constPart (p.defs.map (·.fold f))
  | .constDef d => .constDef d.name (d.value.fold f)
  | .const c => c.form f
  | .type t => t.form f
  | .typeName t => .typeName t.primitive
  | .varPart p => .varPart (p.decls.map (·.fold f))
  | .varDecl d => .varDecl d.names (d.type.fold f)
  | .routinePart _ routines => .routinePart (Routine.folds f routines)
  | .routine r => r.form f
  | .group g => g.form f
  | .stmt s => s.form f
  | .target t => .target t.name
  | .expr e => e.form f

def foldForm (root : Root) : α :=
  f root.info (root.form f)

def fold (root : Root) : α :=
  let inner := root.foldForm f
  match root with
  | .const _ => f root.info (.const inner)
  | .type _ => f root.info (.typeDenoter inner)
  | .routine _ => f root.info (.routine inner)
  | .group _ => f root.info (.group inner)
  | .stmt _ => f root.info (.stmt inner)
  | .expr _ => f root.info (.expr inner)
  | _ => inner

end Root

end Fold

end PascalCheck
