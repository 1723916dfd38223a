import PascalCheck.Source
import PascalCheck.Syntax.Operator

/-!
The trees that are checked. Every node carries an `Info`; names, lexemes, signs and operators are
tokens with an `Info` of their own. Numbers keep their lexeme: whether it stands for a value is for
the checker to say.
-/

namespace PascalCheck

inductive Const where
  | integer (info : Info) (lexeme : Token String)
  | real (info : Info) (lexeme : Token String)
  | signed (info : Info) (sign : Token Sign) (operand : Const)
  | named (info : Info) (name : Name)
  | signedNamed (info : Info) (sign : Token Sign) (name : Name)
  | string (info : Info) (contents : Token String)
  | chr (info : Info) (lexeme : Token String)
  | bool (info : Info) (value : Token Bool)

def Const.info : Const → Info
  | .integer info _ | .real info _ | .signed info _ _ | .named info _ | .signedNamed info _ _
  | .string info _ | .chr info _ | .bool info _ => info

inductive Expr where
  | const (info : Info) (const : Const)
  | var (info : Info) (name : Name)
  | call (info : Info) (callee : Name) (args : List Expr)
  | paren (info : Info) (inner : Expr)
  | unary (info : Info) (op : Token UnaryOp) (operand : Expr)
  | binary (info : Info) (op : Token BinaryOp) (left right : Expr)

namespace Expr

def info : Expr → Info
  | .const info _ | .var info _ | .call info _ _ | .paren info _ | .unary info _ _
  | .binary info _ _ _ => info

def span (e : Expr) : Span :=
  e.info.span

def isCharLiteral : Expr → Bool
  | .const _ (.string _ contents) => contents.value.length == 1
  | .paren _ inner => inner.isCharLiteral
  | _ => false

end Expr

structure TypeName where
  info : Info
  primitive : Token Primitive

inductive TypeDenoter where
  | named (name : TypeName)
  | file (info : Info) (component : TypeDenoter)

def TypeDenoter.info : TypeDenoter → Info
  | .named name => name.info
  | .file info _ => info

structure Target where
  info : Info
  name : Name

inductive Stmt where
  | assign (info : Info) (target : Target) (value : Expr)
  | call (info : Info) (callee : Name) (args : Option (List Expr))
  | compound (info : Info) (stmts : List Stmt)
  | ifThen (info : Info) (condition : Expr) (thenStmt : Stmt)
  | ifThenElse (info : Info) (condition : Expr) (thenStmt elseStmt : Stmt)
  | repeatUntil (info : Info) (stmts : List Stmt) (condition : Expr)
  | whileDo (info : Info) (condition : Expr) (body : Stmt)
  | forDo (info : Info) (direction : Direction) (control : Target) (initial final : Expr)
      (body : Stmt)
  | empty (info : Info)

def Stmt.info : Stmt → Info
  | .assign info _ _ | .call info _ _ | .compound info _ | .ifThen info _ _
  | .ifThenElse info _ _ _ | .repeatUntil info _ _ | .whileDo info _ _ | .forDo info _ _ _ _ _
  | .empty info => info

structure ConstDef where
  info : Info
  name : Name
  value : Const

structure ConstPart where
  info : Info
  defs : List ConstDef

structure VarDecl where
  info : Info
  names : List Name
  type : TypeDenoter

structure VarPart where
  info : Info
  decls : List VarDecl

structure Group where
  info : Info
  mode : Mode
  names : List Name
  type : TypeName

structure Body where
  info : Info
  stmt : Stmt

mutual

inductive Block where
  | mk (info : Info) (consts : Option ConstPart) (vars : Option VarPart) (routines : RoutinePart)
      (body : Body)

/-- The routines of a block; a block without a routine part differs from one with an empty part. -/
inductive RoutinePart where
  | absent
  | present (info : Info) (routines : List Routine)

inductive Routine where
  | procedure (info : Info) (name : Name) (params : Option (List Group)) (block : Block)
  | function (info : Info) (name : Name) (params : Option (List Group)) (result : TypeName)
      (block : Block)

end

def RoutinePart.routines : RoutinePart → List Routine
  | .absent => []
  | .present _ routines => routines

namespace Block

def info : Block → Info
  | .mk info _ _ _ _ => info

def constDefs : Block → List ConstDef
  | .mk _ consts _ _ _ => (consts.map (·.defs)).getD []

def varDecls : Block → List VarDecl
  | .mk _ _ vars _ _ => (vars.map (·.decls)).getD []

def routines : Block → List Routine
  | .mk _ _ _ part _ => part.routines

def body : Block → Body
  | .mk _ _ _ _ body => body

def topLevelStmts (block : Block) : List Stmt :=
  match block.body.stmt with
  | .compound _ stmts => stmts
  | stmt => [stmt]

end Block

namespace Routine

def info : Routine → Info
  | .procedure info _ _ _ | .function info _ _ _ _ => info

def kind : Routine → RoutineKind
  | .procedure _ _ _ _ => .procedure
  | .function _ _ _ _ _ => .function

def name : Routine → Name
  | .procedure _ name _ _ | .function _ name _ _ _ => name

def groups : Routine → List Group
  | .procedure _ _ params _ | .function _ _ params _ _ => params.getD []

def result? : Routine → Option TypeName
  | .procedure _ _ _ _ => none
  | .function _ _ _ result _ => some result

def block : Routine → Block
  | .procedure _ _ _ block | .function _ _ _ _ block => block

end Routine

structure Heading where
  info : Info
  name : Name
  params : List Name

structure Program where
  info : Info
  heading : Heading
  block : Block

inductive Root where
  | program (program : Program)
  | heading (heading : Heading)
  | block (block : Block)
  | body (body : Body)
  | constPart (part : ConstPart)
  | constDef (definition : ConstDef)
  | const (const : Const)
  | type (type : TypeDenoter)
  | typeName (name : TypeName)
  | varPart (part : VarPart)
  | varDecl (decl : VarDecl)
  | routinePart (info : Info) (routines : List Routine)
  | routine (routine : Routine)
  | group (group : Group)
  | stmt (stmt : Stmt)
  | target (target : Target)
  | expr (expr : Expr)

def Root.info : Root → Info
  | .program p => p.info
  | .heading h => h.info
  | .block b => b.info
  | .body b => b.info
  | .constPart p => p.info
  | .constDef d => d.info
  | .const c => c.info
  | .type t => t.info
  | .typeName t => t.info
  | .varPart p => p.info
  | .varDecl d => d.info
  | .routinePart info _ => info
  | .routine r => r.info
  | .group g => g.info
  | .stmt s => s.info
  | .target t => t.info
  | .expr e => e.info

end PascalCheck
