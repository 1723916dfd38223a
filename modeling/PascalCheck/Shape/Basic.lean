import PascalCheck.Source

/-!
The shape of a tree: the class, number and place of every node, without the rest. A shape is what
all walks go over, so a walk needs no knowledge of the kinds of node.
-/

namespace PascalCheck

/--
The classes of node. A node of a syntactic category (`const`, `typeDenoter`, `routine`, `group`,
`stmt`, `expr`) holds a single node that says which form of the category it is.
-/
inductive NodeClass where
  | program
  | heading
  | block
  | body
  | constPart
  | constDef
  | const
  | constInteger
  | constReal
  | constSigned
  | constNamed
  | constSignedNamed
  | constString
  | constChr
  | constBool
  | typeDenoter
  | typeName
  | fileType
  | varPart
  | varDecl
  | routinePart
  | routine
  | procedure
  | function
  | group
  | valueGroup
  | varGroup
  | stmt
  | target
  | assignStmt
  | callStmt
  | compoundStmt
  | ifStmt
  | repeatStmt
  | whileStmt
  | forStmt
  | emptyStmt
  | expr
  | constExpr
  | varExpr
  | callExpr
  | parenExpr
  | unaryExpr
  | binaryExpr
  deriving DecidableEq

def NodeClass.text : NodeClass → String
  | .program => "Program"
  | .heading => "ProgramHeading"
  | .block => "Block"
  | .body => "StatementPart"
  | .constPart => "ConstantDefinitionPart"
  | .constDef => "ConstantDefinition"
  | .const => "Const"
  | .constInteger => "ConstInteger"
  | .constReal => "ConstReal"
  | .constSigned => "ConstSigned"
  | .constNamed => "ConstNamed"
  | .constSignedNamed => "ConstSignedNamed"
  | .constString => "ConstStringLiteral"
  | .constChr => "ConstChr"
  | .constBool => "ConstBool"
  | .typeDenoter => "TypeDenoter"
  | .typeName => "TypeIdentifier"
  | .fileType => "FileType"
  | .varPart => "VariableDeclarationPart"
  | .varDecl => "VariableDeclaration"
  | .routinePart => "ProcedureAndFunctionDeclarationPart"
  | .routine => "ProcedureAndFunctionDeclaration"
  | .procedure => "ProcedureDefinition"
  | .function => "FunctionDefinition"
  | .group => "FormalParameter"
  | .valueGroup => "FormalParameterValue"
  | .varGroup => "FormalParameterVariable"
  | .stmt => "Stmt"
  | .target => "AssigVariable"
  | .assignStmt => "StmtAssignment"
  | .callStmt => "StmtProcedureCall"
  | .compoundStmt => "StmtCompound"
  | .ifStmt => "StmtIf"
  | .repeatStmt => "StmtRepeatUntil"
  | .whileStmt => "StmtWhileDo"
  | .forStmt => "StmtFor"
  | .emptyStmt => "StmtEmpty"
  | .expr => "Expr"
  | .constExpr => "ExprConst"
  | .varExpr => "ExprVariable"
  | .callExpr => "ExprFunctionCall"
  | .parenExpr => "ExprParentheses"
  | .unaryExpr => "ExprUnOp"
  | .binaryExpr => "ExprBinOp"

structure Landmark where
  nodeClass : NodeClass
  info : Info
  deriving DecidableEq

inductive Shape where
  | leaf (mark : Landmark)
  | node (mark : Landmark) (parts : List Shape)

end PascalCheck
