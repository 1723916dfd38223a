import PascalCheck.Records
import PascalCheck.Text.Quoted
import PascalCheck.Text.Trim
import PascalCheck.Types.Text
import PascalCheck.Visitor.Basic

/-!
The visitor that draws the outline of a tree, one line for every node, with the types that have been
recorded. It has a method for every class of node. The methods of syntactic categories leave it to the
visit to go on; all others draw a line and see to the parts themselves, each with a marker that tells
whether it is the last one.
-/

namespace PascalCheck

open Text (quote quoteAll)

def Records.typeText (records : Records) (id : Nat) : String :=
  match records.type? id with
  | none => "<<no-type>>"
  | some type => if type.isError || type.isInvalidConstant then "<<error-type>>" else type.text

/-- What can be seen of the recorded types; there is no text where a look into a type fails. -/
structure View where
  typeText? : Nat → Option String
  hasType : Nat → Bool

def Records.view (records : Records) : View where
  typeText? id := some (records.typeText id)
  hasType id := (records.type? id).isSome

structure Drawing where
  markers : List Char
  text : String

abbrev Draw := StateT Drawing (Except Fault)

namespace Draw

def margin : List Char → String
  | [] => ""
  | [marker] => String.singleton marker ++ "─╴"
  | marker :: markers => (if marker = '├' then "│  " else "   ") ++ margin markers

def withMarker (marker : Char) (part : Draw Unit) : Draw Unit := do
  modify fun d => { d with markers := d.markers ++ [marker] }
  part
  modify fun d => { d with markers := d.markers.dropLast }

def child (part : Draw Unit) : Draw Unit :=
  withMarker '├' part

def lastChild (part : Draw Unit) : Draw Unit :=
  withMarker '└' part

def optionalChild : Option (Draw Unit) → Draw Unit
  | none => return ()
  | some part => child part

def children (parts : List (Draw Unit)) (hasMore : Bool) : Draw Unit :=
  parts.zipIdx.forM fun part =>
    if part.2 + 1 == parts.length && !hasMore then lastChild part.1 else child part.1

end Draw

structure Outliner where
  view : View
  withIds : Bool

namespace Outliner

open Draw

def line (o : Outliner) (label : String) (info : Info) (payload : String) : Draw Unit :=
  let number := if o.withIds then s!"[{info.id}]" else ""
  let line := label ++ number ++ " " ++ info.span.start.text ++ " " ++ payload
  modify fun d => { d with text := d.text ++ margin d.markers ++ Text.trimEnd line ++ "\n" }

def typeText (o : Outliner) (id : Nat) : Draw String :=
  match o.view.typeText? id with
  | some text => return text
  | none => throw .unknownType

def names (names : List Name) : String :=
  quoteAll (names.map (·.value))

def typedLine (o : Outliner) (label : String) (info : Info) (payload : String) (id : Nat) :
    Draw Unit := do
  o.line label info (payload ++ (← o.typeText id))

def leaf? (o : Outliner) (info : Info) : Form (Draw Unit) → Option (Draw Unit)
  | .heading name params =>
    some (o.line "ProgramHeading" info (quote name.value ++ " " ++ names params))
  | .constInteger lexeme => some (o.typedLine "ConstInteger" info (lexeme.value ++ " ") info.id)
  | .constReal lexeme => some (o.typedLine "ConstReal" info (lexeme.value ++ " ") info.id)
  | .constNamed name => some (o.typedLine "ConstNamed" info (quote name.value ++ " ") info.id)
  | .constSignedNamed sign name =>
    some (o.typedLine "ConstSignedNamed" info (sign.value.text ++ " " ++ quote name.value ++ " ")
      info.id)
  | .constString contents =>
    some (o.typedLine "ConstStringLiteral" info (quote contents.value ++ " ") info.id)
  | .constChr lexeme => some (o.typedLine "ConstChr" info (lexeme.value ++ " ") info.id)
  | .constBool value =>
    some (o.typedLine "ConstBool" info ((if value.value then "true" else "false") ++ " ") info.id)
  | .typeName primitive =>
    some (o.typedLine "TypeIdentifier" info (quote primitive.value.text ++ " ") info.id)
  | .target name => some (o.typedLine "AssigVariable" info (quote name.value ++ " ") info.id)
  | .emptyStmt => some (o.line "StmtEmpty" info "")
  | .varExpr name => some (o.typedLine "ExprVariable" info (quote name.value ++ " ") info.id)
  | _ => none

def pre? (o : Outliner) (info : Info) : Form (Draw Unit) → Option (Draw Bool)
  | .program heading block => some do
    o.line "Program" info ""
    child heading
    lastChild block
    return false
  | .block consts vars routines body => some do
    o.line "Block" info ""
    optionalChild consts
    optionalChild vars
    optionalChild routines
    lastChild body
    return false
  | .body stmt => some do
    o.line "StatementPart" info ""
    lastChild stmt
    return false
  | .constPart defs => some do
    o.line "ConstantDefinitionPart" info ""
    children defs false
    return false
  | .constDef name value => some do
    o.line "ConstantDefinition" info (quote name.value)
    lastChild value
    return false
  | .constSigned sign operand => some do
    o.typedLine "ConstSigned" info (sign.value.text ++ " ") info.id
    lastChild operand
    return false
  | .fileType component => some do
    o.typedLine "FileType" info "" info.id
    lastChild component
    return false
  | .varPart decls => some do
    o.line "VariableDeclarationPart" info ""
    children decls false
    return false
  | .varDecl declared type => some do
    o.line "VariableDeclaration" info (names declared)
    lastChild type
    return false
  | .routinePart routines => some do
    o.line "ProcedureAndFunctionDeclarationPart" info ""
    children routines false
    return false
  | .procedure name params block => some do
    o.typedLine "ProcedureDefinition" info (quote name.value ++ " ") name.id
    if let some params := params then
      children params true
    lastChild block
    return false
  | .function name params result block => some do
    o.typedLine "FunctionDefinition" info (quote name.value ++ " ") name.id
    if let some params := params then
      children params true
    child result
    lastChild block
    return false
  | .valueGroup params type => some do
    o.typedLine "FormalParameterValue" info (names params ++ " ") info.id
    lastChild type
    return false
  | .varGroup params type => some do
    o.typedLine "FormalParameterVariable" info (names params ++ " ") info.id
    lastChild type
    return false
  | .assignStmt targetId valueId target value => some do
    -- An assignment that has a type of its own gives a function its result.
    let result := if o.view.hasType info.id then " result" else ""
    let targetType ← o.typeText targetId
    let valueType ← o.typeText valueId
    o.line "StmtAssignment" info ("lhs " ++ targetType ++ " rhs " ++ valueType ++ result)
    child target
    lastChild value
    return false
  | .callStmt callee args => some do
    o.line "StmtProcedureCall" info (quote callee.value)
    if let some args := args then
      children args false
    return false
  | .compoundStmt stmts => some do
    o.line "StmtCompound" info ""
    children stmts false
    return false
  | .ifStmt condition thenStmt elseStmt => some do
    o.line "StmtIf" info ""
    child condition
    match elseStmt with
    | some elseStmt =>
      child thenStmt
      lastChild elseStmt
    | none => lastChild thenStmt
    return false
  | .repeatStmt stmts condition => some do
    o.line "StmtRepeatUntil" info ""
    children stmts true
    lastChild condition
    return false
  | .whileStmt condition body => some do
    o.line "StmtWhileDo" info ""
    child condition
    lastChild body
    return false
  | .forStmt direction control initial final body => some do
    o.line "StmtFor" info direction.text
    child control
    child initial
    child final
    lastChild body
    return false
  | .constExpr const => some do
    o.typedLine "ExprConst" info "" info.id
    lastChild const
    return false
  | .callExpr callee args => some do
    o.typedLine "ExprFunctionCall" info (quote callee.value ++ " ") info.id
    children args false
    return false
  | .parenExpr inner => some do
    o.typedLine "ExprParentheses" info "" info.id
    lastChild inner
    return false
  | .unaryExpr op operand => some do
    o.typedLine "UnOp" info (op.value.text ++ " ") info.id
    lastChild operand
    return false
  | .binaryExpr op left right => some do
    o.typedLine "BinOp" info (op.value.text ++ " ") info.id
    child left
    lastChild right
    return false
  | .const _ | .typeDenoter _ | .routine _ | .group _ | .stmt _ | .expr _ => some (return true)
  | _ => none

def unhandled (phase : Phase) (mark : Landmark) : Draw Unit :=
  match phase.fault? mark.nodeClass.text mark.info.span.start with
  | some fault => throw fault
  | none => return ()

def visitor (o : Outliner) : Visitor Draw where
  pre? := o.pre?
  post? _ _ := none
  leaf? := o.leaf?
  unhandled := unhandled

def run (visit : Draw Unit) : Except Fault String := do
  let (_, drawing) ← StateT.run visit ⟨[], ""⟩
  return drawing.text

end Outliner

def Root.outlined (records : Records) (withIds : Bool) (root : Root) : Except Fault String :=
  Outliner.run (root.fold (Outliner.visitor ⟨records.view, withIds⟩).visit)

end PascalCheck
