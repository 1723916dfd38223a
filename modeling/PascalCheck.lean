import PascalCheck.Check.Action
import PascalCheck.Check.Assignment
import PascalCheck.Check.Call
import PascalCheck.Check.Const
import PascalCheck.Check.Context
import PascalCheck.Check.Declaration
import PascalCheck.Check.Expr
import PascalCheck.Check.Findings
import PascalCheck.Check.Operator
import PascalCheck.Check.Program
import PascalCheck.Check.Stmt
import PascalCheck.Diagnostic.Basic
import PascalCheck.Diagnostic.Problem
import PascalCheck.Fault
import PascalCheck.Log
import PascalCheck.Numeral.Decimal
import PascalCheck.Numeral.Integer
import PascalCheck.Records
import PascalCheck.Required
import PascalCheck.Scope
import PascalCheck.Session
import PascalCheck.Shape.Basic
import PascalCheck.Shape.Syntax
import PascalCheck.Shape.Walk
import PascalCheck.Source
import PascalCheck.Syntax.Basic
import PascalCheck.Syntax.Numbering
import PascalCheck.Syntax.Operator
import PascalCheck.Syntax.Text
import PascalCheck.Text.Cased
import PascalCheck.Text.CharRanges
import PascalCheck.Text.Lowercase
import PascalCheck.Text.Printable
import PascalCheck.Text.Quoted
import PascalCheck.Text.Trim
import PascalCheck.Types.Basic
import PascalCheck.Types.Equiv
import PascalCheck.Types.Fresh
import PascalCheck.Types.Text
import PascalCheck.Visitor.Basic
import PascalCheck.Visitor.Form
import PascalCheck.Visitor.Outline
import PascalCheck.Proofs.Acceptance
import PascalCheck.Proofs.Arena.Basic
import PascalCheck.Proofs.Arena.Check
import PascalCheck.Proofs.Arena.Reachable
import PascalCheck.Proofs.Blocks
import PascalCheck.Proofs.Clean
import PascalCheck.Proofs.Comparison
import PascalCheck.Proofs.Constants
import PascalCheck.Proofs.Contents
import PascalCheck.Proofs.Coverage.Expr
import PascalCheck.Proofs.Coverage.Program
import PascalCheck.Proofs.Coverage.Stmt
import PascalCheck.Proofs.Equivalence
import PascalCheck.Proofs.Findings
import PascalCheck.Proofs.Frames
import PascalCheck.Proofs.Fresh
import PascalCheck.Proofs.Functions.Result
import PascalCheck.Proofs.Functions.Targets
import PascalCheck.Proofs.Growth
import PascalCheck.Proofs.History
import PascalCheck.Proofs.Induction
import PascalCheck.Proofs.Isolation
import PascalCheck.Proofs.Log.Basic
import PascalCheck.Proofs.Log.Check
import PascalCheck.Proofs.Nodes.Addresses
import PascalCheck.Proofs.Nodes.Basic
import PascalCheck.Proofs.Nodes.Shapes
import PascalCheck.Proofs.Nodes.Visits
import PascalCheck.Proofs.Nodes.Walk
import PascalCheck.Proofs.Numeral.Digits
import PascalCheck.Proofs.Numeral.Range
import PascalCheck.Proofs.Outline.Basic
import PascalCheck.Proofs.Outline.Drawing
import PascalCheck.Proofs.Outline.Lines
import PascalCheck.Proofs.Outline.Margins
import PascalCheck.Proofs.Outline.OneLine
import PascalCheck.Proofs.Outline.Reads
import PascalCheck.Proofs.Outline.Syntax
import PascalCheck.Proofs.Outline.Walk
import PascalCheck.Proofs.Overloads.Order
import PascalCheck.Proofs.Overloads.Program
import PascalCheck.Proofs.Overloads.Resolution
import PascalCheck.Proofs.Parentheses.Expr
import PascalCheck.Proofs.Parentheses.Program
import PascalCheck.Proofs.Parentheses.Run
import PascalCheck.Proofs.Parentheses.Stmt
import PascalCheck.Proofs.Plan
import PascalCheck.Proofs.Regions.Basic
import PascalCheck.Proofs.Regions.Depth
import PascalCheck.Proofs.Regions.History
import PascalCheck.Proofs.Regions.Names
import PascalCheck.Proofs.Regions.Redeclaration
import PascalCheck.Proofs.Rejections
import PascalCheck.Proofs.Relabel.Check
import PascalCheck.Proofs.Relabel.Run
import PascalCheck.Proofs.Relabel.Stmt
import PascalCheck.Proofs.Relabel.Types
import PascalCheck.Proofs.Respell.Check
import PascalCheck.Proofs.Respell.Run
import PascalCheck.Proofs.Respell.Stmt
import PascalCheck.Proofs.Respell.Syntax
import PascalCheck.Proofs.Sentinels
import PascalCheck.Proofs.Signatures
import PascalCheck.Proofs.Steps
import PascalCheck.Proofs.TypeNames
import PascalCheck.Proofs.Typing.Call
import PascalCheck.Proofs.Typing.Const
import PascalCheck.Proofs.Typing.Expr
import PascalCheck.Proofs.Typing.Operator
import PascalCheck.Proofs.Typing.Records
import PascalCheck.Proofs.Typing.Rules
import PascalCheck.Proofs.Typing.Stmt
