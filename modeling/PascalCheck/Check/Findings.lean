import PascalCheck.Diagnostic.Basic
import PascalCheck.Records
import PascalCheck.Scope

/-!
What the check of a part of a program finds: diagnostics in order, the types of the nodes that it
looked at, and the arguments of calls that were looked at. Constants, expressions and statements
change nothing else, so their checks are functions of the scope that give findings.
-/

namespace PascalCheck

structure Findings.Actual where
  mode : Mode
  type : Ty

/-- A call compares types of their own with its parameters, one for every argument. -/
def Findings.Actual.descriptor (a : Findings.Actual) (tag : Nat) : Ty :=
  .parameter tag .actual a.mode a.type

@[ext]
structure Findings where
  diagnostics : List Diagnostic
  records : Records
  actuals : List Findings.Actual

namespace Findings

def none : Findings :=
  ⟨[], [], []⟩

instance : Append Findings where
  append a b :=
    ⟨a.diagnostics ++ b.diagnostics, b.records ++ a.records, a.actuals ++ b.actuals⟩

def reports (diagnostics : List Diagnostic) : Findings :=
  ⟨diagnostics, [], []⟩

def error (place : Span) (problem : Problem) : Findings :=
  ⟨[.error place problem], [], []⟩

def record (id : Nat) (type : Ty) : Findings :=
  ⟨[], [⟨id, type⟩], []⟩

def pass (mode : Mode) (type : Ty) : Findings :=
  ⟨[], [], [⟨mode, type⟩]⟩

@[simp]
theorem diagnostics_append (a b : Findings) :
    (a ++ b).diagnostics = a.diagnostics ++ b.diagnostics := rfl

@[simp]
theorem records_append (a b : Findings) : (a ++ b).records = b.records ++ a.records := rfl

@[simp]
theorem actuals_append (a b : Findings) : (a ++ b).actuals = a.actuals ++ b.actuals := rfl

@[simp]
theorem diagnostics_none : none.diagnostics = [] := rfl

@[simp]
theorem records_none : none.records = [] := rfl

@[simp]
theorem actuals_none : none.actuals = [] := rfl

@[simp]
theorem diagnostics_reports (ds : List Diagnostic) : (reports ds).diagnostics = ds := rfl

@[simp]
theorem records_reports (ds : List Diagnostic) : (reports ds).records = [] := rfl

@[simp]
theorem diagnostics_pass (mode : Mode) (type : Ty) : (pass mode type).diagnostics = [] := rfl

@[simp]
theorem records_pass (mode : Mode) (type : Ty) : (pass mode type).records = [] := rfl

@[simp]
theorem none_append (a : Findings) : none ++ a = a := by
  apply Findings.ext <;> simp

@[simp]
theorem append_none (a : Findings) : a ++ none = a := by
  apply Findings.ext <;> simp

theorem append_assoc (a b c : Findings) : a ++ b ++ c = a ++ (b ++ c) := by
  apply Findings.ext <;> simp

end Findings

structure Typing where
  type : Ty
  findings : Findings

namespace Typing

def silent (type : Ty) : Typing :=
  ⟨type, .none⟩

def reject (t : Typing) (place : Span) (problem : Problem) (type : Ty) : Typing :=
  ⟨type, t.findings ++ .error place problem⟩

def record (t : Typing) (info : Info) : Typing :=
  ⟨t.type, t.findings ++ .record info.id t.type⟩

end Typing

variable [Naming]

def Name.check (scope : Scope) (name : Name) : Typing :=
  match scope.lookup? name.value with
  | some type => .silent type
  | none => ⟨.undefined, .error name.span (.notFound name.value)⟩

def Scope.bounds (scope : Scope) : Numeral.Bounds :=
  ((scope.lookup? "maxint").bind Ty.bounds?).getD .integer

def Findings.invalidConstant (scope : Scope) (place : Span) (context : String) : Findings :=
  .error place (.invalidConstant context scope.bounds)

end PascalCheck
