import PascalCheck.Check.Stmt
import PascalCheck.Proofs.Frames
import PascalCheck.Proofs.Relabel.Types

/-!
Constants, expressions and statements are checked without regard to tags: in a scope with other tags
the check says the same and records the same types with other tags.
-/

namespace PascalCheck

variable [Naming]

def Entry.relabel (f : Nat → Nat) (e : Entry) : Entry :=
  { e with type := e.type.relabel f }

def Record.relabel (f : Nat → Nat) (r : Record) : Record :=
  { r with type := r.type.relabel f }

def Frame.relabel (f : Nat → Nat) (frame : Frame) : Frame where
  entries := frame.entries.map (Entry.relabel f)
  index := frame.index
  inStep := by
    intro name i
    rw [frame.inStep, List.getElem?_map, Option.map_map]
    rfl

def Scope.relabel (f : Nat → Nat) (s : Scope) : Scope :=
  ⟨s.inner.relabel f, s.outer.map (Frame.relabel f)⟩

def Findings.Actual.relabel (f : Nat → Nat) (a : Findings.Actual) : Findings.Actual :=
  { a with type := a.type.relabel f }

def Findings.relabel (f : Nat → Nat) (found : Findings) : Findings :=
  ⟨found.diagnostics, found.records.map (Record.relabel f), found.actuals.map (Actual.relabel f)⟩

def Typing.relabel (f : Nat → Nat) (t : Typing) : Typing :=
  ⟨t.type.relabel f, t.findings.relabel f⟩

def Argument.relabel (f : Nat → Nat) (a : Argument) : Argument :=
  { a with typing := a.typing.relabel f }

def Resolution.relabel (f : Nat → Nat) (r : Resolution) : Resolution :=
  ⟨r.routine?.map (Ty.relabel f), r.findings.relabel f⟩

def Call.relabel (f : Nat → Nat) (c : Call) : Call :=
  { c with args := c.args.map (Argument.relabel f) }

variable (f : Nat → Nat)

namespace Scope

theorem frame_get?_relabel (frame : Frame) (name : String) :
    (frame.relabel f).get? name = (frame.get? name).map (Entry.relabel f) := by
  rw [Frame.get?_eq_find?, Frame.get?_eq_find?]
  exact List.find?_map ..

@[simp]
theorem getInner?_relabel (s : Scope) (name : String) :
    (s.relabel f).getInner? name = (s.getInner? name).map (Entry.relabel f) := by
  apply frame_get?_relabel

theorem get?_relabel (s : Scope) (name : String) :
    (s.relabel f).get? name = (s.get? name).map (Entry.relabel f) := by
  unfold get?
  rw [List.map_findSome?]
  have hframes : (s.relabel f).inner :: (s.relabel f).outer =
      (s.inner :: s.outer).map (Frame.relabel f) := rfl
  rw [hframes, List.findSome?_map]
  congr 1
  funext frame
  apply frame_get?_relabel

@[simp]
theorem lookup?_relabel (s : Scope) (name : String) :
    (s.relabel f).lookup? name = (s.lookup? name).map (Ty.relabel f) := by
  unfold lookup?
  rw [get?_relabel, Option.map_map, Option.map_map]
  rfl

@[simp]
theorem bounds_relabel (s : Scope) : (s.relabel f).bounds = s.bounds := by
  unfold bounds
  rw [lookup?_relabel]
  cases s.lookup? "maxint" <;> simp

end Scope

namespace Findings

@[simp]
theorem relabel_none : Findings.none.relabel f = .none := rfl

@[simp]
theorem relabel_error (place : Span) (problem : Problem) :
    (Findings.error place problem).relabel f = .error place problem := rfl

@[simp]
theorem relabel_record (id : Nat) (t : Ty) :
    (Findings.record id t).relabel f = .record id (t.relabel f) := rfl

@[simp]
theorem relabel_pass (mode : Mode) (t : Ty) :
    (Findings.pass mode t).relabel f = .pass mode (t.relabel f) := rfl

@[simp]
theorem relabel_append (a b : Findings) :
    (a ++ b).relabel f = a.relabel f ++ b.relabel f := by
  apply Findings.ext
  . rfl
  . simp [Findings.relabel]
  . simp [Findings.relabel]

@[simp]
theorem invalidConstant_relabel (scope : Scope) (place : Span) (context : String) :
    Findings.invalidConstant (scope.relabel f) place context =
      .invalidConstant scope place context := by
  simp [Findings.invalidConstant]

@[simp]
theorem relabel_invalidConstant (scope : Scope) (place : Span) (context : String) :
    (Findings.invalidConstant scope place context).relabel f =
      .invalidConstant scope place context := rfl

end Findings

namespace Typing

@[simp]
theorem type_relabel (t : Typing) : (t.relabel f).type = t.type.relabel f := rfl

@[simp]
theorem findings_relabel (t : Typing) : (t.relabel f).findings = t.findings.relabel f := rfl

theorem silent_relabel (t : Ty) : Typing.silent (t.relabel f) = (Typing.silent t).relabel f := rfl

@[simp]
theorem record_relabel (t : Typing) (info : Info) :
    (t.relabel f).record info = (t.record info).relabel f := by
  simp [Typing.record, Typing.relabel]

end Typing

theorem Name.check_relabel (scope : Scope) (name : Name) :
    Name.check (scope.relabel f) name = (Name.check scope name).relabel f := by
  unfold Name.check
  rw [Scope.lookup?_relabel]
  cases scope.lookup? name.value with
  | none => rfl
  | some t => rfl

theorem lexemeType_relabel (lexeme : String) (p : Primitive) :
    (lexemeType lexeme (.primitive p)).relabel f = lexemeType lexeme (.primitive p) := by
  unfold lexemeType
  split <;> rfl

namespace Const

theorem applySign_relabel (scope : Scope) (place : Span) (sign : Sign) (operand : Const)
    (t : Typing) :
    applySign (scope.relabel f) place sign operand (t.relabel f) =
      (applySign scope place sign operand t).relabel f := by
  unfold applySign
  cases operand with
  | integer info lexeme =>
    simp only [Scope.bounds_relabel]
    split
    . rfl
    . simp [Typing.reject, Typing.relabel]
  | _ =>
    simp only [Typing.type_relabel, Ty.isError_relabel, Ty.isInvalidConstant_relabel,
      Ty.isNumeric_relabel, Ty.text_relabel]
    split
    . rfl
    . simp [Typing.reject, Typing.relabel]

theorem applySignToName_relabel (place : Span) (sign : Sign) (name : Name) (t : Typing) :
    applySignToName place sign name (t.relabel f) =
      (applySignToName place sign name t).relabel f := by
  unfold applySignToName
  simp only [Typing.type_relabel, Ty.isError_relabel, Ty.isNumeric_relabel, Ty.text_relabel]
  split
  . rfl
  . simp [Typing.reject, Typing.relabel]

theorem check_relabel (scope : Scope) (c : Const) :
    c.check (scope.relabel f) = (c.check scope).relabel f := by
  induction c with
  | integer info lexeme =>
    rw [check, check, ← Typing.record_relabel, ← Typing.silent_relabel, lexemeType_relabel]
  | chr info lexeme =>
    rw [check, check, ← Typing.record_relabel, ← Typing.silent_relabel, lexemeType_relabel]
  | signed info sign operand ih =>
    rw [check, ih, applySign_relabel, Typing.record_relabel, check]
  | named info name => rw [check, Name.check_relabel, Typing.record_relabel, check]
  | signedNamed info sign name =>
    rw [check, Name.check_relabel, applySignToName_relabel, Typing.record_relabel, check]
  | _ => rfl

end Const

namespace Argument

@[simp]
theorem type_relabel (a : Argument) : (a.relabel f).type = a.type.relabel f := rfl

@[simp]
theorem mode_relabel (a : Argument) : (a.relabel f).mode = a.mode := rfl

@[simp]
theorem isSound_relabel (a : Argument) : (a.relabel f).isSound = a.isSound := by
  simp [isSound]

@[simp]
theorem findings_relabel (scope : Scope) (a : Argument) :
    (a.relabel f).findings (scope.relabel f) = (a.findings scope).relabel f := by
  simp only [findings, type_relabel, mode_relabel, Ty.isInvalidConstant_relabel,
    Findings.relabel_append, Findings.relabel_pass]
  split <;> simp [relabel]

@[simp]
theorem mismatch?_relabel (a : Argument) (formal : Ty) :
    (a.relabel f).mismatch? (formal.relabel f) = a.mismatch? formal := by
  unfold mismatch?
  rw [Ty.parameter?_relabel]
  cases formal.parameter? with
  | none => rfl
  | some parameter => simp

end Argument

namespace Call

theorem argumentFindings_relabel (scope : Scope) (args : List Argument) :
    argumentFindings (scope.relabel f) (args.map (Argument.relabel f)) =
      (argumentFindings scope args).relabel f := by
  induction args with
  | nil => rfl
  | cons a args ih => simp [argumentFindings, ih]

theorem mismatchProblem_relabel (c : Call) (position : Nat) (formal : Ty) (a : Argument)
    (mismatch : Mismatch) :
    (c.relabel f).mismatchProblem position (formal.relabel f) (a.relabel f) mismatch =
      c.mismatchProblem position formal a mismatch := by
  cases mismatch with
  | notVariable => rfl
  | type => simp [mismatchProblem, Call.relabel, Argument.relabel, Argument.type]

theorem passArgument_relabel (scope : Scope) (c : Call) (position : Nat) (formal : Ty)
    (a : Argument) :
    (c.relabel f).passArgument (scope.relabel f) position (formal.relabel f) (a.relabel f) =
      (c.passArgument scope position formal a).relabel f := by
  simp only [passArgument, Argument.findings_relabel, Argument.isSound_relabel,
    Argument.mismatch?_relabel, mismatchProblem_relabel, Findings.relabel_append]
  split
  . split
    . rfl
    . rfl
  . rfl

theorem passArguments_relabel (scope : Scope) (c : Call) (position : Nat) (formals : List Ty)
    (args : List Argument) :
    (c.relabel f).passArguments (scope.relabel f) position (formals.map (Ty.relabel f))
        (args.map (Argument.relabel f)) =
      (c.passArguments scope position formals args).relabel f := by
  induction formals generalizing position args with
  | nil => apply argumentFindings_relabel
  | cons formal formals ih =>
    cases args with
    | nil => rfl
    | cons a args => simp only [List.map_cons, passArguments, passArgument_relabel, ih,
        Findings.relabel_append]

theorem takes_relabel (args : List Argument) (routine : Ty) :
    takes (args.map (Argument.relabel f)) (routine.relabel f) = takes args routine := by
  unfold takes
  rw [Ty.params_relabel, List.length_map, List.length_map, List.zip_map, List.all_map]
  congr 2
  funext pair
  simp

theorem resolveSingle_relabel (scope : Scope) (c : Call) (type : Ty) :
    (c.relabel f).resolveSingle (scope.relabel f) (type.relabel f) =
      (c.resolveSingle scope type).relabel f := by
  unfold resolveSingle
  have hargs : (c.relabel f).args = c.args.map (Argument.relabel f) := rfl
  rw [hargs, Ty.params_relabel, List.length_map, List.length_map, passArguments_relabel]
  split <;> rfl

theorem resolveOverloaded_relabel (scope : Scope) (c : Call) (alternatives : List Ty) :
    (c.relabel f).resolveOverloaded (scope.relabel f) (alternatives.map (Ty.relabel f)) =
      (c.resolveOverloaded scope alternatives).relabel f := by
  have hargs : (c.relabel f).args = c.args.map (Argument.relabel f) := rfl
  have hsound : (c.relabel f).args.all Argument.isSound = c.args.all Argument.isSound := by
    rw [hargs, List.all_map]
    congr 1
    funext a
    simp
  have hfind : (alternatives.map (Ty.relabel f)).find? (takes (c.relabel f).args) =
      (alternatives.find? (takes c.args)).map (Ty.relabel f) := by
    rw [List.find?_map]
    congr 2
    funext routine
    exact takes_relabel f c.args routine
  have htypes : (c.relabel f).args.map (fun a => a.type.text) =
      c.args.map fun a => a.type.text := by
    simp [hargs]
  simp only [resolveOverloaded, hsound, hfind, htypes]
  rw [hargs, argumentFindings_relabel]
  split
  . cases alternatives.find? (takes c.args) with
    | some routine => rfl
    | none => simp [Resolution.relabel, Call.relabel]
  . rfl

theorem resolve_relabel (scope : Scope) (c : Call) (type : Ty) :
    (c.relabel f).resolve (scope.relabel f) (type.relabel f) =
      (c.resolve scope type).relabel f := by
  unfold resolve
  rw [Ty.alternatives?_relabel]
  cases type.alternatives? with
  | some alternatives => apply resolveOverloaded_relabel
  | none => apply resolveSingle_relabel

theorem check_relabel (scope : Scope) (c : Call) :
    (c.relabel f).check (scope.relabel f) = (c.check scope).relabel f := by
  have hcallee : (c.relabel f).callee = c.callee := rfl
  have hkind : (c.relabel f).kind = c.kind := rfl
  simp only [check, hcallee, hkind, Name.check_relabel, Typing.type_relabel, Ty.isError_relabel,
    Ty.routineKind?_relabel, resolve_relabel, Typing.findings_relabel]
  split
  . rfl
  . split
    . simp [Resolution.relabel]
    . simp [Resolution.relabel, Call.relabel]

end Call

end PascalCheck
