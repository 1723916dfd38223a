import Mathlib.Data.List.Forall2
import PascalCheck.Check.Call
import PascalCheck.Check.Const
import PascalCheck.Proofs.Respell.Syntax

/-!
Names count by their canonical form only. With other spellings, constants and calls have the same
types, the same nodes are given types, and the same is reported of the same places, but for the words
that a report takes from the source.
-/

namespace PascalCheck

variable [Naming]

def Problem.unworded : Problem → Problem
  | .redeclared _ => .redeclared ""
  | .notFound _ => .notFound ""
  | .invalidConstant _ bounds => .invalidConstant "" bounds
  | .signNotApplicable sign _ type => .signNotApplicable sign "" type
  | .noResult _ => .noResult ""
  | .notCondition stmt _ type => .notCondition stmt "" type
  | .procedureTarget _ _ => .procedureTarget "" ""
  | .resultMismatch _ type _ result => .resultMismatch "" type "" result
  | .functionValueMismatch _ result _ type => .functionValueMismatch "" result "" type
  | .assignmentMismatch _ target value => .assignmentMismatch "" target value
  | .controlNotOrdinal _ type => .controlNotOrdinal "" type
  | .limitMismatch limit _ type _ controlType => .limitMismatch limit "" type "" controlType
  | .notRoutine kind _ => .notRoutine kind ""
  | .tooFewArguments kind _ expected given => .tooFewArguments kind "" expected given
  | .argumentNotVariable _ position kind _ => .argumentNotVariable "" position kind ""
  | .argumentMismatch _ type position kind _ formal =>
    .argumentMismatch "" type position kind "" formal
  | .noAlternative kind _ types => .noAlternative kind "" types
  | .unaryOperand op _ type => .unaryOperand op "" type
  | .logicalOperand op side _ type => .logicalOperand op side "" type
  | .relationalOperand op side _ type => .relationalOperand op side "" type
  | .arithmeticOperand op side _ type => .arithmeticOperand op side "" type
  | p => p

def Message.unworded : Message → Message
  | .problem p => .problem p.unworded
  | m => m

mutual

def Diagnostic.unworded : Diagnostic → Diagnostic
  | .plain severity place message => .plain severity place message.unworded
  | .detailed severity place message places details =>
    .detailed severity place message.unworded places (Diagnostic.unwordedAll details)

def Diagnostic.unwordedAll : List Diagnostic → List Diagnostic
  | [] => []
  | d :: ds => d.unworded :: Diagnostic.unwordedAll ds

end

structure Name.Alike (a b : Name) : Prop where
  info : a.info = b.info
  value : canonicalName a.value = canonicalName b.value

structure Findings.Alike (a b : Findings) : Prop where
  diagnostics : a.diagnostics.map Diagnostic.unworded = b.diagnostics.map Diagnostic.unworded
  records : a.records = b.records
  actuals : a.actuals = b.actuals

structure Typing.Alike (a b : Typing) : Prop where
  type : a.type = b.type
  findings : a.findings.Alike b.findings

structure Argument.Alike (a b : Argument) : Prop where
  typing : a.typing.Alike b.typing
  mode : a.mode = b.mode
  span : a.expr.span = b.expr.span

structure Call.Alike (a b : Call) : Prop where
  kind : a.kind = b.kind
  callee : Name.Alike a.callee b.callee
  args : List.Forall₂ Argument.Alike a.args b.args
  place : a.place = b.place

structure Resolution.Alike (a b : Resolution) : Prop where
  routine : a.routine? = b.routine?
  findings : a.findings.Alike b.findings

def KeepsNames (f : String → String) : Prop :=
  ∀ name, canonicalName (f name) = canonicalName name

theorem Name.respell_alike {f : String → String} (hf : KeepsNames f) (name : Name) :
    (Name.respell f name).Alike name :=
  ⟨rfl, hf name.value⟩

namespace Scope

variable {a b : String} (h : canonicalName a = canonicalName b)

include h

theorem getInner?_congr (s : Scope) : s.getInner? a = s.getInner? b := by
  rw [getInner?, h, getInner?]

theorem lookup?_congr (s : Scope) : s.lookup? a = s.lookup? b := by
  rw [lookup?, get?, h, lookup?, get?]

theorem define?_congr (s : Scope) (type : Ty) (place : Option Span) :
    s.define? a type place = s.define? b type place := by
  rw [define?, h, define?]

end Scope

namespace Findings.Alike

theorem refl (found : Findings) : found.Alike found :=
  ⟨rfl, rfl, rfl⟩

theorem append {a b a' b' : Findings} (h : a.Alike b) (h' : a'.Alike b') :
    (a ++ a').Alike (b ++ b') := by
  constructor
  . rw [diagnostics_append, diagnostics_append, List.map_append, List.map_append, h.diagnostics,
      h'.diagnostics]
  . rw [records_append, records_append, h.records, h'.records]
  . rw [actuals_append, actuals_append, h.actuals, h'.actuals]

theorem error (place : Span) {a b : Problem} (h : a.unworded = b.unworded) :
    (Findings.error place a).Alike (.error place b) := by
  refine ⟨?_, rfl, rfl⟩
  simp [Findings.error, Diagnostic.error, Diagnostic.unworded, Message.unworded, h]

theorem invalidConstant (scope : Scope) (place : Span) (a b : String) :
    (Findings.invalidConstant scope place a).Alike (.invalidConstant scope place b) :=
  error place rfl

end Findings.Alike

namespace Typing.Alike

theorem refl (t : Typing) : t.Alike t :=
  ⟨rfl, .refl _⟩

theorem record {a b : Typing} (h : a.Alike b) (info : Info) :
    (a.record info).Alike (b.record info) := by
  refine ⟨h.type, h.findings.append ?_⟩
  rw [h.type]
  exact .refl _

theorem reject {a b : Typing} (h : a.Alike b) (place : Span) {p q : Problem}
    (hproblem : p.unworded = q.unworded) (type : Ty) :
    (a.reject place p type).Alike (b.reject place q type) :=
  ⟨rfl, h.findings.append (.error place hproblem)⟩

end Typing.Alike

theorem Name.Alike.check {a b : Name} (h : a.Alike b) (scope : Scope) :
    (Name.check scope a).Alike (Name.check scope b) := by
  have hspan : a.span = b.span := congrArg Info.span h.info
  rw [Name.check, Name.check, scope.lookup?_congr h.value]
  cases scope.lookup? b.value with
  | none =>
    rw [hspan]
    exact ⟨rfl, .error b.span rfl⟩
  | some type => exact .refl _

namespace Const

variable {f : String → String}

theorem applySign_alike (scope : Scope) (place : Span) (sign : Sign) (operand : Const)
    {a b : Typing} (h : a.Alike b) :
    (applySign scope place sign (operand.respell f) a).Alike
      (applySign scope place sign operand b) := by
  cases operand with
  | integer info lexeme =>
    simp only [respell, applySign]
    split
    . exact h
    . exact h.reject place rfl _
  | _ =>
    simp only [respell, applySign, h.type]
    split
    . exact h
    . apply h.reject
      rfl

theorem applySignToName_alike (place : Span) (sign : Sign) (name name' : Name) {a b : Typing}
    (h : a.Alike b) :
    (applySignToName place sign name a).Alike (applySignToName place sign name' b) := by
  simp only [applySignToName, h.type]
  split
  . exact h
  . apply h.reject
    rfl

theorem check_respell (hf : KeepsNames f) (scope : Scope) (c : Const) :
    ((c.respell f).check scope).Alike (c.check scope) := by
  induction c with
  | signed info sign operand ih =>
    exact (applySign_alike scope info.span sign.value operand ih).record info
  | named info name => exact ((Name.respell_alike hf name).check scope).record info
  | signedNamed info sign name =>
    have hname := (Name.respell_alike hf name).check scope
    exact (applySignToName_alike info.span sign.value _ name hname).record info
  | _ => exact .refl _

end Const

namespace Argument.Alike

variable {a b : Argument} (h : a.Alike b)

include h

theorem type : a.type = b.type :=
  h.typing.type

theorem isSound : a.isSound = b.isSound := by
  rw [Argument.isSound, h.type, Argument.isSound]

theorem findings (scope : Scope) : (a.findings scope).Alike (b.findings scope) := by
  unfold Argument.findings
  rw [h.type, h.mode, h.span]
  refine (h.typing.findings.append (.refl _)).append ?_
  split
  . exact .invalidConstant scope b.expr.span a.expr.text b.expr.text
  . exact .refl _

theorem mismatch? (formal : Ty) : a.mismatch? formal = b.mismatch? formal := by
  rw [Argument.mismatch?, h.mode, h.type, Argument.mismatch?]

end Argument.Alike

namespace Call

theorem argumentFindings_alike (scope : Scope) {as bs : List Argument}
    (h : List.Forall₂ Argument.Alike as bs) :
    (argumentFindings scope as).Alike (argumentFindings scope bs) := by
  induction h with
  | nil => exact .refl _
  | cons ha _ ih => exact (ha.findings scope).append ih

theorem map_alike {β : Type} {g : Argument → β} (hg : ∀ a b, a.Alike b → g a = g b)
    {as bs : List Argument} (h : List.Forall₂ Argument.Alike as bs) : as.map g = bs.map g := by
  induction h with
  | nil => rfl
  | cons ha _ ih => rw [List.map_cons, hg _ _ ha, ih, List.map_cons]

theorem takes_alike {as bs : List Argument} (h : List.Forall₂ Argument.Alike as bs) :
    takes as = takes bs := by
  funext routine
  unfold takes
  rw [h.length_eq]
  congr 1
  generalize routine.params = formals
  induction h generalizing formals with
  | nil => rfl
  | cons ha _ ih =>
    cases formals with
    | nil => rfl
    | cons formal formals =>
      rw [List.zip_cons_cons, List.zip_cons_cons, List.all_cons, List.all_cons, ih]
      simp only [ha.mismatch?]

namespace Alike

variable {c d : Call} (h : c.Alike d)

include h

theorem mismatchProblem (position : Nat) (formal : Ty) {a b : Argument} (hargs : a.Alike b)
    (mismatch : Mismatch) :
    (c.mismatchProblem position formal a mismatch).unworded =
      (d.mismatchProblem position formal b mismatch).unworded := by
  cases mismatch with
  | notVariable => simp only [Call.mismatchProblem, Problem.unworded, h.kind]
  | type => simp only [Call.mismatchProblem, Problem.unworded, h.kind, hargs.type]

theorem passArgument (scope : Scope) (position : Nat) (formal : Ty) {a b : Argument}
    (hargs : a.Alike b) :
    (c.passArgument scope position formal a).Alike (d.passArgument scope position formal b) := by
  refine (hargs.findings scope).append ?_
  rw [hargs.isSound, hargs.mismatch? formal, hargs.span]
  split
  . split
    . exact .refl _
    next mismatch _ => exact .error _ (h.mismatchProblem position formal hargs mismatch)
  . exact .refl _

theorem passArguments (scope : Scope) (position : Nat) (formals : List Ty) {as bs : List Argument}
    (hargs : List.Forall₂ Argument.Alike as bs) :
    (c.passArguments scope position formals as).Alike
      (d.passArguments scope position formals bs) := by
  induction formals generalizing position as bs with
  | nil => exact argumentFindings_alike scope hargs
  | cons formal formals ih =>
    cases hargs with
    | nil => exact .refl _
    | cons ha hargs => exact (h.passArgument scope position formal ha).append (ih _ hargs)

theorem resolveSingle (scope : Scope) (type : Ty) :
    (c.resolveSingle scope type).Alike (d.resolveSingle scope type) := by
  unfold Call.resolveSingle
  rw [h.args.length_eq, h.place, h.kind]
  split
  . exact ⟨rfl, .error d.place rfl⟩
  . exact ⟨rfl, h.passArguments scope 1 type.params h.args⟩

theorem resolveOverloaded (scope : Scope) (alternatives : List Ty) :
    (c.resolveOverloaded scope alternatives).Alike (d.resolveOverloaded scope alternatives) := by
  have hfound := argumentFindings_alike scope h.args
  have hsound : c.args.all (·.isSound) = d.args.all (·.isSound) := by
    have hmap := map_alike (fun _ _ ha => ha.isSound) h.args
    simpa [List.all_map] using congrArg (List.all · id) hmap
  have htypes : c.args.map (fun a => a.type.text) = d.args.map fun a => a.type.text :=
    map_alike (fun _ _ ha => congrArg Ty.text ha.type) h.args
  simp only [Call.resolveOverloaded, hsound, takes_alike h.args, htypes, h.place, h.kind]
  split
  . cases alternatives.find? (takes d.args) with
    | some routine => exact ⟨rfl, hfound⟩
    | none => exact ⟨rfl, hfound.append (.error d.place rfl)⟩
  . exact ⟨rfl, hfound⟩

theorem resolve (scope : Scope) (type : Ty) :
    (c.resolve scope type).Alike (d.resolve scope type) := by
  unfold Call.resolve
  split
  . exact h.resolveOverloaded scope _
  . exact h.resolveSingle scope type

theorem check (scope : Scope) : (c.check scope).Alike (d.check scope) := by
  have hcallee := h.callee.check scope
  have hresolve := h.resolve scope (Name.check scope d.callee).type
  simp only [Call.check, hcallee.type, h.kind, h.place]
  split
  . exact ⟨rfl, hcallee.findings⟩
  . split
    . exact ⟨hresolve.routine, hcallee.findings.append hresolve.findings⟩
    . exact ⟨rfl, hcallee.findings.append (.error d.place rfl)⟩

end Alike

end Call

end PascalCheck
