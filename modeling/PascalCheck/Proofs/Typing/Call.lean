import PascalCheck.Proofs.Typing.Const

/-!
A call is checked in silence exactly if its arguments are accepted and the rules resolve it to a
routine of the right kind, which is then the one that it refers to.
-/

namespace PascalCheck

def Expr.Accepted (scope : Scope) (e : Expr) (t : Ty) : Prop :=
  (e.check scope).findings.Silent ∧ (e.check scope).type = t ∧ t.isSentinel = false

/-- Nothing with an error passes in silence. -/
def Expr.Settled (scope : Scope) (e : Expr) : Prop :=
  (e.check scope).findings.Silent → (e.check scope).type.isError = false

theorem Expr.forall₂_accepted_iff {scope : Scope} {args : List Expr} {types : List Ty} :
    List.Forall₂ (Expr.Accepted scope) args types ↔
      types = args.map (fun e => (e.check scope).type) ∧
        ∀ e ∈ args, e.Accepted scope (e.check scope).type := by
  constructor
  . intro h
    induction h with
    | nil => simp
    | cons h _ ih =>
      obtain ⟨rfl, hrest⟩ := ih
      refine ⟨?_, List.forall_mem_cons.mpr ⟨?_, hrest⟩⟩
      . rw [List.map_cons, h.2.1]
      . rw [h.2.1]
        exact h
  . rintro ⟨rfl, h⟩
    rw [List.forall₂_map_right_iff, List.forall₂_same]
    exact h

def RoutineKind.includes : RoutineKind → Ty → Bool
  | .procedure => Ty.isProcedure
  | .function => Ty.isFunction

namespace Ty

theorem alternatives?_of_includes {kind : RoutineKind} {t : Ty} (h : kind.includes t = true) :
    t.alternatives? = none := by
  cases kind <;> cases t <;> first | rfl | cases h

theorem routineKind?_eq_some_iff {kind : RoutineKind} {t : Ty} (h : t.alternatives? = none) :
    t.routineKind? = some kind ↔ kind.includes t = true := by
  cases kind <;> cases t <;>
    simp_all [alternatives?, routineKind?, RoutineKind.includes, isProcedure, isFunction]

theorem includes_unique {kind kind' : RoutineKind} {t : Ty} (h : kind.includes t = true)
    (h' : kind'.includes t = true) : kind = kind' := by
  have hnone := alternatives?_of_includes h
  rw [← routineKind?_eq_some_iff hnone] at h h'
  rw [h] at h'
  injection h'

theorem includes_of_isUniform {tag : Nat} {alternatives : List Ty}
    (h : (Ty.overload tag alternatives).isUniform = true) {kind : RoutineKind} {routine : Ty}
    (hmem : routine ∈ alternatives) (hkind : kind.includes routine = true) :
    ∀ t ∈ alternatives, kind.includes t = true := by
  have hone : ∃ kind' : RoutineKind, ∀ t ∈ alternatives, kind'.includes t = true := by
    rw [isUniform, Bool.or_eq_true, List.all_eq_true, List.all_eq_true] at h
    cases h with
    | inl h => exact ⟨.function, h⟩
    | inr h => exact ⟨.procedure, h⟩
  obtain ⟨kind', hall⟩ := hone
  rw [includes_unique hkind (hall routine hmem)]
  exact hall

theorem routineKind?_overload_iff {kind : RoutineKind} {tag : Nat} {alternatives : List Ty}
    (h : (Ty.overload tag alternatives).isUniform = true) :
    (Ty.overload tag alternatives).routineKind? = some kind ↔
      alternatives ≠ [] ∧ ∀ t ∈ alternatives, kind.includes t = true := by
  cases alternatives with
  | nil => simp [routineKind?]
  | cons t ts =>
    -- An overload set goes by its first alternative, and the others are like it.
    have hfirst : (Ty.overload tag (t :: ts)).routineKind? = some kind ↔
        kind.includes t = true := by
      cases kind <;> cases t <;>
        simp [routineKind?, RoutineKind.includes, isProcedure, isFunction]
    rw [hfirst]
    constructor
    . intro ht
      exact ⟨by simp, includes_of_isUniform h (by simp) ht⟩
    . intro ht
      exact ht.2 t (by simp)

end Ty

namespace Argument

def actual (a : Argument) : Actual :=
  (a.expr, a.type)

theorem mode_eq_var_iff (a : Argument) : a.mode = .var ↔ a.expr.isVar = true := by
  unfold mode Expr.isVar
  cases a.expr <;> simp

theorem mismatch?_eq_none_iff (a : Argument) (formal : Ty) :
    a.mismatch? formal = none ↔ formal.Accepts a.actual := by
  unfold mismatch? Ty.Accepts
  cases formal.parameter? with
  | none => simp
  | some parameter =>
    obtain ⟨mode, type⟩ := parameter
    simp only [Option.some.injEq, Prod.mk.injEq, and_assoc, exists_and_left, exists_eq_left',
      actual, ← mode_eq_var_iff]
    by_cases hmode : mode = .var ∧ a.mode ≠ .var
    . rw [if_pos hmode]
      simp only [reduceCtorEq, false_iff, not_and]
      intro h
      exact absurd (h hmode.1) hmode.2
    . rw [if_neg hmode]
      rw [not_and_not_right] at hmode
      rw [and_iff_right hmode]
      simp

def of (scope : Scope) (e : Expr) : Argument :=
  ⟨e, e.check scope⟩

theorem isSound_iff (a : Argument) : a.isSound = true ↔ a.type.isSentinel = false := by
  rw [Ty.isSentinel_eq_false_iff]
  simp [isSound, and_comm]

theorem findings_of_silent_iff {scope : Scope} {e : Expr} (h : e.Settled scope) :
    ((of scope e).findings scope).Silent ↔ e.Accepted scope (e.check scope).type := by
  unfold findings Expr.Accepted
  rw [Ty.isSentinel_eq_false_iff, Findings.silent_append, Findings.silent_append]
  constructor
  . rintro ⟨⟨hsilent, -⟩, hvalid⟩
    refine ⟨hsilent, rfl, h hsilent, ?_⟩
    by_contra hinvalid
    rw [Bool.not_eq_false] at hinvalid
    simp [type, of, hinvalid] at hvalid
  . rintro ⟨hsilent, -, -, hvalid⟩
    simp [type, of, hsilent, hvalid]

end Argument

namespace Call

theorem argumentFindings_silent_iff (scope : Scope) (args : List Argument) :
    (argumentFindings scope args).Silent ↔ ∀ a ∈ args, (a.findings scope).Silent := by
  induction args with
  | nil => simp [argumentFindings]
  | cons a args ih => simp [argumentFindings, ih]

theorem passArgument_silent_iff (scope : Scope) (c : Call) (position : Nat) (formal : Ty)
    (a : Argument) :
    (c.passArgument scope position formal a).Silent ↔
      (a.findings scope).Silent ∧ (a.isSound = true → formal.Accepts a.actual) := by
  unfold passArgument
  rw [Findings.silent_append, ← Argument.mismatch?_eq_none_iff]
  apply and_congr_right
  intro _
  split
  . next hsound =>
    split
    . next hmatch => simp [hmatch]
    . next mismatch hmatch => simp [hsound, hmatch]
  . next hsound => simp [hsound]

theorem passArguments_silent_iff {scope : Scope} (c : Call) (position : Nat) {formals : List Ty}
    {args : List Argument} (hlength : formals.length ≤ args.length)
    (hargs : ∀ a ∈ args, (a.findings scope).Silent → a.isSound = true) :
    (c.passArguments scope position formals args).Silent ↔
      (∀ a ∈ args, (a.findings scope).Silent) ∧
        List.Forall₂ Ty.Accepts formals ((args.map Argument.actual).take formals.length) := by
  induction formals generalizing position args with
  | nil => simp [passArguments, argumentFindings_silent_iff]
  | cons formal formals ih =>
    cases args with
    | nil => simp at hlength
    | cons a args =>
      rw [List.forall_mem_cons] at hargs
      specialize ih (position + 1) (Nat.le_of_succ_le_succ hlength) hargs.2
      rw [passArguments, Findings.silent_append, passArgument_silent_iff, ih]
      rw [List.map_cons, List.length_cons, List.take_succ_cons, List.forall₂_cons,
        List.forall_mem_cons]
      constructor
      . rintro ⟨⟨ha, haccepts⟩, hall, hrest⟩
        exact ⟨⟨ha, hall⟩, haccepts (hargs.1 ha), hrest⟩
      . rintro ⟨⟨ha, hall⟩, haccepts, hrest⟩
        exact ⟨⟨ha, fun _ => haccepts⟩, hall, hrest⟩

theorem takes_iff (args : List Argument) (routine : Ty) :
    takes args routine = true ↔
      List.Forall₂ Ty.Accepts routine.params (args.map Argument.actual) := by
  unfold takes
  rw [List.forall₂_map_right_iff, List.forall₂_iff_zip]
  simp [Argument.mismatch?_eq_none_iff]

theorem map_eq_of_forall₂ {β : Type} {R : Argument → Argument → Prop} {f : Argument → β}
    (hf : ∀ a b, R a b → f a = f b) {as bs : List Argument} (h : List.Forall₂ R as bs) :
    as.map f = bs.map f := by
  rw [← List.forall₂_eq_eq_eq, List.forall₂_map_left_iff, List.forall₂_map_right_iff]
  exact h.imp hf

theorem all_eq_of_forall₂ {R : Argument → Argument → Prop} {f : Argument → Bool}
    (hf : ∀ a b, R a b → f a = f b) {as bs : List Argument} (h : List.Forall₂ R as bs) :
    as.all f = bs.all f := by
  simpa [List.all_map] using congrArg (List.all · id) (map_eq_of_forall₂ hf h)

theorem takes_congr {as bs : List Argument}
    (h : as.map Argument.mismatch? = bs.map Argument.mismatch?) : takes as = takes bs := by
  have htakes (args : List Argument) (routine : Ty) : takes args routine =
      (routine.params.length == (args.map Argument.mismatch?).length &&
        (routine.params.zip (args.map Argument.mismatch?)).all fun pair =>
          (pair.2 pair.1).isNone) := by
    unfold takes
    rw [List.length_map, List.zip_map_right, List.all_map]
    rfl
  funext routine
  rw [htakes, h, htakes]

theorem findings_checkAll_silent_iff {scope : Scope} {args : List Expr}
    (hargs : ∀ e ∈ args, e.Settled scope) :
    (∀ a ∈ Expr.checkAll scope args, (a.findings scope).Silent) ↔
      ∀ e ∈ args, e.Accepted scope (e.check scope).type := by
  rw [Expr.checkAll_eq_map, List.forall_mem_map]
  apply forall₂_congr
  intro e he
  exact Argument.findings_of_silent_iff (hargs e he)

theorem map_actual_checkAll (scope : Scope) (args : List Expr) :
    (Expr.checkAll scope args).map Argument.actual =
      args.zip (args.map fun e => (e.check scope).type) := by
  induction args with
  | nil => rfl
  | cons e args ih =>
    rw [Expr.checkAll, List.map_cons, ih]
    rfl

theorem isSound_of_accepted {scope : Scope} {args : List Expr}
    (hargs : ∀ e ∈ args, e.Accepted scope (e.check scope).type) :
    ∀ a ∈ Expr.checkAll scope args, a.isSound = true := by
  rw [Expr.checkAll_eq_map, List.forall_mem_map]
  intro e he
  rw [Argument.isSound_iff]
  exact (hargs e he).2.2

theorem resolve_of_resolves {scope : Scope} {c : Call} {type routine : Ty}
    (hsound : ∀ a ∈ c.args, a.isSound = true) (hsilent : ∀ a ∈ c.args, (a.findings scope).Silent)
    (h : Ty.Resolves (c.args.map Argument.actual) type routine)
    (hroutine : routine.alternatives? = none) :
    (c.resolve scope type).routine? = some routine ∧ (c.resolve scope type).findings.Silent := by
  cases h with
  | single h =>
    have hlength : type.params.length ≤ c.args.length := by
      have := h.length_eq
      rw [List.length_take, List.length_map] at this
      omega
    rw [resolve, hroutine]
    unfold resolveSingle
    rw [if_neg (by omega)]
    refine ⟨rfl, ?_⟩
    rw [passArguments_silent_iff c 1 hlength (fun a ha _ => hsound a ha)]
    exact ⟨hsilent, h⟩
  | @alternative tag before _ after hbefore h =>
    have hfind : (before ++ routine :: after).find? (takes c.args) = some routine := by
      rw [List.find?_eq_some_iff_append]
      refine ⟨(takes_iff c.args routine).mpr h, before, after, rfl, ?_⟩
      intro r hr
      rw [Bool.not_eq_true', ← Bool.not_eq_true, takes_iff]
      exact hbefore r hr
    have hall : c.args.all Argument.isSound = true := List.all_eq_true.mpr hsound
    rw [resolve, Ty.alternatives?]
    unfold resolveOverloaded
    simp only [hall, if_true, hfind, true_and]
    exact (argumentFindings_silent_iff scope c.args).mpr hsilent

theorem resolves_of_resolveSingle {scope : Scope} {c : Call} {type : Ty}
    (hargs : ∀ a ∈ c.args, (a.findings scope).Silent → a.isSound = true)
    (h : (c.resolveSingle scope type).findings.Silent) :
    (c.resolveSingle scope type).routine? = some type ∧
      (∀ a ∈ c.args, (a.findings scope).Silent) ∧
      Ty.Resolves (c.args.map Argument.actual) type type := by
  unfold resolveSingle at h ⊢
  split at h
  . simp at h
  . next hlength =>
    rw [passArguments_silent_iff c 1 (by omega) hargs] at h
    rw [if_neg hlength]
    exact ⟨rfl, h.1, .single h.2⟩

theorem resolves_of_resolveOverloaded {scope : Scope} {c : Call} {alternatives : List Ty}
    (tag : Nat) (hargs : ∀ a ∈ c.args, (a.findings scope).Silent → a.isSound = true)
    (h : (c.resolveOverloaded scope alternatives).findings.Silent) :
    ∃ routine ∈ alternatives, (c.resolveOverloaded scope alternatives).routine? = some routine ∧
      (∀ a ∈ c.args, (a.findings scope).Silent) ∧
      Ty.Resolves (c.args.map Argument.actual) (.overload tag alternatives) routine := by
  unfold resolveOverloaded at h ⊢
  dsimp only at h ⊢
  split at h
  . next hall =>
    rw [if_pos hall]
    split at h
    . next routine hfind =>
      refine ⟨routine, List.mem_of_find?_eq_some hfind, rfl,
        (argumentFindings_silent_iff scope c.args).mp h, ?_⟩
      obtain ⟨hroutine, before, after, rfl, hbefore⟩ := List.find?_eq_some_iff_append.mp hfind
      apply Ty.Resolves.alternative
      . intro r hr
        rw [← takes_iff]
        simpa using hbefore r hr
      . exact (takes_iff c.args routine).mp hroutine
    . simp at h
  . next hall =>
    rw [argumentFindings_silent_iff] at h
    exact absurd (List.all_eq_true.mpr fun a ha => hargs a ha (h a ha)) hall

end Call

def Scope.Calls (scope : Scope) (kind : RoutineKind) (callee : Name) (args : List Expr)
    (routine : Ty) : Prop :=
  ∃ type types, scope.lookup? callee.value = some type ∧
    List.Forall₂ (Expr.Accepted scope) args types ∧ Ty.Resolves (args.zip types) type routine ∧
    kind.includes routine = true

namespace Call

theorem routineKind?_of_resolves {kind : RoutineKind} {actuals : List Actual} {type routine : Ty}
    (huniform : type.isUniform = true) (h : Ty.Resolves actuals type routine)
    (hkind : kind.includes routine = true) : type.routineKind? = some kind := by
  cases h with
  | single _ => exact (Ty.routineKind?_eq_some_iff (Ty.alternatives?_of_includes hkind)).mpr hkind
  | @alternative tag before _ after _ _ =>
    rw [Ty.routineKind?_overload_iff huniform]
    exact ⟨by simp, Ty.includes_of_isUniform huniform (by simp) hkind⟩

theorem check_of_calls {scope : Scope} (hscope : scope.Sound) {kind : RoutineKind} {callee : Name}
    {args : List Expr} {routine : Ty} (place : Span) (h : scope.Calls kind callee args routine) :
    let resolution := Call.check scope ⟨kind, callee, Expr.checkAll scope args, place⟩
    resolution.routine? = some routine ∧ resolution.findings.Silent := by
  obtain ⟨type, types, hlookup, hargs, hresolves, hkind⟩ := h
  obtain ⟨rfl, haccepted⟩ := Expr.forall₂_accepted_iff.mp hargs
  have hclean := Ty.isSentinel_eq_false_of_isClean (hscope.clean_of_lookup? hlookup)
  have hcallee :=
    routineKind?_of_resolves (hscope.uniform_of_lookup? hlookup) hresolves hkind
  rw [← map_actual_checkAll] at hresolves
  have hsilent : ∀ a ∈ Expr.checkAll scope args, (a.findings scope).Silent := by
    rw [findings_checkAll_silent_iff]
    . exact haccepted
    . intro e he _
      exact Ty.isError_eq_false (haccepted e he).2.2
  simp only [check, Name.check_of_lookup? hlookup, Typing.type_silent, Ty.isError_eq_false hclean,
    hcallee, if_true, Bool.false_eq_true, if_false, Typing.findings_silent, Findings.none_append]
  exact resolve_of_resolves (isSound_of_accepted haccepted) hsilent hresolves
    (Ty.alternatives?_of_includes hkind)

theorem callee_silent {scope : Scope} {c : Call} (h : (c.check scope).findings.Silent) :
    (Name.check scope c.callee).findings.Silent := by
  simp only [check] at h
  split at h
  . exact h
  . split at h
    . rw [Findings.silent_append] at h
      exact h.1
    . simp at h

theorem isSound_of_settled {scope : Scope} {args : List Expr}
    (hargs : ∀ e ∈ args, e.Settled scope) :
    ∀ a ∈ Expr.checkAll scope args, (a.findings scope).Silent → a.isSound = true := by
  rw [Expr.checkAll_eq_map, List.forall_mem_map]
  intro e he hsilent
  rw [Argument.isSound_iff]
  exact ((Argument.findings_of_silent_iff (hargs e he)).mp hsilent).2.2

theorem calls_of_check {scope : Scope} (hscope : scope.Sound) {kind : RoutineKind} {callee : Name}
    {args : List Expr} {place : Span} (hargs : ∀ e ∈ args, e.Settled scope)
    (h : (Call.check scope ⟨kind, callee, Expr.checkAll scope args, place⟩).findings.Silent) :
    ∃ routine, scope.Calls kind callee args routine ∧
      (Call.check scope ⟨kind, callee, Expr.checkAll scope args, place⟩).routine? =
        some routine := by
  have hsettled := isSound_of_settled hargs
  have hlookup := Name.lookup?_of_silent (callee_silent h)
  have hclean := Ty.isSentinel_eq_false_of_isClean (hscope.clean_of_lookup? hlookup)
  have huniform := hscope.uniform_of_lookup? hlookup
  simp only [check, Ty.isError_eq_false hclean, Bool.false_eq_true, if_false] at h ⊢
  split at h
  . next hkind =>
    rw [if_pos hkind]
    rw [Findings.silent_append] at h
    obtain ⟨-, h⟩ := h
    -- From here on only the type of the callee matters, whether it is overloaded or not.
    generalize (Name.check scope callee).type = type at *
    unfold resolve at h ⊢
    have hcalls {routine : Ty} (hsilent : ∀ a ∈ Expr.checkAll scope args,
          (a.findings scope).Silent)
        (hresolves : Ty.Resolves ((Expr.checkAll scope args).map Argument.actual) type routine)
        (hroutine : kind.includes routine = true) : scope.Calls kind callee args routine := by
      rw [findings_checkAll_silent_iff hargs] at hsilent
      rw [map_actual_checkAll] at hresolves
      exact ⟨type, _, hlookup, Expr.forall₂_accepted_iff.mpr ⟨rfl, hsilent⟩, hresolves, hroutine⟩
    cases type with
    | overload tag alternatives =>
      obtain ⟨routine, hmem, hroutine, hsilent, hresolves⟩ :=
        resolves_of_resolveOverloaded tag hsettled h
      rw [Ty.routineKind?_overload_iff huniform] at hkind
      exact ⟨routine, hcalls hsilent hresolves (hkind.2 routine hmem), hroutine⟩
    | _ =>
      obtain ⟨hroutine, hsilent, hresolves⟩ := resolves_of_resolveSingle hsettled h
      rw [Ty.routineKind?_eq_some_iff rfl] at hkind
      exact ⟨_, hcalls hsilent hresolves hkind, hroutine⟩
  . simp at h

end Call

end PascalCheck
