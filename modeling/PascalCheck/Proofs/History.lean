import PascalCheck.Proofs.Growth
import PascalCheck.Proofs.Relabel.Run

/-!
What a check says does not depend on what was checked before. Two contexts whose scopes have the
same form get the same diagnostics, scopes of the same form and the same new records, whatever tags
their types have and whatever was recorded and reported in them earlier.
-/

namespace PascalCheck

def Scope.form (s : Scope) : Scope :=
  s.relabel fun _ => 0

def Record.form (r : Record) : Record :=
  r.relabel fun _ => 0

namespace Ty

theorem Below.mono {n m : Nat} {t : Ty} (h : t.Below n) (hle : n ≤ m) : t.Below m := by
  intro k hk
  exact Nat.lt_of_lt_of_le (h k hk) hle

theorem below_closed (n : Nat) : Closed (Below n) where
  builtIn t ht := by
    cases t with
    | primitive p => simp [Below, tags]
    | sentinel s => simp [Below, tags]
    | _ => simp [isBuiltIn] at ht
  result t r ht hr := by
    cases t with
    | function tag params result =>
      cases hr
      simp only [Below, tags, List.forall_mem_cons, List.forall_mem_append] at ht
      exact ht.2.2
    | _ => cases hr
  alternative t ts ht hts r hr := by
    cases t with
    | overload tag alternatives =>
      cases hts
      simp only [Below, tags, allTags_eq_flatMap, List.forall_mem_cons,
        List.forall_mem_flatMap] at ht
      exact ht.2 r hr
    | _ => cases hts

theorem below_made {n : Nat} {ks : List Nat} (h : ∀ k ∈ ks, k < n) : ∀ k ∈ n :: ks, k < n + 1 := by
  rw [List.forall_mem_cons]
  exact ⟨Nat.lt_succ_self n, fun k hk => Nat.lt_succ_of_lt (h k hk)⟩

theorem below_allTags {n : Nat} {ts : List Ty} (h : ∀ t ∈ ts, t.Below n) :
    ∀ k ∈ allTags ts, k < n := by
  rw [allTags_eq_flatMap, List.forall_mem_flatMap]
  exact h

theorem below_invariant : Invariant Below where
  closed := below_closed
  mono hle h := h.mono hle
  file h := below_made h
  parameter _ _ h := below_made h
  procedure h := below_made (below_allTags h)
  function h hresult := below_made (List.forall_mem_append.mpr ⟨below_allTags h, hresult⟩)
  overload _ h := below_made (below_allTags h)

end Ty

theorem since_shifts (start : Nat) : Ty.Shifts (since start) start :=
  fun _ h => since_add h 1

namespace Scope

theorem relabel_congr {f g : Nat → Nat} {s : Scope}
    (h : s.Within fun t => ∀ k ∈ t.tags, f k = g k) : s.relabel f = s.relabel g := by
  have hframe (frame : Frame) (hframe : frame ∈ s.inner :: s.outer) :
      frame.relabel f = frame.relabel g := by
    refine Frame.ext ?_ rfl
    apply List.map_congr_left
    intro e he
    unfold Entry.relabel
    rw [Ty.relabel_congr (h e (List.mem_flatMap.mpr ⟨frame, hframe, he⟩))]
  unfold relabel
  rw [hframe s.inner (List.mem_cons_self ..)]
  congr 1
  exact List.map_congr_left fun frame h => hframe frame (List.mem_cons_of_mem _ h)

theorem relabel_since {s : Scope} {n : Nat} (h : s.Within (Ty.Below n)) :
    s.relabel (since n) = s.form := by
  apply relabel_congr
  intro e he k hk
  exact since_of_lt (h e he k hk)

theorem form_relabel (f : Nat → Nat) (s : Scope) : (s.relabel f).form = s.form := by
  have hframe (frame : Frame) :
      (frame.relabel f).relabel (fun _ => 0) = frame.relabel fun _ => 0 := by
    refine Frame.ext ?_ rfl
    simp [Frame.relabel, Entry.relabel, Ty.relabel_relabel, Function.comp_def]
  simp [form, relabel, hframe]

end Scope

theorem Record.map_form_relabel (f : Nat → Nat) (records : Records) :
    (records.map (Record.relabel f)).map Record.form = records.map Record.form := by
  simp [Record.form, Record.relabel, Ty.relabel_relabel, Function.comp_def]

namespace Context

def Tagged (ctx : Context) : Prop :=
  ctx.Holds Ty.Below

def anew (scope : Scope) : Context :=
  ⟨scope.form, 1, [], [], []⟩

theorem follows_anew {ctx : Context} (h : ctx.Tagged) : Follows ctx ctx (anew ctx.scope) := by
  refine ⟨(Scope.relabel_since h.scope).symm, Nat.le_refl _, ?_, by simp [anew], [], rfl, rfl⟩
  simp [anew, since]

theorem Follows.draw {before ctx model : Context} (h : Follows before ctx model) {n : Nat}
    (hn : before.nextTag ≤ n) :
    Follows before { ctx with nextTag := n } { model with nextTag := since before.nextTag n } :=
  ⟨h.scope, hn, rfl, h.diagnostics, h.records⟩

structure AddsAlike (ctx₁ after₁ ctx₂ after₂ : Context) : Prop where
  diagnostics : ∃ ds, after₁.diagnostics = ctx₁.diagnostics ++ ds ∧
    after₂.diagnostics = ctx₂.diagnostics ++ ds
  scope : after₁.scope.form = after₂.scope.form
  records : ∃ new₁ new₂, after₁.records = new₁ ++ ctx₁.records ∧
    after₂.records = new₂ ++ ctx₂.records ∧ new₁.map Record.form = new₂.map Record.form

/-- Two checks failed in the same way, or both came to an end and added the same. -/
inductive SameOutcome (ctx₁ ctx₂ : Context) :
    Except Fault Context → Except Fault Context → Prop where
  | failed (fault : Fault) : SameOutcome ctx₁ ctx₂ (.error fault) (.error fault)
  | done {after₁ after₂ : Context} : AddsAlike ctx₁ after₁ ctx₂ after₂ →
    SameOutcome ctx₁ ctx₂ (.ok after₁) (.ok after₂)

theorem Follows.addsAlike {ctx₁ after₁ ctx₂ after₂ model : Context}
    (h₁ : Follows ctx₁ after₁ model) (h₂ : Follows ctx₂ after₂ model) :
    AddsAlike ctx₁ after₁ ctx₂ after₂ := by
  refine ⟨⟨model.diagnostics, h₁.diagnostics, h₂.diagnostics⟩, ?_, ?_⟩
  . rw [← Scope.form_relabel (since ctx₁.nextTag) after₁.scope, ← h₁.scope, h₂.scope,
      Scope.form_relabel]
  . obtain ⟨new₁, hrecords₁, hmodel₁⟩ := h₁.records
    obtain ⟨new₂, hrecords₂, hmodel₂⟩ := h₂.records
    refine ⟨new₁, new₂, hrecords₁, hrecords₂, ?_⟩
    have hforms := congrArg (List.map Record.form) (hmodel₁.symm.trans hmodel₂)
    rw [Record.map_form_relabel, Record.map_form_relabel] at hforms
    exact hforms

end Context

namespace Program

open Context

variable [Naming]

theorem checkWith_follows (p : Program) (table : Predefined) {ctx : Context} (h : ctx.Tagged) :
    (∃ fault, p.checkWith table ctx = .error fault ∧
      p.checkWith table (anew ctx.scope) = .error fault) ∨
    ∃ after model, p.checkWith table ctx = .ok after ∧
      p.checkWith table (anew ctx.scope) = .ok model ∧ Follows ctx after model := by
  -- The types of the table are made first, and they too are made alike in both runs.
  have hstart : (anew ctx.scope).nextTag = since ctx.nextTag ctx.nextTag := (follows_anew h).nextTag
  rw [checkWith_eq, checkWith_eq, hstart,
    table.fresh_shift (since_shifts ctx.nextTag) (Nat.le_refl _)]
  cases hmade : table.fresh ctx.nextTag with
  | error fault => exact .inl ⟨fault, rfl, rfl⟩
  | ok made =>
    have hle := (Predefined.fresh_makes .trivial hmade).1
    have hfollows := p.check_follows h.records ((follows_anew h).draw hle) made.1
    exact .inr ⟨_, _, rfl, rfl, hfollows⟩

theorem checkWith_sameOutcome (p : Program) {ctx₁ ctx₂ : Context} {table₁ table₂ : Predefined}
    (h₁ : ctx₁.Tagged) (h₂ : ctx₂.Tagged) (hscope : ctx₁.scope.form = ctx₂.scope.form)
    (htable : Predefined.SameForm table₁ table₂) :
    SameOutcome ctx₁ ctx₂ (p.checkWith table₁ ctx₁) (p.checkWith table₂ ctx₂) := by
  -- Both checks follow one and the same check without a history.
  have hmodel : p.checkWith table₁ (anew ctx₁.scope) = p.checkWith table₂ (anew ctx₂.scope) := by
    rw [checkWith_eq, checkWith_eq, Predefined.fresh_eq_of_sameForm htable]
    unfold anew
    rw [hscope]
  rcases checkWith_follows p table₁ h₁ with
    ⟨fault₁, hfault₁, hanew₁⟩ | ⟨after₁, model₁, hafter₁, hanew₁, hfollows₁⟩
  . rcases checkWith_follows p table₂ h₂ with
      ⟨fault₂, hfault₂, hanew₂⟩ | ⟨after₂, model₂, hafter₂, hanew₂, hfollows₂⟩
    . rw [hmodel, hanew₂] at hanew₁
      cases hanew₁
      rw [hfault₁, hfault₂]
      exact .failed fault₁
    . rw [hmodel, hanew₂] at hanew₁
      cases hanew₁
  . rcases checkWith_follows p table₂ h₂ with
      ⟨fault₂, hfault₂, hanew₂⟩ | ⟨after₂, model₂, hafter₂, hanew₂, hfollows₂⟩
    . rw [hmodel, hanew₂] at hanew₁
      cases hanew₁
    . rw [hmodel, hanew₂] at hanew₁
      cases hanew₁
      rw [hafter₁, hafter₂]
      exact .done (hfollows₁.addsAlike hfollows₂)

theorem checkWith_tagged {p : Program} {table : Predefined} {ctx after : Context} (h : ctx.Tagged)
    (hcheck : p.checkWith table ctx = .ok after) : after.Tagged :=
  (checkWith_steps Ty.below_invariant h hcheck).holds Ty.below_invariant h

theorem recheck_diagnostics (p : Program) (table : Predefined) {ctx after : Context}
    (h : ctx.Tagged) (hcheck : p.checkWith table { ctx with scope := .empty } = .ok after) :
    ∃ again ds, p.checkWith table { after with scope := .empty } = .ok again ∧
      after.diagnostics = ctx.diagnostics ++ ds ∧
      again.diagnostics = after.diagnostics ++ ds := by
  have hempty (ctx : Context) (h : ctx.Tagged) : Tagged { ctx with scope := .empty } :=
    ⟨by simp [Scope.Within, Scope.entries, Scope.empty], h.records⟩
  have hafter : after.Tagged := checkWith_tagged (hempty ctx h) hcheck
  have houtcome := checkWith_sameOutcome p (hempty ctx h) (hempty after hafter) rfl
    (Predefined.SameForm.refl table)
  rw [hcheck] at houtcome
  cases hagain : p.checkWith table { after with scope := .empty } with
  | error fault =>
    rw [hagain] at houtcome
    cases houtcome
  | ok again =>
    rw [hagain] at houtcome
    cases houtcome with
    | done hadds =>
      obtain ⟨ds, hds, hds'⟩ := hadds.diagnostics
      exact ⟨again, ds, rfl, hds, hds'⟩

theorem checkWith_independent_of_history (p : Program) {ctx₁ ctx₂ : Context}
    {table₁ table₂ : Predefined} (h₁ : ctx₁.Tagged) (h₂ : ctx₂.Tagged)
    (hscope : ctx₁.scope.form = ctx₂.scope.form) (htable : Predefined.SameForm table₁ table₂) :
    SameOutcome ctx₁ ctx₂ (p.checkWith table₁ ctx₁) (p.checkWith table₂ ctx₂) ∧
      ∀ after, p.checkWith table₁ { ctx₁ with scope := .empty } = .ok after →
        ∃ again ds, p.checkWith table₁ { after with scope := .empty } = .ok again ∧
          after.diagnostics = ctx₁.diagnostics ++ ds ∧
          again.diagnostics = after.diagnostics ++ ds := by
  constructor
  . exact checkWith_sameOutcome p h₁ h₂ hscope htable
  . intro after hcheck
    exact recheck_diagnostics p table₁ h₁ hcheck

end Program

namespace Sample

def node (id : Nat) : Info :=
  ⟨id, .point 1 id⟩

def answer : Program :=
  -- `program p; function f : integer; f := twice; begin end.`
  ⟨node 0, ⟨node 1, ⟨node 2, "p"⟩, []⟩,
    .mk (node 3) none none
      (.present (node 4) [.function (node 5) ⟨node 6, "f"⟩ none ⟨node 7, ⟨node 8, .integer⟩⟩
        (.mk (node 9) none none .absent ⟨node 10,
          .assign (node 11) ⟨node 12, ⟨node 13, "f"⟩⟩ (.var (node 14) ⟨node 15, "Twice"⟩)⟩)])
      ⟨node 16, .empty (node 17)⟩⟩

def table (tag : Nat) : Predefined :=
  [⟨"twice", .function tag [] .integer, none⟩]

theorem table_sameForm (tag tag' : Nat) : (table tag).SameForm (table tag') :=
  .cons ⟨rfl, rfl, rfl⟩ .nil

def unused : Context :=
  ⟨⟨.ofList [⟨"log", .file 0 .char, none⟩], []⟩, 1, [], [], []⟩

def used : Context :=
  ⟨⟨.ofList [⟨"log", .file 2 .char, none⟩], []⟩, 9, [.error (.point 1 1) (.notFound "x")],
    [⟨11, .function 8 [.parameter 7 .formal .var .real] .integer⟩], []⟩

theorem unused_tagged : unused.Tagged := by
  constructor
  . rw [Scope.Within, show unused.scope.entries = [⟨"log", .file 0 .char, none⟩] from rfl]
    simp [unused, Ty.Below, Ty.tags]
  . simp [unused]

theorem used_tagged : used.Tagged := by
  constructor
  . rw [Scope.Within, show used.scope.entries = [⟨"log", .file 2 .char, none⟩] from rfl]
    simp [used, Ty.Below, Ty.tags]
  . simp [used, Ty.Below, Ty.tags, Ty.allTags]

end Sample

theorem Sample.answer_independent_of_used :
    Context.SameOutcome Sample.unused Sample.used
        (Sample.answer.checkWith (Sample.table 0) Sample.unused)
        (Sample.answer.checkWith (Sample.table 5) Sample.used) ∧
      ∃ after again ds,
        Sample.answer.checkWith (Sample.table 0) { Sample.unused with scope := .empty } =
          .ok after ∧
        Sample.answer.checkWith (Sample.table 0) { after with scope := .empty } = .ok again ∧
        after.diagnostics = Sample.unused.diagnostics ++ ds ∧
        again.diagnostics = after.diagnostics ++ ds := by
  have h := Sample.answer.checkWith_independent_of_history Sample.unused_tagged Sample.used_tagged
    rfl (Sample.table_sameForm 0 5)
  obtain ⟨again, ds, hagain⟩ := h.2 _ rfl
  exact ⟨h.1, _, again, ds, rfl, hagain⟩

end PascalCheck
