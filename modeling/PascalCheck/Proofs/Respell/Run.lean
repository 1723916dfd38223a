import Mathlib.Logic.Function.Basic
import PascalCheck.Proofs.Arena.Reachable
import PascalCheck.Proofs.Growth
import PascalCheck.Proofs.Respell.Stmt

/-!
Programs with other spellings. Two checks run side by side, over one program in two spellings, and at
every moment their contexts are alike: all is the same but for the words that diagnostics take from
the source.
-/

namespace PascalCheck

section

variable [Naming]

variable {f : String → String}

namespace Context

structure Alike (a b : Context) : Prop where
  scope : a.scope = b.scope
  nextTag : a.nextTag = b.nextTag
  diagnostics : a.diagnostics.map Diagnostic.unworded = b.diagnostics.map Diagnostic.unworded
  records : a.records = b.records

namespace Alike

variable {a b : Context}

theorem refl (ctx : Context) : ctx.Alike ctx :=
  ⟨rfl, rfl, rfl, rfl⟩

theorem symm (h : a.Alike b) : b.Alike a :=
  ⟨h.scope.symm, h.nextTag.symm, h.diagnostics.symm, h.records.symm⟩

theorem trans {c : Context} (h : a.Alike b) (h' : b.Alike c) : a.Alike c :=
  ⟨h.scope.trans h'.scope, h.nextTag.trans h'.nextTag, h.diagnostics.trans h'.diagnostics,
    h.records.trans h'.records⟩

theorem add (h : a.Alike b) {found found' : Findings} (hfound : found.Alike found') :
    (a.add found).Alike (b.add found') := by
  refine ⟨h.scope, ?_, ?_, ?_⟩
  . simp only [Context.add, h.nextTag, hfound.actuals]
  . simp only [Context.add, List.map_append, h.diagnostics, hfound.diagnostics]
  . simp only [Context.add, h.records, hfound.records]

theorem record (h : a.Alike b) (id : Nat) {type type' : Ty} (htype : type = type') :
    (a.add (.record id type)).Alike (b.add (.record id type')) := by
  rw [htype]
  exact h.add (.refl _)

theorem note (h : a.Alike b) (entry entry' : LogEntry) : (a.note entry).Alike (b.note entry') :=
  ⟨h.scope, h.nextTag, h.diagnostics, h.records⟩

theorem make (h : a.Alike b) {type type' : Nat → Ty} (htype : ∀ n, type n = type' n) :
    (a.make type).1 = (b.make type').1 ∧ (a.make type).2.Alike (b.make type').2 := by
  refine ⟨?_, h.scope, ?_, h.diagnostics, h.records⟩
  . simp only [Context.make, h.nextTag, htype]
  . simp only [Context.make, h.nextTag]

theorem push (h : a.Alike b) : a.push.Alike b.push := by
  refine ⟨?_, h.nextTag, h.diagnostics, h.records⟩
  rw [Context.push, Context.push, h.scope]

theorem pop (h : a.Alike b) : a.pop.Alike b.pop := by
  refine ⟨?_, h.nextTag, h.diagnostics, h.records⟩
  rw [Context.pop, Context.pop, h.scope]

theorem define (h : a.Alike b) {name name' : Name} (hname : Name.Alike name name')
    {type type' : Ty} (htype : type = type') :
    (a.define name type).Alike (b.define name' type') := by
  have hspan : name.span = name'.span := congrArg Info.span hname.info
  unfold Context.define
  rw [h.scope, Scope.define?_congr hname.value, Scope.getInner?_congr hname.value, hspan, htype]
  cases b.scope.define? name'.value type' (some name'.span) with
  | some scope => exact ⟨rfl, h.nextTag, h.diagnostics, h.records⟩
  | none =>
    apply h.add
    refine ⟨?_, rfl, rfl⟩
    simp [redeclaration, Diagnostic.unworded, Message.unworded, Problem.unworded, hspan]

theorem defineAll (h : a.Alike b) (hf : KeepsNames f) (names : List Name) {type type' : Ty}
    (htype : type = type') :
    (a.defineAll (names.map (Name.respell f)) type).Alike (b.defineAll names type') := by
  unfold Context.defineAll
  rw [List.foldl_map]
  exact List.foldl_rel h fun name _ _ _ h => h.define (Name.respell_alike hf name) htype

end Alike

end Context

section Declarations

variable (hf : KeepsNames f) {a b : Context} (h : a.Alike b)

include h

theorem TypeName.check_alike (t : TypeName) : (t.check a).Alike (t.check b) :=
  h.record t.info.id rfl

theorem TypeDenoter.check_alike (t : TypeDenoter) :
    (t.check a).1 = (t.check b).1 ∧ (t.check a).2.Alike (t.check b).2 := by
  induction t with
  | named name => exact ⟨rfl, name.check_alike h⟩
  | file info component ih =>
    obtain ⟨hcomponent, hctx⟩ := ih
    obtain ⟨hfile, hmake⟩ := hctx.make fun n => congrArg (Ty.file n) hcomponent
    rw [check_file, check_file]
    exact ⟨hfile, hmake.record info.id hfile⟩

include hf

theorem ConstDef.check_respell (d : ConstDef) : ((d.respell f).check a).Alike (d.check b) := by
  have hvalue := d.value.check_respell hf b.scope
  have hadd := h.add hvalue.findings
  simp only [ConstDef.check_eq, ConstDef.respell, h.scope, hvalue.type]
  split
  . exact hadd
  . exact hadd.define (Name.respell_alike hf d.name) rfl

theorem VarDecl.check_respell (d : VarDecl) : ((d.respell f).check a).Alike (d.check b) := by
  obtain ⟨htype, hctx⟩ := d.type.check_alike h
  rw [VarDecl.check_eq, VarDecl.check_eq]
  exact hctx.defineAll hf d.names htype

theorem Group.check_respell (g : Group) : ((g.respell f).check a).Alike (g.check b) := by
  have htypeName := g.type.check_alike h
  obtain ⟨htype, hmake⟩ :=
    @htypeName.make _ _ _ (.parameter · .formal g.mode g.type.type) _ fun _ => rfl
  rw [Group.check_eq, Group.check_eq]
  exact (hmake.record g.info.id htype).defineAll hf g.names htype

theorem Context.leave_respell (kind : RoutineKind) (name : Name) {type type' : Nat → Ty}
    (htype : ∀ n, type n = type' n) :
    (a.leave kind (Name.respell f name) type).Alike (b.leave kind name type') := by
  have hnote := h.note
    (.scopeOf (f name.value) (a.scope.inner.entries.map fun e => (e.name, e.type.text)))
    (.scopeOf name.value (b.scope.inner.entries.map fun e => (e.name, e.type.text)))
  have hleaving := hnote.pop.note (.leaving kind (f name.value)) (.leaving kind name.value)
  obtain ⟨hmade, hmake⟩ := hleaving.make htype
  exact (hmake.record name.id hmade).define (Name.respell_alike hf name) hmade

end Declarations

theorem Stmt.info_respell (s : Stmt) : (s.respell f).info = s.info := by
  cases s <;> rw [respell] <;> rfl

theorem Block.givesResult_respell (b : Block) (records : Records) (type : Ty) :
    (b.respell f).givesResult records type = b.givesResult records type := by
  have htop : (b.respell f).topLevelStmts = b.topLevelStmts.map (·.respell f) := by
    rcases b with ⟨info, consts, vars, part, body⟩
    rcases body with ⟨info, stmt⟩
    cases stmt with
    | compound info stmts =>
      simp only [respell, Body.respell, topLevelStmts, Block.body, Stmt.respell]
      exact Stmt.respellAll_eq_map f stmts
    | _ => rfl
  unfold givesResult
  rw [htop, List.any_map]
  congr 1
  funext s
  rw [Function.comp_apply, s.info_respell]

def Context.KeepAlike (g g' : Context → Context) : Prop :=
  ∀ a b : Context, a.Alike b → (g a).Alike (g' b)

namespace Routine

theorem kind_respell (r : Routine) : (r.respell f).kind = r.kind := by
  cases r <;> rfl

theorem name_respell (r : Routine) : (r.respell f).name = Name.respell f r.name := by
  cases r <;> rfl

theorem groups_respell (r : Routine) : (r.respell f).groups = r.groups.map (·.respell f) := by
  rcases r with ⟨_, _, _ | _, _⟩ | ⟨_, _, _ | _, _, _⟩ <;> rfl

theorem result?_respell (r : Routine) : (r.respell f).result? = r.result? := by
  cases r <;> rfl

theorem block_respell (r : Routine) : (r.respell f).block = r.block.respell f := by
  cases r <;> rfl

theorem type_respell (r : Routine) : (r.respell f).type = r.type := by
  cases r <;> rfl

theorem lacksResult_respell (r : Routine) : (r.respell f).lacksResult = r.lacksResult := by
  funext records type
  rw [lacksResult, lacksResult, result?_respell, block_respell, Block.givesResult_respell]

variable (hf : KeepsNames f) {a b : Context} (h : a.Alike b)

include hf h

theorem entered_respell (r : Routine) : ((r.respell f).entered a).Alike (r.entered b) := by
  have hresult : (r.result?.elim a fun result => result.check a).Alike
      (r.result?.elim b fun result => result.check b) := by
    cases r.result? with
    | none => exact h
    | some result => exact result.check_alike h
  have hentering := (hresult.note (.entering r.kind (f r.name.value))
    (.entering r.kind r.name.value)).push
  simp only [entered, kind_respell, name_respell, groups_respell, result?_respell, List.foldl_map]
  exact List.foldl_rel hentering fun g _ _ _ h => g.check_respell hf h

theorem params_respell (r : Routine) : (r.respell f).params a = r.params b :=
  congrArg (fun scope => scope.inner.entries.map (·.type)) (r.entered_respell hf h).scope

theorem inside_respell (r : Routine) :
    (r.respell f).own a = r.own b ∧ ((r.respell f).inside a).Alike (r.inside b) := by
  obtain ⟨hmade, hmake⟩ := (r.entered_respell hf h).make fun n =>
    congrFun (congrArg r.type (r.params_respell hf h)) n
  simp only [own, inside, type_respell, name_respell]
  exact ⟨hmade, hmake.define (Name.respell_alike hf r.name) hmade⟩

omit h

theorem keepAlike_of_block (r : Routine)
    (hblock : Context.KeepAlike (r.block.respell f).check r.block.check) :
    Context.KeepAlike (r.respell f).check r.check := by
  intro a b h
  obtain ⟨hown, hinside⟩ := r.inside_respell hf h
  have hdone := hblock _ _ hinside
  simp only [check_eq_inside, kind_respell, name_respell, block_respell, type_respell,
    lacksResult_respell, hown, hdone.records]
  refine Context.leave_respell hf ?_ r.kind r.name fun n =>
    congrFun (congrArg r.type (r.params_respell hf h)) n
  split
  . exact hdone.add (.error r.name.span rfl)
  . exact hdone

end Routine

namespace Block

theorem constDefs_respell (b : Block) : (b.respell f).constDefs = b.constDefs.map (·.respell f) := by
  rcases b with ⟨_, _ | _, _, _, _⟩ <;> rfl

theorem varDecls_respell (b : Block) : (b.respell f).varDecls = b.varDecls.map (·.respell f) := by
  rcases b with ⟨_, _, _ | _, _, _⟩ <;> rfl

theorem routines_respell (b : Block) : (b.respell f).routines = b.routines.map (·.respell f) := by
  rcases b with ⟨_, _, _, _ | ⟨_, routines⟩, _⟩
  . rfl
  . exact Routine.respellAll_eq_map f routines

theorem check_keepAlike (hf : KeepsNames f) (b : Block) :
    Context.KeepAlike (b.respell f).check b.check := by
  induction b using Block.nested_induction with
  | h b ih =>
    intro ctx ctx' h
    have hbody : (b.respell f).body.stmt = b.body.stmt.respell f := by
      cases b
      rfl
    simp only [check_eq, constDefs_respell, varDecls_respell, routines_respell, hbody,
      List.foldl_map]
    have h := List.foldl_rel h fun d (_ : d ∈ b.constDefs) _ _ h => d.check_respell hf h
    have h := List.foldl_rel h fun d (_ : d ∈ b.varDecls) _ _ h => d.check_respell hf h
    have h := List.foldl_rel h fun r (hr : r ∈ b.routines) _ _ h =>
      r.keepAlike_of_block hf (ih r hr) _ _ h
    rw [h.scope]
    exact h.add (b.body.stmt.check_respell hf _)

end Block

theorem Context.checkFile_respell (hf : KeepsNames f) {a b : Context} (h : a.Alike b)
    (name : Name) : (a.checkFile (Name.respell f name)).Alike (b.checkFile name) := by
  have hname := Name.respell_alike hf name
  have hfound := hname.check b.scope
  simp only [checkFile, Name.IsFile, hname.value]
  split
  . obtain ⟨hmade, hmake⟩ := @h.make _ _ _ (.file · .char) _ fun _ => rfl
    exact hmake.define hname hmade
  . rw [h.scope]
    exact h.add hfound.findings

namespace Program

theorem check_respell (hf : KeepsNames f) (p : Program) (table : Predefined) (ctx : Context) :
    ((p.respell f).check table ctx).Alike (p.check table ctx) := by
  have hpredefined := Context.Alike.refl (ctx.predefineAll table)
  have hnote := hpredefined.note (.program (f p.heading.name.value)) (.program p.heading.name.value)
  have hheading := List.foldl_rel hnote fun name (_ : name ∈ p.heading.params) _ _ h =>
    Context.checkFile_respell hf h name
  simp only [check_eq, starting, respell, Heading.check_eq, Heading.respell, List.foldl_map]
  exact (p.block.check_keepAlike hf _ _ hheading).note _ _

/--
A spelling for every name, the same for all spellings of one name. Nothing needs to be known about
canonical names for this.
-/
noncomputable def respelling (name : String) : String :=
  Function.invFun canonicalName (canonicalName name)

theorem respelling_keepsNames : KeepsNames respelling :=
  fun name => Function.invFun_eq ⟨name, rfl⟩

theorem check_alike {p q : Program} (h : p.respell canonicalName = q.respell canonicalName)
    (table : Predefined) (ctx : Context) : (p.check table ctx).Alike (q.check table ctx) := by
  -- Neither program is a respelling of the other: one name may be spelled in several ways in each.
  have hrespelling : p.respell respelling = q.respell respelling := by
    have h := congrArg (respell (Function.invFun canonicalName)) h
    rwa [respell_respell, respell_respell] at h
  have hp := p.check_respell respelling_keepsNames table ctx
  have hq := q.check_respell respelling_keepsNames table ctx
  rw [hrespelling] at hp
  exact hp.symm.trans hq

end Program

/--
Both contexts bind and record the same, and have the same new diagnostics in the same order, all of
them with the same places and further places, but for the words that are taken from the source.
-/
structure Context.SameButWords (before after after' : Context) : Prop where
  diagnostics : ∃ ds ds', after.diagnostics = before.diagnostics ++ ds ∧
    after'.diagnostics = before.diagnostics ++ ds' ∧
    ds.map Diagnostic.unworded = ds'.map Diagnostic.unworded
  scope : after.scope = after'.scope
  records : after.records = after'.records

theorem Context.Alike.sameButWords {before a b : Context} (h : a.Alike b) (ha : Extends before a)
    (hb : Extends before b) : before.SameButWords a b := by
  obtain ⟨ds, hds, -⟩ := ha.diagnostics
  obtain ⟨ds', hds', -⟩ := hb.diagnostics
  refine ⟨⟨ds, ds', hds, hds', ?_⟩, h.scope, h.records⟩
  have hwords := h.diagnostics
  rw [hds, hds', List.map_append, List.map_append] at hwords
  exact List.append_cancel_left hwords

namespace Program

theorem check_sameButWords {p q : Program}
    (h : p.respell canonicalName = q.respell canonicalName) (table : Predefined) (ctx : Context) :
    ctx.SameButWords (p.check table ctx) (q.check table ctx) :=
  (check_alike h table ctx).sameButWords (p.check_extends table ctx) (q.check_extends table ctx)

theorem checkWith_ignores_spelling {p q : Program}
    (h : p.respell canonicalName = q.respell canonicalName) (table : Predefined) (ctx : Context) :
    ctx.SameButWords (p.check table ctx) (q.check table ctx) ∧
      ((∃ after after', p.checkWith table ctx = .ok after ∧ q.checkWith table ctx = .ok after' ∧
          ctx.SameButWords after after') ∨
        ∃ fault, p.checkWith table ctx = .error fault ∧ q.checkWith table ctx = .error fault ∧
          ∃ entry ∈ table, entry.type.isMakeable = false) := by
  refine ⟨check_sameButWords h table ctx, ?_⟩
  cases hfresh : table.fresh ctx.nextTag with
  | ok fresh =>
    obtain ⟨made, next⟩ := fresh
    obtain ⟨hdiagnostics, hscope, hrecords⟩ := check_sameButWords h made { ctx with nextTag := next }
    exact .inl ⟨_, _, p.checkWith_of_fresh hfresh, q.checkWith_of_fresh hfresh, hdiagnostics, hscope,
      hrecords⟩
  | error fault =>
    refine .inr ⟨fault, ?_, ?_, ?_⟩
    . rw [p.checkWith_eq, hfresh]
      rfl
    . rw [q.checkWith_eq, hfresh]
      rfl
    . by_contra hmakeable
      simp only [not_exists, not_and, Bool.not_eq_false] at hmakeable
      obtain ⟨made, next, htotal⟩ := Predefined.fresh_total hmakeable ctx.nextTag
      rw [hfresh] at htotal
      cases htotal

end Program

end

def Sample.summing (sum sum' file : String) : Program :=
  -- `program sum(file); function sum : integer; var sum' : real; sum' := 1; begin end.`
  ⟨node 0, ⟨node 1, ⟨node 2, sum⟩, [⟨node 3, file⟩]⟩,
    .mk (node 4) none none
      (.present (node 5) [.function (node 6) ⟨node 7, sum⟩ none ⟨node 8, ⟨node 9, .integer⟩⟩
        (.mk (node 10) none
          (some ⟨node 11, [⟨node 12, [⟨node 13, sum'⟩], .named ⟨node 14, ⟨node 15, .real⟩⟩⟩]⟩) .absent
          ⟨node 16, .assign (node 17) ⟨node 18, ⟨node 19, sum'⟩⟩
            (.const (node 20) (.integer (node 21) ⟨node 22, "1"⟩))⟩)])
      ⟨node 23, .compound (node 24) []⟩⟩

theorem Sample.summing_respell (f : String → String) (sum sum' file : String) :
    (Sample.summing sum sum' file).respell f = Sample.summing (f sum) (f sum') (f file) := rfl

theorem Sample.summing_ignores_spelling :
    ∃ after after',
      (Sample.summing "Sum" "SUM" "Input").checkWith Required.table .empty = .ok after ∧
      (Sample.summing "sum" "sum" "INPUT").checkWith Required.table .empty = .ok after' ∧
      Context.empty.SameButWords after after' := by
  have hsum : canonicalName "Sum" = canonicalName "sum" := by decide +kernel
  have hsum' : canonicalName "SUM" = canonicalName "sum" := by decide +kernel
  have hfile : canonicalName "Input" = canonicalName "INPUT" := by decide +kernel
  have h : (Sample.summing "Sum" "SUM" "Input").respell canonicalName =
      (Sample.summing "sum" "sum" "INPUT").respell canonicalName := by
    rw [summing_respell, summing_respell, hsum, hsum', hfile]
  obtain ⟨-, hdone | ⟨-, -, -, entry, hentry, hmakeable⟩⟩ :=
    Program.checkWith_ignores_spelling h Required.table .empty
  . exact hdone
  . rw [Required.table_isMakeable entry hentry] at hmakeable
    cases hmakeable

end PascalCheck
