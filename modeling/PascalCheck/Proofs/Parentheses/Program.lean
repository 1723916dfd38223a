import PascalCheck.Proofs.Parentheses.Run

/-!
Redundant parentheses. Where all nodes of a program have numbers of their own, parentheses can be put
around any of its expressions, except around a variable that is passed to a routine, and the check has
the same outcome.
-/

namespace PascalCheck

variable {old new : Nat}

namespace Expr

theorem mem_all_self (e : Expr) : e ∈ e.all := by
  rw [all_eq]
  exact List.mem_cons_self

theorem not_mem_child {e c : Expr} {id : Nat}
    (h : id ∉ (e.children.flatMap all).map (·.info.id)) (hc : c ∈ e.children) :
    id ∉ c.all.map (·.info.id) := by
  intro hmem
  obtain ⟨x, hx, hid⟩ := List.mem_map.mp hmem
  exact h (List.mem_map.mpr ⟨x, List.mem_flatMap.mpr ⟨c, hc, hx⟩, hid⟩)

theorem enclose_eq {e : Expr} (h : ∀ c ∈ e.children, c.enclose old new = c) :
    e.enclose old new = e.encloseHere old new := by
  cases e with
  | call info callee args =>
    have hargs : encloseAll old new args = args := by
      rw [encloseAll_eq_map]
      exact (List.map_congr_left h).trans (List.map_id' args)
    rw [enclose, hargs]
  | const info c => rw [enclose]
  | var info name => rw [enclose]
  | paren info inner => rw [enclose, h inner (by simp [children])]
  | unary info op operand => rw [enclose, h operand (by simp [children])]
  | binary info op left right =>
    rw [enclose, h left (by simp [children]), h right (by simp [children])]

theorem enclose_of_not_mem {e : Expr} (h : old ∉ e.all.map (·.info.id)) :
    e.enclose old new = e := by
  induction e using children_induction with
  | h e ih =>
    rw [all_eq, List.map_cons, List.mem_cons, not_or] at h
    have hchildren : ∀ c ∈ e.children, c.enclose old new = c := by
      intro c hc
      exact ih c hc (not_mem_child h.2 hc)
    rw [enclose_eq hchildren, encloseHere, if_neg (Ne.symm h.1)]

theorem enclose_self {e : Expr} (h : (e.all.map (·.info.id)).Nodup) (new : Nat) :
    e.enclose e.info.id new = .paren ⟨new, e.span⟩ e := by
  rw [all_eq, List.map_cons, List.nodup_cons] at h
  have hchildren : ∀ c ∈ e.children, c.enclose e.info.id new = c := by
    intro c hc
    exact enclose_of_not_mem (not_mem_child h.1 hc)
  rw [enclose_eq hchildren, encloseHere, if_pos rfl]

theorem exists_encloseHere (old new : Nat) (e : Expr) :
    ∃ e' : Expr, e.enclose old new = e'.encloseHere old new ∧
      e'.children = e.children.map (enclose old new) := by
  cases e with
  | call info callee args =>
    refine ⟨.call info callee (encloseAll old new args), ?_, encloseAll_eq_map old new args⟩
    rw [enclose]
  | _ =>
    rw [enclose]
    exact ⟨_, rfl, rfl⟩

theorem mem_all_encloseHere {e x : Expr} (h : x ∈ e.all) : x ∈ (e.encloseHere old new).all := by
  unfold encloseHere
  split
  . rw [all_eq]
    exact List.mem_cons_of_mem _ (List.mem_flatMap.mpr ⟨e, List.mem_cons_self, h⟩)
  . exact h

theorem enclose_mem_all {e x : Expr} (h : e ∈ x.all) :
    e.enclose old new ∈ (x.enclose old new).all := by
  induction x using children_induction with
  | h x ih =>
    rw [all_eq, List.mem_cons] at h
    obtain rfl | h := h
    . exact mem_all_self _
    . obtain ⟨c, hc, h⟩ := List.mem_flatMap.mp h
      obtain ⟨x', hx', hchildren⟩ := exists_encloseHere old new x
      rw [hx']
      apply mem_all_encloseHere
      rw [all_eq, hchildren]
      exact List.mem_cons_of_mem _
        (List.mem_flatMap.mpr ⟨_, List.mem_map_of_mem hc, ih c hc h⟩)

theorem all_sublist_flatMap {α : Type} {xs : List α} {nodes : α → List Expr} {e : Expr}
    (h : ∀ x ∈ xs, e ∈ nodes x → e.all.Sublist (nodes x)) (he : e ∈ xs.flatMap nodes) :
    e.all.Sublist (xs.flatMap nodes) := by
  obtain ⟨x, hx, he⟩ := List.mem_flatMap.mp he
  exact (h x hx he).trans (List.sublist_flatten_of_mem (List.mem_map_of_mem hx))

theorem all_sublist {e x : Expr} (h : e ∈ x.all) : e.all.Sublist x.all := by
  induction x using children_induction with
  | h x ih =>
    rw [all_eq, List.mem_cons] at h
    obtain rfl | h := h
    . exact List.Sublist.refl _
    . rw [x.all_eq]
      exact (all_sublist_flatMap ih h).cons _

theorem passed_subset (e : Expr) : e.passed ⊆ e.all := by
  intro a ha
  cases e with
  | call info callee args =>
    rw [all_eq]
    have ha : a ∈ args := List.mem_of_mem_filter ha
    exact List.mem_cons_of_mem _ (List.mem_flatMap.mpr ⟨a, ha, a.mem_all_self⟩)
  | _ => cases ha

end Expr

theorem flatMap_ids_perm {α : Type} {xs : List α} {ids others : α → List Nat}
    {nodes : α → List Expr}
    (h : ∀ x ∈ xs, (ids x).Perm ((nodes x).map (·.info.id) ++ others x)) :
    (xs.flatMap ids).Perm ((xs.flatMap nodes).map (·.info.id) ++ xs.flatMap others) := by
  rw [List.map_flatMap]
  exact (List.Perm.flatMap_left xs h).trans (List.flatMap_append_perm xs _ _).symm

namespace Stmt

def otherIds (s : Stmt) : List Nat :=
  s.info.id :: (s.targets.map (·.info.id) ++ s.nodes.flatMap Expr.constIds)

theorem ids_perm (s : Stmt) : s.ids.Perm (s.nodes.map (·.info.id) ++ s.otherIds) := by
  have hnodes : (s.nodes.flatMap Expr.ids).Perm
      (s.nodes.map (·.info.id) ++ s.nodes.flatMap Expr.constIds) := by
    rw [funext Expr.ids_eq]
    exact (List.map_append_flatMap_perm s.nodes _ _).symm
  refine (hnodes.append_left (s.info.id :: s.targets.map (·.info.id))).trans ?_
  rw [otherIds, ← List.cons_append, ← List.append_assoc, ← List.append_assoc]
  exact List.perm_append_comm.append_right _

def allPassed (s : Stmt) : List Expr :=
  s.passed ++ s.nodes.flatMap Expr.passed

theorem all_sublist_nodes {s : Stmt} {e : Expr} (h : e ∈ s.nodes) : e.all.Sublist s.nodes :=
  Expr.all_sublist_flatMap (fun _ _ => Expr.all_sublist) h

theorem allPassed_subset (s : Stmt) : s.allPassed ⊆ s.nodes := by
  intro a ha
  obtain ha | ha := List.mem_append.mp ha
  . have ha : a ∈ s.exprs := by
      cases s with
      | call info callee args => exact List.mem_of_mem_filter ha
      | _ => cases ha
    exact List.mem_flatMap.mpr ⟨a, ha, a.mem_all_self⟩
  . obtain ⟨e, he, ha⟩ := List.mem_flatMap.mp ha
    exact (all_sublist_nodes he).subset (e.passed_subset ha)

theorem allows_of_ids {s : Stmt} (hold : old ∉ s.otherIds) (hnew : new ∉ s.ids)
    (hpassed : ∀ a ∈ s.allPassed, a.info.id ≠ old) : s.Allows old new := by
  simp only [otherIds, ids, allPassed, List.mem_cons, List.mem_append, not_or, List.mem_map,
    List.mem_flatMap, not_exists, not_and] at hold hnew hpassed
  obtain ⟨hinfo, htargets, hconsts⟩ := hold
  obtain ⟨hinfo', htargets', hids⟩ := hnew
  refine ⟨⟨Ne.symm hinfo, Ne.symm hinfo'⟩, ?_, ?_, fun a ha => hpassed a (.inl ha)⟩
  . intro t ht
    exact ⟨htargets t ht, htargets' t ht⟩
  . intro e he
    exact ⟨hids e he, hconsts e he, fun a ha => hpassed a (.inr ⟨e, he, ha⟩)⟩

theorem children_enclose (s : Stmt) :
    (s.enclose old new).children = s.children.map (enclose old new) := by
  cases s with
  | compound info stmts => exact encloseAll_eq_map old new stmts
  | repeatUntil info stmts condition => exact encloseAll_eq_map old new stmts
  | _ => rfl

theorem exprs_enclose (s : Stmt) :
    (s.enclose old new).exprs = s.exprs.map (Expr.enclose old new) := by
  cases s with
  | call info callee args =>
    cases args with
    | none => rfl
    | some args => exact Expr.encloseAll_eq_map old new args
  | _ => rfl

theorem all_enclose (s : Stmt) :
    (s.enclose old new).all = s.all.map (enclose old new) := by
  induction s using children_induction with
  | h s ih =>
    rw [all_eq, s.all_eq, children_enclose, List.map_cons, List.flatMap_map, List.map_flatMap]
    congr 1
    exact List.flatMap_congr ih

theorem enclose_mem_nodes {s : Stmt} {e : Expr} (h : e ∈ s.nodes) :
    e.enclose old new ∈ (s.enclose old new).nodes := by
  obtain ⟨x, hx, h⟩ := List.mem_flatMap.mp h
  rw [nodes, exprs_enclose]
  exact List.mem_flatMap.mpr ⟨_, List.mem_map_of_mem hx, Expr.enclose_mem_all h⟩

end Stmt

namespace Item

def nodes : Item → List Expr
  | .body stmt => stmt.all.flatMap Stmt.nodes
  | _ => []

def otherIds : Item → List Nat
  | .body stmt => stmt.all.flatMap Stmt.otherIds
  | item => item.declared

def allPassed : Item → List Expr
  | .body stmt => stmt.all.flatMap Stmt.allPassed
  | _ => []

theorem ids_perm (item : Item) : item.ids.Perm (item.nodes.map (·.info.id) ++ item.otherIds) := by
  cases item with
  | body stmt => exact flatMap_ids_perm fun s _ => s.ids_perm
  | _ => exact List.Perm.refl _

theorem all_sublist_nodes {item : Item} {e : Expr} (h : e ∈ item.nodes) :
    e.all.Sublist item.nodes := by
  cases item with
  | body stmt => exact Expr.all_sublist_flatMap (fun _ _ => Stmt.all_sublist_nodes) h
  | _ => cases h

theorem allPassed_subset (item : Item) : item.allPassed ⊆ item.nodes := by
  intro a ha
  cases item with
  | body stmt =>
    obtain ⟨s, hs, ha⟩ := List.mem_flatMap.mp ha
    exact List.mem_flatMap.mpr ⟨s, hs, s.allPassed_subset ha⟩
  | _ => cases ha

theorem allows_of_ids {item : Item} (hold : old ∉ item.otherIds) (hnew : new ∉ item.ids)
    (hpassed : ∀ a ∈ item.allPassed, a.info.id ≠ old) : item.Allows old new := by
  cases item with
  | body stmt =>
    intro s hs
    apply Stmt.allows_of_ids
    . exact fun hmem => hold (List.mem_flatMap.mpr ⟨s, hs, hmem⟩)
    . exact fun hmem => hnew (List.mem_flatMap.mpr ⟨s, hs, hmem⟩)
    . exact fun a ha => hpassed a (List.mem_flatMap.mpr ⟨s, hs, ha⟩)
  | _ => exact ⟨hold, hnew⟩

theorem enclose_mem_nodes {item : Item} {e : Expr} (h : e ∈ item.nodes) :
    e.enclose old new ∈ (item.enclose old new).nodes := by
  cases item with
  | body stmt =>
    obtain ⟨s, hs, h⟩ := List.mem_flatMap.mp h
    rw [enclose, nodes, Stmt.all_enclose]
    exact List.mem_flatMap.mpr ⟨_, List.mem_map_of_mem hs, Stmt.enclose_mem_nodes h⟩
  | _ => cases h

end Item

namespace Program

def nodes (p : Program) : List Expr :=
  p.block.items.flatMap Item.nodes

def passed (p : Program) : List Expr :=
  p.block.items.flatMap Item.allPassed

variable {p : Program} {e : Expr}

theorem ids_perm (p : Program) :
    (Root.program p).ids.Perm
      (p.nodes.map (·.info.id) ++ p.block.items.flatMap Item.otherIds) :=
  flatMap_ids_perm fun item _ => item.ids_perm

theorem passed_subset (p : Program) : p.passed ⊆ p.nodes := by
  intro a ha
  obtain ⟨item, hitem, ha⟩ := List.mem_flatMap.mp ha
  exact List.mem_flatMap.mpr ⟨item, hitem, item.allPassed_subset ha⟩

theorem all_nodup (hids : (Root.program p).ids.Nodup) (he : e ∈ p.nodes) :
    (e.all.map (·.info.id)).Nodup := by
  rw [p.ids_perm.nodup_iff, List.nodup_append] at hids
  have hsub : e.all.Sublist p.nodes :=
    Expr.all_sublist_flatMap (fun _ _ => Item.all_sublist_nodes) he
  exact hids.1.sublist (hsub.map _)

theorem items_allow (hids : (Root.program p).ids.Nodup) (he : e ∈ p.nodes) (hpassed : e ∉ p.passed)
    (hnew : new ∉ (Root.program p).ids) :
    ∀ item ∈ p.block.items, item.Allows e.info.id new := by
  rw [p.ids_perm.nodup_iff, List.nodup_append] at hids
  obtain ⟨hnodes, -, hothers⟩ := hids
  intro item hitem
  apply Item.allows_of_ids
  . intro hmem
    have hmem := List.mem_flatMap.mpr ⟨item, hitem, hmem⟩
    exact hothers _ (List.mem_map_of_mem he) _ hmem rfl
  . exact fun hmem => hnew (List.mem_flatMap.mpr ⟨item, hitem, hmem⟩)
  . intro a ha hid
    have ha : a ∈ p.passed := List.mem_flatMap.mpr ⟨item, hitem, ha⟩
    have hae : a = e := List.inj_on_of_nodup_map hnodes (p.passed_subset ha) he hid
    exact hpassed (hae ▸ ha)

theorem items_enclose (h : ∀ item ∈ p.block.items, item.Allows old new) :
    (p.enclose old new).block.items = p.block.items.map (Item.enclose old new) := by
  have hitem (a : Action) :
      (a.enclose old new).item? = a.item?.map (Item.enclose old new) := by
    cases a <;> rfl
  have hempty : Context.empty.Twinned old new .empty := ⟨rfl, rfl, rfl, fun _ => rfl⟩
  have hplan := (p.plan_mirrors [] h _ _ hempty).1
  rw [← (p.enclose old new).plan_lists [] .empty, ← p.plan_lists [] .empty, hplan,
    List.filterMap_map, List.map_filterMap]
  exact congrArg (List.filterMap · _) (funext hitem)

theorem paren_mem_nodes (hids : (Root.program p).ids.Nodup) (he : e ∈ p.nodes)
    (h : ∀ item ∈ p.block.items, item.Allows e.info.id new) :
    .paren ⟨new, e.span⟩ e ∈ (p.enclose e.info.id new).nodes := by
  obtain ⟨item, hitem, hmem⟩ := List.mem_flatMap.mp he
  rw [← Expr.enclose_self (all_nodup hids he) new, nodes, items_enclose h]
  exact List.mem_flatMap.mpr ⟨_, List.mem_map_of_mem hitem, Item.enclose_mem_nodes hmem⟩

end Program

/--
Both contexts bind the same, and have the same new diagnostics in the same order, all of them with the
same places and further places, but for the words that are taken from the source. Every node has the
same type in both, but for the parentheses: these have the type of what is in them.
-/
structure Context.SameButParentheses (old new : Nat) (before after after' : Context) : Prop where
  diagnostics : ∃ ds ds', after.diagnostics = before.diagnostics ++ ds ∧
    after'.diagnostics = before.diagnostics ++ ds' ∧
    ds.map Diagnostic.unworded = ds'.map Diagnostic.unworded
  scope : after'.scope = after.scope
  others : ∀ id, id ≠ new → after'.records.type? id = after.records.type? id
  parentheses : after'.records.type? new = after.records.type? old

theorem Context.Twinned.sameButParentheses {before a b : Context} (h : b.Twinned old new a)
    (ha : Extends before a) (hb : Extends before b) : before.SameButParentheses old new a b := by
  obtain ⟨ds, hds, -⟩ := ha.diagnostics
  obtain ⟨ds', hds', -⟩ := hb.diagnostics
  refine ⟨⟨ds, ds', hds, hds', ?_⟩, h.scope, ?_, ?_⟩
  . have hwords := h.diagnostics
    rw [hds, hds', List.map_append, List.map_append] at hwords
    exact (List.append_cancel_left hwords).symm
  . intro id hid
    rw [h.records id, if_neg hid]
  . rw [h.records new, if_pos rfl]

namespace Program

theorem checkWith_ignores_parentheses {p : Program} (hids : (Root.program p).ids.Nodup) {e : Expr}
    (he : e ∈ p.nodes) (hpassed : e ∉ p.passed) {new : Nat} (hnew : new ∉ (Root.program p).ids)
    (table : Predefined) {ctx : Context} (hold : e.info.id ∉ ctx.ids) (hunused : new ∉ ctx.ids) :
    .paren ⟨new, e.span⟩ e ∈ (p.enclose e.info.id new).nodes ∧
      ((∃ after after', p.checkWith table ctx = .ok after ∧
          (p.enclose e.info.id new).checkWith table ctx = .ok after' ∧
          ctx.SameButParentheses e.info.id new after after') ∨
        ∃ fault, p.checkWith table ctx = .error fault ∧
          (p.enclose e.info.id new).checkWith table ctx = .error fault ∧
          ∃ entry ∈ table, entry.type.isMakeable = false) := by
  have hallow := items_allow hids he hpassed hnew
  refine ⟨paren_mem_nodes hids he hallow, ?_⟩
  cases hfresh : table.fresh ctx.nextTag with
  | ok fresh =>
    obtain ⟨made, next⟩ := fresh
    have htwinned := p.check_enclose made { ctx with nextTag := next } hallow hold hunused
    obtain ⟨hdiagnostics, hscope, hothers, hparentheses⟩ :=
      htwinned.sameButParentheses (p.check_extends made _) (check_extends _ made _)
    exact .inl ⟨_, _, p.checkWith_of_fresh hfresh, checkWith_of_fresh _ hfresh, hdiagnostics, hscope,
      hothers, hparentheses⟩
  | error fault =>
    exact .inr ⟨fault, p.checkWith_of_fault hfresh, checkWith_of_fault _ hfresh,
      Predefined.exists_not_isMakeable hfresh⟩

end Program

def Sample.looping (condition : Expr) : Program :=
  -- `program p; var x : integer; while` condition `do x := abs(x).`
  ⟨node 0, ⟨node 1, ⟨node 2, "p"⟩, []⟩,
    .mk (node 3) none
      (some ⟨node 4, [⟨node 5, [⟨node 6, "x"⟩], .named ⟨node 7, ⟨node 8, .integer⟩⟩⟩]⟩) .absent
      ⟨node 9, .whileDo (node 10) condition
        (.assign (node 11) ⟨node 12, ⟨node 13, "x"⟩⟩
          (.call (node 14) ⟨node 15, "abs"⟩ [.var (node 16) ⟨node 17, "x"⟩]))⟩⟩

def Sample.tested : Expr :=
  .var (node 18) ⟨node 19, "x"⟩

-- Evaluating a sample goes through the frame of all required names.
set_option maxRecDepth 2000

theorem Sample.type?_enclosed :
    ∃ after, (looping (.paren ⟨20, tested.span⟩ tested)).checkWith Required.table .empty =
      .ok after ∧ after.records.type? 20 = some .integer := by
  refine ⟨_, rfl, ?_⟩
  simp only [Program.check_eq, Block.check_eq, Program.starting, Heading.check_eq]
  rfl

theorem Sample.looping_ignores_parentheses :
    ∃ after after', (looping tested).checkWith Required.table .empty = .ok after ∧
      (looping (.paren ⟨20, tested.span⟩ tested)).checkWith Required.table .empty = .ok after' ∧
      Context.empty.SameButParentheses 18 20 after after' ∧
      after'.records.type? 20 = some .integer := by
  have hids : (Root.program (looping tested)).ids.Nodup := by decide
  have hnodes : tested ∈ (looping tested).nodes := List.mem_cons_self
  have hpassed : tested ∉ (looping tested).passed := by
    rw [show (looping tested).passed = [.var (node 16) ⟨node 17, "x"⟩] from rfl]
    simp [tested, node]
  have hnew : 20 ∉ (Root.program (looping tested)).ids := by decide
  have hunused (id : Nat) : id ∉ Context.empty.ids := List.not_mem_nil
  have henclose : (looping tested).enclose tested.info.id 20 =
      looping (.paren ⟨20, tested.span⟩ tested) := rfl
  obtain ⟨-, hdone | ⟨_, -, -, entry, hentry, hmakeable⟩⟩ :=
    Program.checkWith_ignores_parentheses hids hnodes hpassed hnew Required.table (hunused _)
      (hunused _)
  . rw [henclose] at hdone
    obtain ⟨after, after', hafter, hafter', hsame⟩ := hdone
    obtain ⟨_, henclosed, htype⟩ := type?_enclosed
    cases hafter'.symm.trans henclosed
    exact ⟨after, _, hafter, hafter', hsame, htype⟩
  . rw [Required.table_isMakeable entry hentry] at hmakeable
    cases hmakeable

end PascalCheck
