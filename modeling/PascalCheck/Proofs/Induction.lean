import PascalCheck.Check.Stmt

/-!
Induction over the trees that hold lists of trees. What is to be shown may be assumed of every
member of a list below a node.
-/

namespace PascalCheck

@[elab_as_elim]
theorem Ty.induction {motive : Ty → Prop}
    (primitive : ∀ p, motive (.primitive p))
    (sentinel : ∀ s, motive (.sentinel s))
    (file : ∀ tag component, motive component → motive (.file tag component))
    (parameter : ∀ tag role mode type, motive type → motive (.parameter tag role mode type))
    (procedure : ∀ tag params, (∀ t ∈ params, motive t) → motive (.procedure tag params))
    (function : ∀ tag params result, (∀ t ∈ params, motive t) → motive result →
      motive (.function tag params result))
    (overload : ∀ tag alternatives, (∀ t ∈ alternatives, motive t) →
      motive (.overload tag alternatives))
    (t : Ty) : motive t := by
  refine @Ty.rec motive (fun ts => ∀ t ∈ ts, motive t) primitive sentinel file parameter procedure
    function overload ?_ ?_ t
  . intro t h
    cases h
  . intro t ts ht hts
    exact List.forall_mem_cons.mpr ⟨ht, hts⟩

@[elab_as_elim]
theorem Expr.induction {motive : Expr → Prop}
    (const : ∀ info c, motive (.const info c))
    (var : ∀ info name, motive (.var info name))
    (call : ∀ info callee args, (∀ e ∈ args, motive e) → motive (.call info callee args))
    (paren : ∀ info inner, motive inner → motive (.paren info inner))
    (unary : ∀ info op operand, motive operand → motive (.unary info op operand))
    (binary : ∀ info op left right, motive left → motive right →
      motive (.binary info op left right))
    (e : Expr) : motive e := by
  refine @Expr.rec motive (fun es => ∀ e ∈ es, motive e) const var call paren unary binary ?_ ?_ e
  . intro e h
    cases h
  . intro e es he hes
    exact List.forall_mem_cons.mpr ⟨he, hes⟩

@[elab_as_elim]
theorem Stmt.induction {motive : Stmt → Prop}
    (assign : ∀ info target value, motive (.assign info target value))
    (call : ∀ info callee args, motive (.call info callee args))
    (compound : ∀ info stmts, (∀ s ∈ stmts, motive s) → motive (.compound info stmts))
    (ifThen : ∀ info condition thenStmt, motive thenStmt →
      motive (.ifThen info condition thenStmt))
    (ifThenElse : ∀ info condition thenStmt elseStmt, motive thenStmt → motive elseStmt →
      motive (.ifThenElse info condition thenStmt elseStmt))
    (repeatUntil : ∀ info stmts condition, (∀ s ∈ stmts, motive s) →
      motive (.repeatUntil info stmts condition))
    (whileDo : ∀ info condition body, motive body → motive (.whileDo info condition body))
    (forDo : ∀ info direction control initial final body, motive body →
      motive (.forDo info direction control initial final body))
    (empty : ∀ info, motive (.empty info))
    (s : Stmt) : motive s := by
  refine @Stmt.rec motive (fun ss => ∀ s ∈ ss, motive s) assign call compound ifThen ifThenElse
    repeatUntil whileDo forDo empty ?_ ?_ s
  . intro s h
    cases h
  . intro s ss hs hss
    exact List.forall_mem_cons.mpr ⟨hs, hss⟩

theorem Block.induction {block : Block → Prop} {routine : Routine → Prop}
    (mk : ∀ info consts vars part body, (∀ r ∈ part.routines, routine r) →
      block (.mk info consts vars part body))
    (procedure : ∀ info name params b, block b → routine (.procedure info name params b))
    (function : ∀ info name params result b, block b →
      routine (.function info name params result b))
    (b : Block) : block b := by
  refine @Block.rec block (fun part => ∀ r ∈ part.routines, routine r) routine
    (fun rs => ∀ r ∈ rs, routine r) mk ?_ ?_ procedure function ?_ ?_ b
  . intro r h
    cases h
  . intro _ routines h
    exact h
  . intro r h
    cases h
  . intro r rs hr hrs
    exact List.forall_mem_cons.mpr ⟨hr, hrs⟩

theorem Expr.checkAll_eq_map [Naming] (scope : Scope) (es : List Expr) :
    Expr.checkAll scope es = es.map fun e => ⟨e, e.check scope⟩ := by
  induction es with
  | nil => rfl
  | cons e es ih =>
    rw [Expr.checkAll, ih]
    rfl

end PascalCheck
