import PascalCheck.Proofs.Induction

/-!
Trees with other spellings. Only names are spelled anew; lexemes, strings and all else stay as they
are. Two trees that differ in nothing but spellings of one and the same canonical names are equal
once every name is given its canonical form.
-/

namespace PascalCheck

variable (f g : String → String)

def Name.respell (name : Name) : Name :=
  { name with value := f name.value }

def Const.respell : Const → Const
  | .signed info sign operand => .signed info sign operand.respell
  | .named info name => .named info (Name.respell f name)
  | .signedNamed info sign name => .signedNamed info sign (Name.respell f name)
  | c => c

mutual

def Expr.respell : Expr → Expr
  | .const info c => .const info (c.respell f)
  | .var info name => .var info (Name.respell f name)
  | .call info callee args => .call info (Name.respell f callee) (Expr.respellAll args)
  | .paren info inner => .paren info inner.respell
  | .unary info op operand => .unary info op operand.respell
  | .binary info op left right => .binary info op left.respell right.respell

def Expr.respellAll : List Expr → List Expr
  | [] => []
  | e :: es => e.respell :: Expr.respellAll es

end

def Target.respell (t : Target) : Target :=
  { t with name := Name.respell f t.name }

mutual

def Stmt.respell : Stmt → Stmt
  | .assign info target value => .assign info (target.respell f) (value.respell f)
  | .call info callee args =>
    .call info (Name.respell f callee) (args.map (Expr.respellAll f))
  | .compound info stmts => .compound info (Stmt.respellAll stmts)
  | .ifThen info condition thenStmt => .ifThen info (condition.respell f) thenStmt.respell
  | .ifThenElse info condition thenStmt elseStmt =>
    .ifThenElse info (condition.respell f) thenStmt.respell elseStmt.respell
  | .repeatUntil info stmts condition =>
    .repeatUntil info (Stmt.respellAll stmts) (condition.respell f)
  | .whileDo info condition body => .whileDo info (condition.respell f) body.respell
  | .forDo info direction control initial final body =>
    .forDo info direction (control.respell f) (initial.respell f) (final.respell f) body.respell
  | .empty info => .empty info

def Stmt.respellAll : List Stmt → List Stmt
  | [] => []
  | s :: ss => s.respell :: Stmt.respellAll ss

end

def ConstDef.respell (d : ConstDef) : ConstDef :=
  { d with name := Name.respell f d.name, value := d.value.respell f }

def ConstPart.respell (p : ConstPart) : ConstPart :=
  { p with defs := p.defs.map (·.respell f) }

def VarDecl.respell (d : VarDecl) : VarDecl :=
  { d with names := d.names.map (Name.respell f) }

def VarPart.respell (p : VarPart) : VarPart :=
  { p with decls := p.decls.map (·.respell f) }

def Group.respell (group : Group) : Group :=
  { group with names := group.names.map (Name.respell f) }

def Body.respell (b : Body) : Body :=
  { b with stmt := b.stmt.respell f }

mutual

def Block.respell : Block → Block
  | .mk info consts vars routines body =>
    .mk info (consts.map (·.respell f)) (vars.map (·.respell f)) routines.respell (body.respell f)

def RoutinePart.respell : RoutinePart → RoutinePart
  | .absent => .absent
  | .present info routines => .present info (Routine.respellAll routines)

def Routine.respell : Routine → Routine
  | .procedure info name params block =>
    .procedure info (Name.respell f name) (params.map (List.map (·.respell f))) block.respell
  | .function info name params result block =>
    .function info (Name.respell f name) (params.map (List.map (·.respell f))) result block.respell

def Routine.respellAll : List Routine → List Routine
  | [] => []
  | r :: rs => r.respell :: Routine.respellAll rs

end

def Heading.respell (h : Heading) : Heading :=
  { h with name := Name.respell f h.name, params := h.params.map (Name.respell f) }

def Program.respell (p : Program) : Program :=
  { p with heading := p.heading.respell f, block := p.block.respell f }

theorem Name.respell_respell (name : Name) :
    Name.respell g (Name.respell f name) = Name.respell (g ∘ f) name := rfl

theorem Const.respell_respell (c : Const) : (c.respell f).respell g = c.respell (g ∘ f) := by
  induction c with
  | signed info sign operand ih => rw [respell, respell, ih, respell]
  | _ => rfl

namespace Expr

theorem respellAll_eq_map (es : List Expr) : respellAll f es = es.map (·.respell f) := by
  induction es with
  | nil => rw [respellAll, List.map_nil]
  | cons e es ih => rw [respellAll, ih, List.map_cons]

theorem respell_respell (e : Expr) : (e.respell f).respell g = e.respell (g ∘ f) := by
  induction e using Expr.induction with
  | call info callee args ih =>
    simpa [respell, respellAll_eq_map, Name.respell_respell] using ih
  | _ => simp only [respell, Name.respell_respell, Const.respell_respell, *]

theorem respellAll_respellAll (es : List Expr) :
    respellAll g (respellAll f es) = respellAll (g ∘ f) es := by
  simp [respellAll_eq_map, respell_respell]

end Expr

theorem Target.respell_respell (t : Target) : (t.respell f).respell g = t.respell (g ∘ f) := rfl

namespace Stmt

theorem respellAll_eq_map (ss : List Stmt) : respellAll f ss = ss.map (·.respell f) := by
  induction ss with
  | nil => rw [respellAll, List.map_nil]
  | cons s ss ih => rw [respellAll, ih, List.map_cons]

theorem respell_respell (s : Stmt) : (s.respell f).respell g = s.respell (g ∘ f) := by
  induction s using Stmt.induction with
  | call info callee args =>
    cases args with
    | none => rfl
    | some args => simp [respell, Name.respell_respell, Expr.respellAll_respellAll]
  | compound info stmts ih => simpa [respell, respellAll_eq_map] using ih
  | repeatUntil info stmts condition ih =>
    simpa [respell, respellAll_eq_map, Expr.respell_respell] using ih
  | _ => simp only [respell, Target.respell_respell, Expr.respell_respell, *]

end Stmt

theorem ConstPart.respell_respell (p : ConstPart) :
    (p.respell f).respell g = p.respell (g ∘ f) := by
  simp [respell, ConstDef.respell, Name.respell_respell, Const.respell_respell]

theorem VarPart.respell_respell (p : VarPart) : (p.respell f).respell g = p.respell (g ∘ f) := by
  simp [respell, VarDecl.respell, Name.respell_respell]

namespace Routine

theorem respell_respell_params (params : Option (List Group)) :
    (params.map (List.map (·.respell f))).map (List.map (·.respell g)) =
      params.map (List.map (·.respell (g ∘ f))) := by
  cases params <;> simp [Group.respell, Name.respell_respell]

theorem respellAll_eq_map (rs : List Routine) : respellAll f rs = rs.map (·.respell f) := by
  induction rs with
  | nil => rw [respellAll, List.map_nil]
  | cons r rs ih => rw [respellAll, ih, List.map_cons]

end Routine

theorem Block.respell_respell (b : Block) : (b.respell f).respell g = b.respell (g ∘ f) := by
  refine @Block.induction (fun b => (b.respell f).respell g = b.respell (g ∘ f))
    (fun r => (r.respell f).respell g = r.respell (g ∘ f)) ?_ ?_ ?_ b
  . intro info consts vars part body ih
    have hpart : (part.respell f).respell g = part.respell (g ∘ f) := by
      cases part with
      | absent => rfl
      | present info routines =>
        simpa [RoutinePart.respell, RoutinePart.routines, Routine.respellAll_eq_map] using ih
    cases consts <;> cases vars <;>
      simp [respell, hpart, ConstPart.respell_respell, VarPart.respell_respell, Body.respell,
        Stmt.respell_respell]
  . intro info name params b ih
    simp only [Routine.respell, Name.respell_respell, Routine.respell_respell_params, ih]
  . intro info name params result b ih
    simp only [Routine.respell, Name.respell_respell, Routine.respell_respell_params, ih]

theorem Program.respell_respell (p : Program) : (p.respell f).respell g = p.respell (g ∘ f) := by
  simp [respell, Heading.respell, Name.respell_respell, Block.respell_respell]

end PascalCheck
