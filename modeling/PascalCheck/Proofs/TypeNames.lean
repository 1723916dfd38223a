import PascalCheck.Check.Stmt
import PascalCheck.Proofs.Equivalence
import PascalCheck.Proofs.Relabel.Types

/-!
The texts of types. A plain type without functions can be told from its text, up to equivalence: the
first letters of a text tell the word that it starts with, and no text but that of a procedure goes
on with a parenthesis. So no report sets two such types against each other that look the same.
-/

namespace PascalCheck

namespace Ty

mutual

def isFunctionFree : Ty → Bool
  | .primitive _ | .sentinel _ => true
  | .file _ component => component.isFunctionFree
  | .parameter _ _ _ type => type.isFunctionFree
  | .procedure _ params => areFunctionFree params
  | .function _ _ _ => false
  | .overload _ alternatives => areFunctionFree alternatives

def areFunctionFree : List Ty → Bool
  | [] => true
  | t :: ts => t.isFunctionFree && areFunctionFree ts

end

structure Readable (t : Ty) : Prop where
  plain : t.isPlain = true
  free : t.isFunctionFree = true

structure ReadableParams (ts : List Ty) : Prop where
  plain : arePlainParams ts = true
  free : areFunctionFree ts = true

theorem readable_file_iff (tag : Nat) (component : Ty) :
    (Ty.file tag component).Readable ↔ component.Readable :=
  ⟨fun h => ⟨h.plain, h.free⟩, fun h => ⟨h.plain, h.free⟩⟩

theorem readable_procedure_iff (tag : Nat) (params : List Ty) :
    (Ty.procedure tag params).Readable ↔ ReadableParams params :=
  ⟨fun h => ⟨h.plain, h.free⟩, fun h => ⟨h.plain, h.free⟩⟩

theorem readableParams_cons_iff (tag : Nat) (role : Role) (mode : Mode) (t : Ty) (ts : List Ty) :
    ReadableParams (.parameter tag role mode t :: ts) ↔ t.Readable ∧ ReadableParams ts := by
  constructor
  . rintro ⟨hplain, hfree⟩
    rw [arePlainParams, Bool.and_eq_true] at hplain
    rw [areFunctionFree, isFunctionFree, Bool.and_eq_true] at hfree
    exact ⟨⟨hplain.1, hfree.1⟩, hplain.2, hfree.2⟩
  . rintro ⟨ht, hts⟩
    refine ⟨?_, ?_⟩
    . rw [arePlainParams, ht.plain, hts.plain, Bool.and_self]
    . rw [areFunctionFree, isFunctionFree, ht.free, hts.free, Bool.and_self]

theorem Readable.induction {type : Ty → Prop} {params : List Ty → Prop}
    (primitive : ∀ p, type (.primitive p))
    (sentinel : ∀ s, type (.sentinel s))
    (file : ∀ tag t, t.Readable → type t → type (.file tag t))
    (procedure : ∀ tag ts, ReadableParams ts → params ts → type (.procedure tag ts))
    (nil : params [])
    (cons : ∀ tag role mode t ts, t.Readable → ReadableParams ts → type t → params ts →
      params (.parameter tag role mode t :: ts))
    {t : Ty} (h : t.Readable) : type t := by
  revert h
  refine @isPlain.induct (fun t => t.Readable → type t) (fun ts => ReadableParams ts → params ts)
    ?_ ?_ ?_ ?_ ?_ ?_ ?_ ?_ ?_ ?_ t
  . exact fun p _ => primitive p
  . exact fun s _ => sentinel s
  . intro tag t ih h
    rw [readable_file_iff] at h
    exact file tag t h (ih h)
  . intro tag ts ih h
    rw [readable_procedure_iff] at h
    exact procedure tag ts h (ih h)
  . intro tag ts result _ h
    cases h.free
  . intro tag role mode t h
    cases h.plain
  . intro tag ts h
    cases h.plain
  . exact fun _ => nil
  . intro tag role mode t ts iht ihts h
    rw [readableParams_cons_iff] at h
    exact cons tag role mode t ts h.1 h.2 (iht h.1) (ihts h.2)
  . intro t ts hparameter h
    cases t with
    | parameter tag role mode type => exact absurd rfl (hparameter tag role mode type)
    | _ => cases h.plain

inductive Word where
  | primitive (primitive : Primitive)
  | sentinel (sentinel : Sentinel)
  | file
  | procedure
  | var

namespace Word

def chars : Word → List Char
  | .primitive p => p.text.toList
  | .sentinel s => (Ty.sentinel s).text.toList
  | .file => "file of ".toList
  | .procedure => "procedure".toList
  | .var => "var ".toList

def of? : List Char → Option Word
  | 'i' :: _ => some (.primitive .integer)
  | 'r' :: _ => some (.primitive .real)
  | 'c' :: _ => some (.primitive .char)
  | 'b' :: _ => some (.primitive .boolean)
  | 's' :: _ => some (.primitive .string)
  | '<' :: 'u' :: _ => some (.sentinel .undefined)
  | '<' :: 'e' :: _ => some (.sentinel .error)
  | '<' :: 'i' :: _ => some (.sentinel .invalidConstant)
  | 'f' :: _ => some .file
  | 'p' :: _ => some .procedure
  | 'v' :: _ => some .var
  | _ => none

theorem of?_chars_append (w : Word) (rest : List Char) : of? (w.chars ++ rest) = some w := by
  cases w with
  | primitive p => cases p <;> rfl
  | sentinel s => cases s <;> rfl
  | _ => rfl

theorem chars_append_inj {v w : Word} {r s : List Char} (h : v.chars ++ r = w.chars ++ s) :
    v = w ∧ r = s := by
  have hof := congrArg of? h
  rw [of?_chars_append, of?_chars_append] at hof
  cases hof
  exact ⟨rfl, List.append_cancel_left h⟩

end Word

def word : Ty → Word
  | .primitive p => .primitive p
  | .sentinel s => .sentinel s
  | .file _ _ => .file
  | .procedure _ _ => .procedure
  -- These are not readable.
  | .parameter _ _ _ _ | .function _ _ _ | .overload _ _ => .var

def afterWord : Ty → List Char
  | .file _ component => component.text.toList
  | .procedure _ params => (paramsText (texts params)).toList
  | _ => []

theorem Readable.toList_text {t : Ty} (h : t.Readable) :
    t.text.toList = t.word.chars ++ t.afterWord := by
  cases t with
  | primitive p =>
    rw [text]
    exact (List.append_nil _).symm
  | sentinel s => exact (List.append_nil _).symm
  | file tag component =>
    rw [text, String.toList_append]
    rfl
  | procedure tag params =>
    rw [text, String.toList_append]
    rfl
  | parameter tag role mode type => cases h.plain
  | function tag params result => cases h.free
  | overload tag alternatives => cases h.plain

theorem Readable.word_ne_var {t : Ty} (h : t.Readable) : t.word ≠ .var := by
  cases t with
  | parameter tag role mode type => cases h.plain
  | function tag params result => cases h.free
  | overload tag alternatives => cases h.plain
  | _ => simp [word]

theorem Readable.append_ne_var {t : Ty} (h : t.Readable) (tag : Nat) (role : Role) (u : Ty)
    (r s : List Char) :
    t.text.toList ++ r ≠ (Ty.parameter tag role .var u).text.toList ++ s := by
  intro htext
  rw [h.toList_text, text, String.toList_append, List.append_assoc, List.append_assoc] at htext
  exact h.word_ne_var (Word.chars_append_inj (w := .var) htext).1

def row : List Ty → List Char
  | [] => [')']
  | t :: ts => ';' :: ' ' :: (t.text.toList ++ row ts)

theorem toList_paramsText_cons (t : Ty) (ts : List Ty) :
    (paramsText (texts (t :: ts))).toList = '(' :: (t.text.toList ++ row ts) := by
  have hrow : ("; ".intercalate (texts (t :: ts))).toList ++ [')'] = t.text.toList ++ row ts := by
    induction ts generalizing t with
    | nil => rw [texts, texts, String.intercalate_singleton, row]
    | cons u ts ih =>
      rw [texts, texts, String.intercalate_cons_cons, String.toList_append, String.toList_append,
        List.append_assoc, ← texts, ih, row, List.append_assoc]
      rfl
  have hempty : (texts (t :: ts)).isEmpty = false := by
    rw [texts]
    rfl
  rw [paramsText, hempty, if_neg Bool.false_ne_true, String.toList_append, String.toList_append,
    List.append_assoc, show ")".toList = [')'] from rfl, hrow]
  rfl

theorem head?_row_append (ts : List Ty) (rest : List Char) : (row ts ++ rest).head? ≠ some '(' := by
  cases ts with
  | nil => simp [row]
  | cons t ts => simp [row]

/-- A type can be told from its text, as long as what follows does not look like parameters. -/
def ReadsBack (a : Ty) : Prop :=
  ∀ (b : Ty) (r s : List Char), b.Readable → r.head? ≠ some '(' → s.head? ≠ some '(' →
    a.text.toList ++ r = b.text.toList ++ s → a.core = b.core ∧ r = s

-- Nothing is asked of what follows here: the last parenthesis is part of the row.
def RowReadsBack (ps : List Ty) : Prop :=
  ∀ (qs : List Ty) (r s : List Char), ReadableParams qs → row ps ++ r = row qs ++ s →
    coreParams ps = coreParams qs ∧ r = s

theorem Readable.readsBack_of_afterWord {a : Ty} (ha : a.Readable)
    (h : ∀ (b : Ty) (r s : List Char), b.Readable → r.head? ≠ some '(' → s.head? ≠ some '(' →
      a.word = b.word → a.afterWord ++ r = b.afterWord ++ s → a.core = b.core ∧ r = s) :
    a.ReadsBack := by
  intro b r s hb hr hs htext
  rw [ha.toList_text, hb.toList_text, List.append_assoc, List.append_assoc] at htext
  obtain ⟨hword, hafter⟩ := Word.chars_append_inj htext
  exact h b r s hb hr hs hword hafter

theorem ReadsBack.file (tag : Nat) {component : Ty} (h : component.Readable)
    (ih : component.ReadsBack) : (Ty.file tag component).ReadsBack := by
  apply ((readable_file_iff tag component).mpr h).readsBack_of_afterWord
  intro b r s hb hr hs hword hafter
  cases b with
  | file tag' component' =>
    rw [readable_file_iff] at hb
    obtain ⟨hcore, hrest⟩ := ih component' r s hb hr hs hafter
    rw [core, core, hcore]
    exact ⟨rfl, hrest⟩
  | _ => cases hword

theorem ReadsBack.procedure (tag : Nat) {params : List Ty} (h : ReadableParams params)
    (ih : RowReadsBack params) : (Ty.procedure tag params).ReadsBack := by
  apply ((readable_procedure_iff tag params).mpr h).readsBack_of_afterWord
  intro b r s hb hr hs hword hafter
  cases b with
  | procedure tag' params' =>
    rw [readable_procedure_iff] at hb
    have hparams : coreParams params = coreParams params' ∧ r = s := by
      rw [afterWord, afterWord] at hafter
      cases params with
      | nil =>
        cases params' with
        | nil => exact ⟨rfl, hafter⟩
        | cons q qs =>
          rw [toList_paramsText_cons] at hafter
          rw [show r = _ from hafter] at hr
          exact absurd rfl hr
      | cons p ps =>
        cases params' with
        | nil =>
          rw [toList_paramsText_cons] at hafter
          rw [show s = _ from hafter.symm] at hs
          exact absurd rfl hs
        | cons q qs =>
          rw [toList_paramsText_cons, toList_paramsText_cons] at hafter
          apply ih (q :: qs) r s hb
          exact congrArg (';' :: ' ' :: ·) (List.tail_eq_of_cons_eq hafter)
    rw [core, core, hparams.1]
    exact ⟨rfl, hparams.2⟩
  | _ => cases hword

theorem ReadsBack.parameter {t u : Ty} (ih : t.ReadsBack) (ht : t.Readable) (hu : u.Readable)
    {m n : Mode} {tag tag' : Nat} {role role' : Role} {r s : List Char}
    (hr : r.head? ≠ some '(') (hs : s.head? ≠ some '(')
    (h : (Ty.parameter tag role m t).text.toList ++ r =
      (Ty.parameter tag' role' n u).text.toList ++ s) : m = n ∧ t.core = u.core ∧ r = s := by
  cases m with
  | value =>
    cases n with
    | value => exact ⟨rfl, ih u r s hu hr hs h⟩
    | var => exact absurd h (ht.append_ne_var tag' role' u r s)
  | var =>
    cases n with
    | value => exact absurd h.symm (hu.append_ne_var tag role t s r)
    | var =>
      rw [text, text, String.toList_append, String.toList_append, List.append_assoc,
        List.append_assoc] at h
      exact ⟨rfl, ih u r s hu hr hs (List.append_cancel_left h)⟩

theorem RowReadsBack.nil : RowReadsBack [] := by
  intro qs r s _ h
  cases qs with
  | nil => exact ⟨rfl, List.append_cancel_left h⟩
  | cons q qs => cases h

theorem RowReadsBack.cons (tag : Nat) (role : Role) (mode : Mode) {t : Ty} {ts : List Ty}
    (ht : t.Readable) (ih : t.ReadsBack) (ihts : RowReadsBack ts) :
    RowReadsBack (.parameter tag role mode t :: ts) := by
  intro qs r s hqs h
  cases qs with
  | nil => cases h
  | cons q qs =>
    cases q with
    | parameter tag' role' mode' u =>
      rw [readableParams_cons_iff] at hqs
      have htail := List.tail_eq_of_cons_eq (List.tail_eq_of_cons_eq h)
      simp only [List.append_eq, List.append_assoc] at htail
      obtain ⟨hmode, hcore, hrow⟩ := ih.parameter ht hqs.1 (head?_row_append ts r)
        (head?_row_append qs s) htail
      obtain ⟨hcores, hrest⟩ := ihts qs r s hqs.2 hrow
      rw [coreParams, coreParams, hmode, hcore, hcores]
      exact ⟨rfl, hrest⟩
    | _ => cases hqs.plain

theorem Readable.readsBack {a : Ty} (h : a.Readable) : a.ReadsBack := by
  refine @Readable.induction ReadsBack RowReadsBack ?_ ?_ ?_ ?_ .nil ?_ a h
  . intro p
    apply Readable.readsBack_of_afterWord ⟨rfl, rfl⟩
    intro b r s _ _ _ hword hafter
    cases b <;> cases hword
    exact ⟨rfl, hafter⟩
  . intro sentinel
    apply Readable.readsBack_of_afterWord ⟨rfl, rfl⟩
    intro b r s _ _ _ hword hafter
    cases b <;> cases hword
    exact ⟨rfl, hafter⟩
  . exact fun tag _ h ih => .file tag h ih
  . exact fun tag _ h ih => .procedure tag h ih
  . exact fun tag role mode _ _ ht _ ih ihts => .cons tag role mode ht ih ihts

theorem Readable.text_core {a : Ty} (h : a.Readable) : a.core.text = a.text := by
  refine @Readable.induction (fun a => a.core.text = a.text)
    (fun ps => texts (coreParams ps) = texts ps) ?_ ?_ ?_ ?_ rfl ?_ a h
  . exact fun p => rfl
  . exact fun s => rfl
  . intro tag component _ ih
    rw [core, text, text, ih]
  . intro tag params _ ih
    rw [core, text, text, ih]
  . intro tag role mode t ts _ _ ih ihts
    rw [coreParams, texts, texts, ihts]
    cases mode with
    | value => rw [text, text, ih]
    | var => rw [text, text, ih]

theorem Readable.equiv_iff_text_eq {a b : Ty} (ha : a.Readable) (hb : b.Readable) :
    a.equiv b = true ↔ a.text = b.text := by
  rw [equiv_iff, and_iff_right hb.plain]
  constructor
  . intro hcore
    rw [← ha.text_core, hcore, hb.text_core]
  . intro htext
    have h : a.text.toList ++ [] = b.text.toList ++ [] := by rw [htext]
    exact (ha.readsBack b [] [] hb (by simp) (by simp) h).1

/-- No report says of the types `a` and `b` that one does not go with the other. -/
structure NeverOpposed (a b : Ty) : Prop where
  assignment : ∀ charLiteral, (judgeAssignment a b charLiteral).fault? ≠ some .mismatch
  result : ∀ function charLiteral,
    (judgeAssignment function a charLiteral).fault? ≠ some (.resultMismatch b)
  functionValue : ∀ function charLiteral,
    (judgeAssignment b function charLiteral).fault? ≠ some (.functionValueMismatch a)
  limit : ∀ scope limit control (value : Expr), (value.check scope).type = a →
    a.isInvalidConstant = false →
    checkLimit scope limit control b value = (value.check scope).findings
  argument : ∀ (arg : Argument) (formal : Ty) mode, arg.type = a →
    formal.parameter? = some (mode, b) → arg.mismatch? formal ≠ some .type
  comparison : ∀ op : BinaryOp, .notComparable ∉ (op.judge a b).faults

end Ty

structure AssignmentFault.Opposes (target value : Ty) (fault : AssignmentFault) : Prop where
  mismatch : fault = .mismatch → target.equiv value = false
  result : ∀ r, fault = .resultMismatch r → value.equiv r = false
  functionValue : ∀ r, fault = .functionValueMismatch r → target.equiv r = false

theorem judgeAssignment_opposes {target value : Ty} {charLiteral : Bool} {fault : AssignmentFault}
    (h : (judgeAssignment target value charLiteral).fault? = some fault) :
    fault.Opposes target value := by
  unfold judgeAssignment at h
  split at h
  . cases h
    exact ⟨nofun, nofun, nofun⟩
  . split at h
    . cases h
    . split at h
      . cases h
      next hassignable =>
        simp only [assignable, Bool.or_eq_true, not_or, Bool.not_eq_true] at hassignable
        split at h
        . cases h
          exact ⟨nofun, nofun, nofun⟩
        . split at h
          . cases h
          next hresult =>
            cases h
            simp only [Bool.or_eq_true, not_or, Bool.not_eq_true] at hresult
            refine ⟨nofun, ?_, nofun⟩
            rintro r ⟨⟩
            exact hresult.1
        . split at h
          . cases h
          next hresult =>
            cases h
            simp only [assignable, Bool.or_eq_true, not_or, Bool.not_eq_true] at hresult
            refine ⟨nofun, nofun, ?_⟩
            rintro r ⟨⟩
            exact hresult.1
        . cases h
          exact ⟨fun _ => hassignable.1, nofun, nofun⟩

namespace BinaryOp

theorem notComparable_not_mem_judgeLogical (left right : Ty) :
    .notComparable ∉ (judgeLogical left right).faults := by
  simp only [judgeLogical]
  split <;> split <;> simp

theorem notComparable_not_mem_judgeArithmetic (op : BinaryOp) (left right : Ty) :
    .notComparable ∉ (judgeArithmetic op left right).faults := by
  unfold judgeArithmetic
  split
  . simp
  . split
    . simp
    . split
      . dsimp only
        split <;> simp
      . dsimp only
        split <;> simp
      . simp
      . simp

theorem equiv_of_notComparable {op : BinaryOp} {left right : Ty}
    (h : .notComparable ∈ (op.judge left right).faults) : left.equiv right = false := by
  have hrelational (h : .notComparable ∈ (judgeRelational left right).faults) :
      left.equiv right = false := by
    unfold judgeRelational at h
    split at h
    . simp at h
    . split at h
      . simp at h
      . split at h
        . simp at h
        next hcomparable =>
          simp only [comparable, Bool.or_eq_true, not_or, Bool.not_eq_true] at hcomparable
          exact hcomparable.1.1
  unfold judge at h
  split at h
  . simp at h
  . split at h
    . simp at h
    . split at h
      . exact absurd h (notComparable_not_mem_judgeLogical left right)
      . exact absurd h (notComparable_not_mem_judgeLogical left right)
      . split at h
        . exact hrelational h
        . exact absurd h (notComparable_not_mem_judgeArithmetic op left right)
        . exact absurd h (notComparable_not_mem_judgeArithmetic op left right)

end BinaryOp

namespace Ty

theorem neverOpposed_of_equiv {a b : Ty} (hab : a.equiv b = true) (hba : b.equiv a = true) :
    a.NeverOpposed b where
  assignment charLiteral hfault := by
    have h := (judgeAssignment_opposes hfault).mismatch rfl
    rw [hab] at h
    cases h
  result function charLiteral hfault := by
    have h := (judgeAssignment_opposes hfault).result b rfl
    rw [hab] at h
    cases h
  functionValue function charLiteral hfault := by
    have h := (judgeAssignment_opposes hfault).functionValue a rfl
    rw [hba] at h
    cases h
  limit scope limit control value htype hvalid := by
    simp [checkLimit, htype, hvalid, hab]
  argument arg formal mode htype hformal := by
    simp only [Argument.mismatch?, hformal, htype, hba]
    split <;> simp
  comparison op hfault := by
    rw [BinaryOp.equiv_of_notComparable hfault] at hab
    cases hab

theorem text_identifies_plain {a b : Ty} (ha : a.equiv a = true) (hb : b.equiv b = true)
    (hfree : a.isFunctionFree = true) (hfree' : b.isFunctionFree = true) :
    (a.equiv b = true ↔ a.text = b.text) ∧ (a.text = b.text → a.NeverOpposed b) ∧
      ∀ tag role, a.text ≠ (Ty.parameter tag role .var b).text := by
  rw [equiv_self_iff] at ha hb
  have hreadable : a.Readable := ⟨ha, hfree⟩
  have hiff := hreadable.equiv_iff_text_eq ⟨hb, hfree'⟩
  refine ⟨hiff, ?_, ?_⟩
  . intro htext
    have hab := hiff.mpr htext
    exact neverOpposed_of_equiv hab (equiv_symm ha hab)
  . intro tag role htext
    apply hreadable.append_ne_var tag role b [] []
    rw [htext]

end Ty

namespace Sample

def nestedProcedure (tag : Nat) (mode : Mode) : Ty :=
  .procedure tag
    [.parameter (tag + 1) .formal .value
      (.file (tag + 2) (.procedure (tag + 3)
        [.parameter (tag + 4) .formal mode .integer, .parameter (tag + 5) .actual .value .real])),
     .parameter (tag + 6) .formal .value (.procedure (tag + 7) [])]

theorem nestedProcedure_told_by_text :
    (nestedProcedure 0 .var).text = "procedure(file of procedure(var integer; real); procedure)" ∧
    (nestedProcedure 0 .var).NeverOpposed (nestedProcedure 8 .var) ∧
    (nestedProcedure 0 .var).text ≠ (nestedProcedure 0 .value).text := by
  have hself (tag : Nat) (mode : Mode) :
      (nestedProcedure tag mode).equiv (nestedProcedure tag mode) = true := by
    cases mode <;> rfl
  have hfree (tag : Nat) (mode : Mode) : (nestedProcedure tag mode).isFunctionFree = true := by
    cases mode <;> rfl
  refine ⟨by decide, ?_, ?_⟩
  . have h := Ty.text_identifies_plain (hself 0 .var) (hself 8 .var) (hfree 0 .var) (hfree 8 .var)
    exact h.2.1 (h.1.mp rfl)
  . have h := Ty.text_identifies_plain (hself 0 .var) (hself 0 .value) (hfree 0 .var)
      (hfree 0 .value)
    rw [ne_eq, ← h.1]
    decide

end Sample

end PascalCheck
