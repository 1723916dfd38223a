import PascalCheck.Proofs.Outline.Syntax
import PascalCheck.Proofs.Relabel.Types

/-!
Texts without a newline. Quoted text is one, whatever is quoted, and so is the text of every type; of
what an outline shows only the lexemes of numbers can have a newline in them.
-/

namespace PascalCheck

namespace Text

def OneLine (s : String) : Prop :=
  '\n' ∉ s.toList

instance (s : String) : Decidable (OneLine s) :=
  inferInstanceAs (Decidable ('\n' ∉ s.toList))

@[simp]
theorem oneLine_append (s t : String) : OneLine (s ++ t) ↔ OneLine s ∧ OneLine t := by
  simp [OneLine, not_or]

@[simp]
theorem oneLine_empty : OneLine "" := by
  decide

@[simp]
theorem oneLine_space : OneLine " " := by
  decide

theorem OneLine.intercalate {sep : String} (hsep : OneLine sep) {ts : List String}
    (hts : ∀ t ∈ ts, OneLine t) : OneLine (sep.intercalate ts) := by
  induction ts with
  | nil => simp
  | cons t ts ih =>
    rw [List.forall_mem_cons] at hts
    cases ts with
    | nil =>
      rw [String.intercalate_singleton]
      exact hts.1
    | cons u us =>
      rw [String.intercalate_cons_cons, oneLine_append, oneLine_append]
      exact ⟨⟨hts.1, hsep⟩, ih hts.2⟩

theorem newline_not_mem_toDigits {b : Nat} (hb : 1 < b) (n : Nat) : '\n' ∉ Nat.toDigits b n := by
  induction n using Nat.strongRecOn with
  | ind n ih =>
    rw [Nat.toDigits_eq_if hb]
    split
    . simp
    . have hlt : n / b < n := Nat.div_lt_self (by omega) hb
      simp [ih _ hlt]

theorem newline_not_mem_quoteChar (c : Char) : '\n' ∉ quoteChar c := by
  by_cases hnewline : c = '\n'
  . rw [hnewline]
    decide
  . unfold quoteChar
    repeat' split
    all_goals simp [newline_not_mem_toDigits, Ne.symm hnewline]

@[simp]
theorem oneLine_quote (s : String) : OneLine (quote s) := by
  simp [OneLine, quote, newline_not_mem_quoteChar]

@[simp]
theorem oneLine_quoteAll (texts : List String) : OneLine (quoteAll texts) := by
  have htexts : OneLine (", ".intercalate (texts.map quote)) := by
    apply OneLine.intercalate
    . decide
    . simp
  simp only [quoteAll, oneLine_append, htexts]
  decide

end Text

open Text (OneLine)

@[simp]
theorem Sign.oneLine_text (sign : Sign) : OneLine sign.text := by
  cases sign <;> decide

@[simp]
theorem UnaryOp.oneLine_text (op : UnaryOp) : OneLine op.text := by
  cases op <;> decide

@[simp]
theorem BinaryOp.oneLine_text (op : BinaryOp) : OneLine op.text := by
  cases op <;> decide

@[simp]
theorem Direction.oneLine_text (direction : Direction) : OneLine direction.text := by
  cases direction <;> decide

namespace Ty

theorem oneLine_paramsText {texts : List String} (h : ∀ t ∈ texts, OneLine t) :
    OneLine (paramsText texts) := by
  have htexts : OneLine ("; ".intercalate texts) := .intercalate (by decide) h
  unfold paramsText
  split
  . decide
  . simp only [Text.oneLine_append, htexts]
    decide

theorem oneLine_texts {ts : List Ty} (h : ∀ t ∈ ts, OneLine t.text) :
    ∀ text ∈ texts ts, OneLine text := by
  rw [texts_eq_map, List.forall_mem_map]
  exact h

@[simp]
theorem oneLine_text (t : Ty) : OneLine t.text := by
  induction t using Ty.induction with
  | primitive p => cases p <;> decide
  | sentinel s => cases s <;> decide
  | file tag component ih =>
    rw [text, Text.oneLine_append]
    exact ⟨by decide, ih⟩
  | parameter tag role mode type ih =>
    cases mode with
    | value =>
      rw [text]
      exact ih
    | var =>
      rw [text, Text.oneLine_append]
      exact ⟨by decide, ih⟩
  | procedure tag params ih =>
    rw [text, Text.oneLine_append]
    exact ⟨by decide, oneLine_paramsText (oneLine_texts ih)⟩
  | function tag params result ih ihresult =>
    simp only [text, Text.oneLine_append]
    exact ⟨⟨⟨by decide, oneLine_paramsText (oneLine_texts ih)⟩, by decide⟩, ihresult⟩
  | overload tag alternatives ih =>
    rw [text]
    exact .intercalate (by decide) (oneLine_texts ih)

end Ty

@[simp]
theorem Records.oneLine_typeText (records : Records) (id : Nat) :
    OneLine (records.typeText id) := by
  unfold typeText
  split
  . decide
  . split
    . decide
    . apply Ty.oneLine_text

@[simp]
theorem Outliner.oneLine_names (names : List Name) : OneLine (Outliner.names names) :=
  Text.oneLine_quoteAll _

@[simp]
theorem oneLine_assignmentPayload (records : Records) (info : Info) (target : Target)
    (value : Expr) : OneLine (assignmentPayload records info target value) := by
  simp only [assignmentPayload, Text.oneLine_append, Records.oneLine_typeText]
  split <;> decide

end PascalCheck
