import Mathlib.Data.List.DropRight
import PascalCheck.Proofs.Numeral.Digits
import PascalCheck.Proofs.Outline.OneLine

/-!
Drawings read back. If no payload of an outline has a newline in it, the text between two newlines of
its drawing is the text of one line, and the class, the number and the place of the node can be read
off its beginning.
-/

namespace PascalCheck

structure Shown where
  label : String
  id : Nat
  start : Position
  deriving DecidableEq

def Landmark.shown (mark : Landmark) : Shown :=
  ⟨mark.nodeClass.label, mark.info.id, mark.info.span.start⟩

namespace Shown

def skip? (c : Char) : List Char → Option (List Char)
  | [] => none
  | d :: cs => if d = c then some cs else none

def number? (cs : List Char) : Option (Nat × List Char) :=
  let digits := cs.takeWhile Char.isDigit
  if digits.isEmpty then none
  else (Numeral.digitsValue? digits).map fun n => (n, cs.dropWhile Char.isDigit)

def read? (line : List Char) : Option Shown := do
  let cs := line.dropWhile fun c => !c.isAlpha
  let label := cs.takeWhile Char.isAlpha
  let cs ← skip? '[' (cs.dropWhile Char.isAlpha)
  let (id, cs) ← number? cs
  let cs ← skip? ']' cs
  let cs ← skip? ' ' cs
  let (line, cs) ← number? cs
  let cs ← skip? ':' cs
  let (column, _) ← number? cs
  return ⟨String.ofList label, id, ⟨line, column⟩⟩

theorem skip?_cons (c : Char) (cs : List Char) : skip? c (c :: cs) = some cs := by
  simp [skip?]

theorem number?_toDigits (n : Nat) {rest : List Char} (hrest : rest.takeWhile Char.isDigit = []) :
    number? (Nat.toDigits 10 n ++ rest) = some (n, rest) := by
  have hdigits : ∀ c ∈ Nat.toDigits 10 n, c.isDigit = true :=
    fun c hc => Nat.isDigit_of_mem_toDigits (by omega) (by omega) hc
  have hdrop : rest.dropWhile Char.isDigit = rest := by
    have hsplit := List.takeWhile_append_dropWhile (p := Char.isDigit) (l := rest)
    rw [hrest] at hsplit
    exact hsplit
  simp only [number?, List.takeWhile_append_of_pos hdigits, List.dropWhile_append_of_pos hdigits,
    hrest, hdrop, List.append_nil]
  rw [if_neg, Numeral.digitsValue?_of_isDigit hdigits, Nat.ofDigitChars_ten_toDigits]
  . rfl
  . simp [Nat.toDigits_ne_nil]

end Shown

namespace Text

theorem toList_trimEnd (s : String) : (trimEnd s).toList = s.toList.rdropWhile isSpace :=
  String.toList_ofList

theorem rdropWhile_append_of_not {α : Type} {p : α → Bool} {inner : List α} (hne : inner ≠ [])
    (h : p (inner.getLast hne) = false) (front back : List α) :
    (front ++ inner ++ back).rdropWhile p = front ++ inner ++ back.rdropWhile p := by
  induction back using List.reverseRecOn with
  | nil =>
    rw [List.append_nil, List.rdropWhile_nil, List.append_nil, List.rdropWhile_eq_self_iff]
    intro _
    rw [List.getLast_append_of_ne_nil _ hne, h]
    decide
  | append_singleton back x ih =>
    rw [← List.append_assoc, List.rdropWhile_concat, List.rdropWhile_concat, ih]
    split <;> simp

theorem isSpace_of_isDigit {c : Char} (h : c.isDigit = true) : isSpace c = false := by
  have hrange : 48 ≤ c.toNat ∧ c.toNat ≤ 57 := by
    simpa [Char.isDigit, UInt32.le_iff_toNat_le] using h
  simp only [isSpace, inRanges, spaceRanges, List.any_cons, List.any_nil, Bool.or_false,
    Bool.or_eq_false_iff, Bool.and_eq_false_iff, decide_eq_false_iff_not]
  omega

end Text

namespace NodeClass

theorem label_isWord (c : NodeClass) :
    c.label.toList ≠ [] ∧ ∀ l ∈ c.label.toList, l.isAlpha = true := by
  have hne : c.label.toList.isEmpty = false := by
    cases c <;> rfl
  have hword : c.label.toList.all Char.isAlpha = true := by
    cases c <;> rfl
  exact ⟨List.isEmpty_eq_false_iff.mp hne, List.all_eq_true.mp hword⟩

end NodeClass

namespace Line

def number (withIds : Bool) (line : Line) : List Char :=
  if withIds then '[' :: (Nat.toDigits 10 line.mark.info.id ++ [']']) else []

def ending (line : Line) : List Char :=
  (' ' :: line.payload.toList).rdropWhile Text.isSpace

theorem ending_eq (line : Line) : line.ending = [] ∨ ∃ rest, line.ending = ' ' :: rest := by
  cases hending : line.ending with
  | nil => exact .inl rfl
  | cons c rest =>
    have hstart : line.ending <+: ' ' :: line.payload.toList := List.rdropWhile_prefix _ _
    rw [hending, List.cons_prefix_cons] at hstart
    exact .inr ⟨rest, by rw [hstart.1]⟩

theorem toList_text (withIds : Bool) (line : Line) :
    (line.text withIds).toList = line.mark.nodeClass.label.toList ++ (line.number withIds ++
      ' ' :: (Nat.toDigits 10 line.mark.info.span.start.line ++
        ':' :: (Nat.toDigits 10 line.mark.info.span.start.column ++ line.ending))) := by
  have hliteral (s : String) : toString s = s := rfl
  have hnumber : (if withIds then s!"[{line.mark.info.id}]" else "").toList =
      line.number withIds := by
    cases withIds <;> simp [number, hliteral]
  -- The place ends with a digit, so no more than the payload can be trimmed.
  have hplace (n : Nat) : Nat.toDigits 10 n ≠ [] := Nat.toDigits_ne_nil
  have hdigit (n : Nat) : Text.isSpace ((Nat.toDigits 10 n).getLast (hplace n)) = false :=
    Text.isSpace_of_isDigit (Nat.isDigit_of_mem_toDigits (by omega) (by omega)
      (List.getLast_mem _))
  have htrim := Text.rdropWhile_append_of_not (hplace _) (hdigit line.mark.info.span.start.column)
    (line.mark.nodeClass.label.toList ++ line.number withIds ++
      ' ' :: (Nat.toDigits 10 line.mark.info.span.start.line ++ [':'])) (' ' :: line.payload.toList)
  simp only [List.append_assoc, List.cons_append, List.nil_append] at htrim
  rw [ending, ← htrim]
  simp only [text, Text.toList_trimEnd, String.toList_append, hnumber]
  simp [Position.text, hliteral]

theorem oneLine_text (withIds : Bool) {line : Line} (h : Text.OneLine line.payload) :
    '\n' ∉ (line.text withIds).toList := by
  have hlabel : '\n' ∉ line.mark.nodeClass.label.toList := by
    intro hmem
    cases line.mark.nodeClass.label_isWord.2 _ hmem
  have hdigits (n : Nat) : '\n' ∉ Nat.toDigits 10 n := by
    intro hmem
    cases Nat.isDigit_of_mem_toDigits (by omega) (by omega) hmem
  have hnumber : '\n' ∉ line.number withIds := by
    cases withIds <;> simp [number, hdigits]
  have hending : '\n' ∉ line.ending := by
    intro hmem
    have hmem := (List.rdropWhile_prefix _ _).subset hmem
    simp [show '\n' ∉ line.payload.toList from h] at hmem
  simp [toList_text, hlabel, hnumber, hdigits, hending]

end Line

namespace Outline

theorem margin_not_isAlpha (above : List Bool) :
    ∀ c ∈ (margin above).toList, c.isAlpha = false ∧ c ≠ '\n' := by
  fun_induction margin above with
  | case1 => simp
  | case2 => simp
  | case3 => simp
  | case4 above _ ih =>
    rw [String.toList_append, List.forall_mem_append]
    exact ⟨by simp, ih⟩
  | case5 above _ ih =>
    rw [String.toList_append, List.forall_mem_append]
    exact ⟨by simp, ih⟩

theorem read?_line (above : List Bool) (line : Line) :
    Shown.read? (margin above ++ line.text true).toList = some line.mark.shown := by
  have hmargin : ∀ c ∈ (margin above).toList, (!c.isAlpha) = true := by
    intro c hc
    rw [(margin_not_isAlpha above c hc).1]
    rfl
  -- There are no letters in the margin, so the label is the first word of the line.
  obtain ⟨hne, hlabel⟩ := line.mark.nodeClass.label_isWord
  obtain ⟨first, others, hfirst⟩ := List.exists_cons_of_ne_nil hne
  have hstart (rest : List Char) : (line.mark.nodeClass.label.toList ++ rest).dropWhile
      (fun c => !c.isAlpha) = line.mark.nodeClass.label.toList ++ rest := by
    rw [hfirst, List.cons_append, List.dropWhile_cons_of_neg]
    rw [hlabel first (hfirst ▸ List.mem_cons_self)]
    decide
  have hcolumn : line.ending.takeWhile Char.isDigit = [] := by
    obtain hending | ⟨rest, hending⟩ := line.ending_eq
    . rw [hending, List.takeWhile_nil]
    . rw [hending, List.takeWhile_cons_of_neg (by decide)]
  simp only [Shown.read?, String.toList_append, line.toList_text, Line.number, if_true,
    List.cons_append, List.append_assoc, List.nil_append, List.dropWhile_append_of_pos hmargin,
    hstart, List.takeWhile_append_of_pos hlabel, List.dropWhile_append_of_pos hlabel]
  simp [Shown.skip?_cons, Shown.number?_toDigits, hcolumn, Landmark.shown]

def marks (o : Outline) : List Landmark :=
  (o.lines []).map (·.2.mark)

theorem splitOn_lines {lines : List (List Char)} (h : ∀ l ∈ lines, '\n' ∉ l) :
    (lines.flatMap (· ++ ['\n'])).splitOn '\n' = lines ++ [[]] := by
  induction lines with
  | nil => rfl
  | cons l lines ih =>
    rw [List.forall_mem_cons] at h
    rw [List.flatMap_cons, List.append_assoc, List.singleton_append,
      List.splitOn_append_cons_self_of_not_mem h.1, ih h.2, List.cons_append]

theorem splitOn_draw (withIds : Bool) {o : Outline}
    (h : ∀ line ∈ o.lines [], Text.OneLine line.2.payload) :
    (o.draw withIds).toList.splitOn '\n' =
      ((o.lines []).map fun line => (margin line.1 ++ line.2.text withIds).toList) ++ [[]] := by
  have hdraw : (o.draw withIds).toList =
      ((o.lines []).map fun line => (margin line.1 ++ line.2.text withIds).toList).flatMap
        (· ++ ['\n']) := by
    simp [draw, String.toList_join, List.flatMap_map]
  rw [hdraw]
  apply splitOn_lines
  rw [List.forall_mem_map]
  intro line hline
  rw [String.toList_append, List.mem_append, not_or]
  exact ⟨fun hmem => (margin_not_isAlpha _ _ hmem).2 rfl, line.2.oneLine_text withIds (h line hline)⟩

theorem read?_draw {o : Outline} (h : ∀ line ∈ o.lines [], Text.OneLine line.2.payload) :
    ∃ lines, (o.draw true).toList.splitOn '\n' = lines ++ [[]] ∧
      lines.map Shown.read? = o.marks.map fun mark => some mark.shown := by
  refine ⟨_, splitOn_draw true h, ?_⟩
  rw [List.map_map, marks, List.map_map]
  apply List.map_congr_left
  intro line _
  apply read?_line

end Outline

end PascalCheck
