/-!
Places in a source text, and the number and place that every tree node and token carries.
-/

namespace PascalCheck

structure Position where
  line : Nat
  column : Nat
  deriving DecidableEq

namespace Position

instance : Ord Position where
  compare a b := (compare a.line b.line).then (compare a.column b.column)

def text (p : Position) : String :=
  s!"{p.line}:{p.column}"

end Position

structure Span where
  start : Position
  stop : Position
  deriving DecidableEq

namespace Span

def text (s : Span) : String :=
  s!"{s.start.text}-{s.stop.text}"

def point (line column : Nat) : Span :=
  ⟨⟨line, column⟩, ⟨line, column⟩⟩

end Span

structure Info where
  id : Nat
  span : Span
  deriving DecidableEq

structure Token (α : Type) where
  info : Info
  value : α

namespace Token

variable {α : Type}

def id (t : Token α) : Nat :=
  t.info.id

def span (t : Token α) : Span :=
  t.info.span

end Token

abbrev Name := Token String

end PascalCheck
