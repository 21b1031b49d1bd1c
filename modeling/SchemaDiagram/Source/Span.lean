import SchemaDiagram.Text.Basic

/-! # Spans

A span is a half-open stretch `[start, stop)` of offsets into a text. -/

namespace SchemaDiagram

/-- The offsets `start, …, stop - 1`. -/
structure Span where
  /-- The first offset of the span. -/
  start : Nat
  /-- The first offset after the span. -/
  stop : Nat
deriving DecidableEq, Repr

namespace Span

/-- How many characters the span covers. -/
def length (s : Span) : Nat := s.stop - s.start

/-- The characters of a text that the span covers. -/
def slice (s : Span) (text : Text) : Text := text.slice s.start s.stop

/-- The span moved by `by` places to the right. -/
def shift (s : Span) (offset : Nat) : Span := ⟨s.start + offset, s.stop + offset⟩

@[simp] theorem shift_zero (s : Span) : s.shift 0 = s := rfl

/-- An empty span covers nothing. -/
@[simp] theorem slice_empty (n : Nat) (text : Text) : (Span.mk n n).slice text = [] :=
  Text.slice_self text n

end Span

end SchemaDiagram
