import SelectLang.Text.Bytes

/-!
# Spans

A span is the place of a piece of text in its source: the byte offsets of its first byte and of the
byte after its last.  A span built by hand may be reversed; such a span has no length and cuts
nothing out of any source.
-/

namespace SelectLang

/-- The half-open range of byte offsets from `start` to `stop`. -/
structure Span where
  start : Nat
  stop : Nat
  deriving DecidableEq, Repr

namespace Span

/-- The empty span at an offset. -/
def emptyAt (offset : Nat) : Span := ⟨offset, offset⟩

/-- The number of bytes in the span, unless it ends before it starts. -/
def length? (span : Span) : Option Nat :=
  if span.start ≤ span.stop then some (span.stop - span.start) else none

/-- The span holds no byte. -/
def isEmpty (span : Span) : Bool := span.start == span.stop

/-- The span moved to the right. -/
def shift (offset : Nat) (span : Span) : Span := ⟨span.start + offset, span.stop + offset⟩

/-- The piece of the source at the span, if its ends are ends of characters of the source. -/
def slice? (span : Span) (source : List Char) : Option (List Char) :=
  Text.sliceBytes span.start span.stop source

end Span

end SelectLang
