import FieldSelect.Text.CharSet

/-! Characters as bytes, and sets of characters as sequences of ranges of bytes. -/
namespace FieldSelect
namespace Utf8

/-- Bytes between two, both included. -/
structure ByteRange where
  first : Nat
  last : Nat
  deriving DecidableEq

/-- The bytes of a code point: a leading one that tells their number, and six bits in each of the others. -/
def encode (point : Nat) : List Nat :=
  if point < 0x80 then [point]
  else if point < 0x800 then [0xC0 + point / 0x40, 0x80 + point % 0x40]
  else if point < 0x10000 then
    [0xE0 + point / 0x1000, 0x80 + point / 0x40 % 0x40, 0x80 + point % 0x40]
  else
    [0xF0 + point / 0x40000, 0x80 + point / 0x1000 % 0x40, 0x80 + point / 0x40 % 0x40,
     0x80 + point % 0x40]

/-- All code points that are characters. -/
def encodable : CharSet := ⟨[0, 0xD800, 0xE000, 0x110000]⟩

/-- The first and the last code points of the sequences of two, three and four bytes. -/
def longRuns : List (Nat × Nat) := [(0x80, 0x7FF), (0x800, 0xFFFF), (0x10000, 0x10FFFF)]

/-- The part of a range of code points that lies in another one. -/
def clip (range run : Nat × Nat) : List (Nat × Nat) :=
  let first := max range.1 run.1
  let last := min range.2 run.2
  if first ≤ last then [(first, last)] else []

/-- A range of code points that reaches over several blocks of one size: what lies in front of the first whole
block, the whole blocks, and what lies behind the last of them. -/
def cutBlocks (size : Nat) (range : Nat × Nat) : List (Nat × Nat) :=
  let (first, last) := range
  if first / size = last / size then [range]
  else
    let start := (first + size - 1) / size * size
    let stop := (last + 1) / size * size
    (if first < start then [(first, start - 1)] else []) ++
      (if start < stop then [(start, stop - 1)] else []) ++
      if stop ≤ last then [(stop, last)] else []

/-- Code points whose bytes number the same and differ in whole blocks only have independent bytes: each of them
runs through a range of its own. -/
def pieces (range : Nat × Nat) : List (Nat × Nat) :=
  clip range (0, 0x7F) ++
    (((longRuns.flatMap (clip range)).flatMap (cutBlocks 0x40)).flatMap (cutBlocks 0x1000)).flatMap
      (cutBlocks 0x40000)

/-- The sequences of bytes between those of the first and those of the last code point of a piece. -/
def byteRanges (piece : Nat × Nat) : List ByteRange :=
  (encode piece.1).zipWith ByteRange.mk (encode piece.2)

/-- The bytes of all characters of a set, in the order of their code points. -/
def sequences (set : CharSet) : List (List ByteRange) :=
  ((set.inter encodable).ranges.flatMap pieces).map byteRanges

end Utf8
end FieldSelect
