import QueryGroup.Text.Ranges
set_option autoImplicit false

namespace QueryGroup.Pattern

open Text

structure ByteRange where
  low : UInt8
  high : UInt8
deriving DecidableEq, Repr

namespace ByteRange

/-- Cuts a range of characters behind one of them, if that does not end it. -/
def cutBehind (last : Nat) (range : Nat × Nat) : Ranges :=
  if range.1 ≤ last ∧ last < range.2 then [(range.1, last), (last + 1, range.2)] else [range]

def cutSurrogates (range : Nat × Nat) : Ranges :=
  if range.1 ≤ 0xD7FF ∧ 0xE000 ≤ range.2 then [(range.1, 0xD7FF), (0xE000, range.2)]
  else [range]

/-- Cuts a range beyond ASCII so that each part is within a block of the size or consists of
whole blocks. -/
def cutBlocks (size : Nat) (range : Nat × Nat) : Ranges :=
  let (first, last) := (range.1 / size * size, range.2 / size * size)
  if range.2 < 0x80 ∨ first = last then [range]
  else
    (if first < range.1 then cutBehind (first + size - 1) range else [range]).flatMap fun part =>
      if range.2 < last + size - 1 then cutBehind (last - 1) part else [part]

def encode (n : Nat) : List UInt8 := String.utf8EncodeChar (Char.ofNat n)

def sequences (range : Nat × Nat) : List (List ByteRange) :=
  let lengths := (cutSurrogates range).flatMap fun part =>
    (cutBehind 0x7F part).flatMap fun part =>
      (cutBehind 0x7FF part).flatMap (cutBehind 0xFFFF)
  let blocks := lengths.flatMap fun part =>
    (cutBlocks 64 part).flatMap fun part =>
      (cutBlocks 4096 part).flatMap (cutBlocks 262144)
  blocks.map fun part => List.zipWith ByteRange.mk (encode part.1) (encode part.2)

end ByteRange

end QueryGroup.Pattern
