/-!
# Ranges of bytes

The characters between two others, as the texts of bytes that spell them in UTF-8. A `ByteRange` is
a choice of one byte, and a list of them stands for the texts with one byte of each. The
characters of a range are the texts of finitely many such lists, `ByteRange.ofRange`: the range is
cut where the number of bytes changes and where a block of code points with a common beginning
starts or ends in the middle of the range.
-/

namespace Manifest

/-- The bytes from one to another, both included. -/
structure ByteRange where
  first : Nat
  last : Nat
deriving DecidableEq

namespace ByteRange

/-- The bytes of a character in UTF-8. -/
def bytes (c : Char) : List Nat :=
  (String.utf8EncodeChar c).map (·.toNat)

/-- The ranges of code points whose characters take equally many bytes, without the surrogates. -/
def sections : List (Nat × Nat) :=
  [(0, 0x7F), (0x80, 0x7FF), (0x800, 0xD7FF), (0xE000, 0xFFFF), (0x10000, 0x10FFFF)]

/-- Cuts a range of code points so that for each of the block sizes every piece lies inside a
block or is made up of whole blocks. -/
def cut : List Nat → Nat → Nat → List (Nat × Nat)
  | [], first, last => [(first, last)]
  | size :: sizes, first, last =>
    if first / size = last / size then [(first, last)]
    else
      let start := if first % size = 0 then first else (first / size + 1) * size
      let stop := if last % size = size - 1 then last + 1 else last / size * size
      let before := if first < start then [(first, start - 1)] else []
      let whole := if start < stop then cut sizes start (stop - 1) else []
      let behind := if stop ≤ last then [(stop, last)] else []
      before ++ whole ++ behind

/-- The lists of byte ranges for the characters between two code points, in order. -/
def ofRange (first last : Nat) : List (List ByteRange) :=
  sections.flatMap fun (low, high) =>
    let first := max first low
    let last := min last high
    if last < first then []
    else if high = 0x7F then [[⟨first, last⟩]]
    else
      (cut [0x40, 0x1000, 0x40000] first last).map fun (first, last) =>
        List.zipWith ByteRange.mk (bytes (Char.ofNat first)) (bytes (Char.ofNat last))

end ByteRange

end Manifest
