import Estree.Unicode.CodeSet

/-!
# The bytes of the characters of a set

The characters of a set, written in UTF-8, are described by sequences of ranges of bytes: a
character is in the set if its bytes are, one by one, in the ranges of one of the sequences.
-/

namespace Estree.Regex

open Unicode (CodeSet)

/-- The bytes of a character in UTF-8. -/
def utf8Bytes (c : Nat) : List Nat :=
  if c < 0x80 then [c]
  else if c < 0x800 then [0xC0 + c / 64, 0x80 + c % 64]
  else if c < 0x10000 then [0xE0 + c / 4096, 0x80 + c / 64 % 64, 0x80 + c % 64]
  else [0xF0 + c / 262144, 0x80 + c / 4096 % 64, 0x80 + c / 64 % 64, 0x80 + c % 64]

/-- Cut a range of code points in two after some points. -/
def cutAfter (points : List Nat) (ranges : List (Nat × Nat)) : List (Nat × Nat) :=
  points.foldl (fun ranges p => ranges.flatMap fun (lo, hi) =>
    if lo ≤ p && p < hi then [(lo, p), (p + 1, hi)] else [(lo, hi)]) ranges

/-- Cut a range where all but its ends run through whole blocks of `block` code points. Characters
of a single byte are not cut. -/
def cutBlocks (block : Nat) (r : Nat × Nat) : List (Nat × Nat) :=
  let (lo, hi) := r
  if hi < 0x80 || lo / block = hi / block then [r]
  else
    let first := if lo % block = 0 then [] else [lo / block * block + block - 1]
    let last := if hi % block = block - 1 then [] else [hi / block * block - 1]
    cutAfter (first ++ last) [r]

/-- The ranges of bytes, one after the other, that the characters of a set have. -/
def byteSequences (s : CodeSet) : List (List (Nat × Nat)) :=
  let whole := cutAfter [0x7F, 0x7FF, 0xD7FF, 0xDFFF, 0xFFFF] s.ranges
  let scalar := whole.filter fun r => !(0xD800 ≤ r.1 && r.2 ≤ 0xDFFF)
  let cut := ((scalar.flatMap (cutBlocks 64)).flatMap (cutBlocks 4096)).flatMap (cutBlocks 262144)
  cut.map fun (lo, hi) => (utf8Bytes lo).zip (utf8Bytes hi)

end Estree.Regex
