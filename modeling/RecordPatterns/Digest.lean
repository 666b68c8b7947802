/-
Digests of words and bytes.

A digest is a 64-bit state that takes in words one after the other: the word
is added, and the sum multiplied by an odd constant, modulo two to the power
of sixty-four. A last rotation brings the well mixed upper bits down. Bytes
are condensed to one word first. They are read as little-endian words, in
blocks of sixteen with the last block counted from the end, and each block
goes through a product of full width whose two halves are folded together; a
string of at most sixteen bytes is read from both ends at once.
-/

set_option autoImplicit false

namespace RecordPatterns.Digest

/-- The bits of a word, moved up by some places, those that leave at the top
coming in at the bottom. For amounts between 1 and 63. -/
def rotateLeft (word amount : UInt64) : UInt64 :=
  (word <<< amount) ||| (word >>> (64 - amount))

/-- The state before anything was taken in. -/
def start : UInt64 := 0

/-- The state after one more word. -/
def feed (state word : UInt64) : UInt64 :=
  (state + word) * 0xf1357aea2e62a9c5

/-- The digest that a state stands for. -/
def finish (state : UInt64) : UInt64 := rotateLeft state 26

/-- The two halves of the full product, folded together. -/
def fold (a b : UInt64) : UInt64 :=
  let product := a.toNat * b.toNat
  UInt64.ofNat product ^^^ UInt64.ofNat (product >>> 64)

/-- The number whose bytes these are, the lowest first. -/
def littleEndian (bytes : List UInt8) : UInt64 :=
  bytes.foldr (fun byte higher => (higher <<< 8) ||| byte.toUInt64) 0

/-- The pair of words that the condensing of bytes begins with. -/
def seeds : UInt64 × UInt64 := (0x243f6a8885a308d3, 0x13198a2e03707344)

/-- Takes in blocks of sixteen bytes as long as more than sixteen are left. -/
def absorb (words : UInt64 × UInt64) (bytes : List UInt8) : UInt64 × UInt64 :=
  if 16 < bytes.length then
    let low := littleEndian (bytes.take 8)
    let high := littleEndian ((bytes.drop 8).take 8)
    absorb (words.2, fold (words.1 ^^^ low) (0xa4093822299f31d0 ^^^ high)) (bytes.drop 16)
  else words
termination_by bytes.length
decreasing_by simp only [List.length_drop]; omega

/-- The first and the last few of a string of bytes, as words. The two may
overlap. Strings of fewer than four bytes give their first byte, and their
middle byte with the last. -/
def ends (bytes : List UInt8) : UInt64 × UInt64 :=
  let count := bytes.length
  if 16 < count then
    (littleEndian ((bytes.drop (count - 16)).take 8), littleEndian (bytes.drop (count - 8)))
  else if 8 ≤ count then
    (littleEndian (bytes.take 8), littleEndian (bytes.drop (count - 8)))
  else if 4 ≤ count then
    (littleEndian (bytes.take 4), littleEndian (bytes.drop (count - 4)))
  else
    -- of one byte all three are the same byte, and of none all are absent
    (littleEndian (bytes.take 1),
      littleEndian ((bytes.drop (count / 2)).take 1 ++ bytes.drop (count - 1)))

/-- One word for a string of bytes. -/
def condense (bytes : List UInt8) : UInt64 :=
  let words := absorb seeds bytes
  let last := ends bytes
  fold (words.1 ^^^ last.1) (words.2 ^^^ last.2) ^^^ UInt64.ofNat bytes.length

end RecordPatterns.Digest
