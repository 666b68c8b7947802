/-
Digests of values, by construction.

Each kind of value has a tag, fed before the value's own content, so values of
different kinds do not digest alike by accident. A text is fed as one word
condensed from its bytes, then a byte that occurs in no encoded text; a record
is fed as its type, the number of its fields, and the fields in order. Equal
values have equal digests because the digest is a function of the value.
-/
import RecordPatterns.Digest
import RecordPatterns.Value.Basic

set_option autoImplicit false

namespace RecordPatterns.Value

/-- The tag of a kind of value. -/
def tag : Value → UInt64
  | null => 0
  | bool _ => 1
  | int _ => 2
  | text _ => 3
  | record .. => 4

mutual

/-- The state of a digest after a value was taken in. -/
def feed (state : UInt64) : Value → UInt64
  | null => Digest.feed state null.tag
  | bool b => Digest.feed (Digest.feed state (bool b).tag) (if b then 1 else 0)
  | int n => Digest.feed (Digest.feed state (int n).tag) n.toUInt64
  | text s =>
    Digest.feed
      (Digest.feed (Digest.feed state (text s).tag) (Digest.condense s.toUTF8.toList)) 0xff
  | record type fields =>
    feedAll
      (Digest.feed
        (Digest.feed (Digest.feed state (record type fields).tag) (UInt64.ofNat type.index))
        (UInt64.ofNat fields.length))
      fields

/-- The state of a digest after several values were taken in. -/
def feedAll (state : UInt64) : List Value → UInt64
  | [] => state
  | v :: rest => feedAll (v.feed state) rest

end

/-- The digest of a value. -/
def digest (v : Value) : UInt64 := Digest.finish (v.feed Digest.start)

end RecordPatterns.Value
