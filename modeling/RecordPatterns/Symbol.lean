/-
Symbols: names of types, members and pattern variables, as numbers.

A symbol is a position in a symbol table, and a symbol table is a list of
texts in which no text occurs twice. Interning a text looks it up first and
only otherwise appends it, so a symbol, once handed out, keeps its text
however much the table grows, and equal symbols of one table stand for equal
texts. Four texts are there from the start: the empty one, and the names of
the three members that a record may supply itself instead of having them
synthesized.
-/

set_option autoImplicit false

namespace RecordPatterns

/-- A name, as a position in a symbol table. -/
structure Symbol where
  index : Nat
deriving DecidableEq

namespace Symbol

/-- The symbol of the empty text. -/
def empty : Symbol := ⟨0⟩

/-- The symbol of the member that overrides equality. -/
def equals : Symbol := ⟨1⟩

/-- The symbol of the member that overrides hashing. -/
def hash : Symbol := ⟨2⟩

/-- The symbol under which deconstructors are usually declared. -/
def deconstruct : Symbol := ⟨3⟩

/-- Symbols are ordered by position, that is, by when they were interned. -/
instance : LT Symbol := ⟨fun a b => a.index < b.index⟩

instance (a b : Symbol) : Decidable (a < b) := inferInstanceAs (Decidable (a.index < b.index))

/-- The written form of a symbol shows its position, not its text. -/
def render (s : Symbol) : String := s!"Name({s.index})"

end Symbol

/-- The texts interned so far; a symbol is a position in them. -/
structure SymbolTable where
  texts : Array String
deriving DecidableEq

namespace SymbolTable

/-- The table every run begins with. -/
def fresh : SymbolTable := ⟨#["", "equals", "hash", "Match"]⟩

/-- The text of a symbol. A symbol that this table never handed out reads as
the empty text. -/
def text (t : SymbolTable) (s : Symbol) : String := t.texts[s.index]?.getD ""

/-- The symbol of a text that is already interned. -/
def find? (t : SymbolTable) (s : String) : Option Symbol :=
  (t.texts.idxOf? s).map Symbol.mk

/-- The symbol of a text, with the table that knows it: the same table when
the text was known, and otherwise one entry more. -/
def intern (t : SymbolTable) (s : String) : Symbol × SymbolTable :=
  match t.find? s with
  | some known => (known, t)
  | none => (⟨t.texts.size⟩, ⟨t.texts.push s⟩)

/-- The number of texts interned, the empty one among them. -/
def size (t : SymbolTable) : Nat := t.texts.size

/-- A table counts as empty while it holds nothing but the empty text. -/
def isEmpty (t : SymbolTable) : Bool := t.size ≤ 1

/-- The written form of a table shows its size only. -/
def render (t : SymbolTable) : String := s!"StringInterner \x7b len: {t.size} \x7d"

end SymbolTable

end RecordPatterns
