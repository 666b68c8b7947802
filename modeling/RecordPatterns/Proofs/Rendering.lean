/-
Different values are written differently.

Nothing in a written form says how long it is. Integers end where their digits
do, the fields of a record end somewhere between parentheses, where there may
be parentheses of other records, and a text may look like any of these. So the
statement that goes through the induction is about a written form with
something behind it, as it is for quoted texts: if two of these agree, then so
do the values, and so do the things behind them (`Value.chars_append_inj`).

What stands behind a value is nothing, or begins with one of four marks. No
word and no number contains a mark, so the head of a written form, which is
what stands before the first mark, can be told in any case, and it shows what
kind of value there is (`Value.head_rest_of_append_eq`). Only then does the
rest of the form come in: the body of a text, or the number of a type and the
fields of a record. Fields are compared with a separator before each of them,
the first one included, because then they can be taken off one by one.
-/
import Mathlib
import RecordPatterns.Proofs.Quoting
import RecordPatterns.Value.Printer

set_option autoImplicit false

namespace RecordPatterns

/-! ## Marks -/

namespace Text

/-- The characters at which words and numbers end. -/
def Mark (c : Char) : Prop := c = '"' ∨ c = ',' ∨ c = '(' ∨ c = ')'

instance (c : Char) : Decidable (Mark c) :=
  inferInstanceAs (Decidable (c = '"' ∨ c = ',' ∨ c = '(' ∨ c = ')'))

/-- Nothing, or something that begins with a mark. -/
def Delimits (s : List Char) : Prop := ∀ c ∈ s.head?, Mark c

/-- Nothing at all. -/
theorem delimits_nil : Delimits [] := by simp [Delimits]

/-- Something that begins with a mark. -/
theorem delimits_cons {c : Char} (hc : Mark c) (s : List Char) : Delimits (c :: s) := by
  rintro d hd
  rwa [← Option.some.inj hd]

/-- What has no marks in it is told from what follows it. -/
theorem append_inj_of_delimits {a b s t : List Char} (ha : ∀ c ∈ a, ¬ Mark c)
    (hb : ∀ c ∈ b, ¬ Mark c) (hs : Delimits s) (ht : Delimits t) (h : a ++ s = b ++ t) :
    a = b ∧ s = t :=
  append_inj_of_runs ha hb (fun c hc => not_not_intro (hs c hc))
    (fun c hc => not_not_intro (ht c hc)) h

/-- Natural numbers are written in decimal. -/
theorem toList_repr (k : Nat) : k.repr.toList = Nat.toDigits 10 k := by
  rw [Nat.repr_eq_ofList_toDigits, String.toList_ofList]

/-- Integers are written with digits and a sign. -/
theorem isDigit_or_minus_of_mem {n : Int} {c : Char} (h : c ∈ (toString n).toList) :
    c.isDigit = true ∨ c = '-' := by
  have hdigit : ∀ {k : Nat}, c ∈ k.repr.toList → c.isDigit = true := by
    intro k hmem
    rw [toList_repr] at hmem
    exact Nat.isDigit_of_mem_toDigits (by decide) (by decide) hmem
  rw [Int.toString_eq_repr, Int.repr_eq_if] at h
  split at h
  · exact .inl (hdigit h)
  · rw [String.toList_append] at h
    rcases List.mem_append.mp h with hsign | hmem
    · exact .inr (List.mem_singleton.mp hsign)
    · exact .inl (hdigit hmem)

/-- Something is written of every integer. -/
theorem toString_ne_nil (n : Int) : (toString n).toList ≠ [] := by
  rw [Int.toString_eq_repr, Int.repr_eq_if]
  split
  · rw [toList_repr]
    exact Nat.toDigits_ne_nil
  · simp

end Text

open Text

/-! ## Heads -/

/-- The words that type ids begin with. All nominal types have the same one. -/
inductive TypeId.Keyword where
  | object
  | int
  | bool
  | str
  | typeId
deriving DecidableEq

namespace Value

/-- The words that the written forms of values begin with. -/
inductive Word where
  | null
  | truth (b : Bool)
  | type (keyword : TypeId.Keyword)
deriving DecidableEq

namespace Word

/-- The text of a word. -/
def text : Word → String
  | null => "null"
  | truth true => "true"
  | truth false => "false"
  | type .object => "object"
  | type .int => "int"
  | type .bool => "bool"
  | type .str => "str"
  | type .typeId => "TypeId"

/-- The characters of a word. -/
def chars (w : Word) : List Char := w.text.toList

/-- There are so few words that they can be looked at one by one. -/
def all : List Word :=
  [ null, truth true, truth false, type .object, type .int, type .bool, type .str, type .typeId ]

/-- There are no others. -/
theorem mem_all (w : Word) : w ∈ all := by
  rcases w with _ | (_ | _) | (_ | _ | _ | _ | _) <;> decide

/-- No word contains a mark, or anything that an integer is written with. -/
theorem letters (w : Word) : ∀ c ∈ w.chars, ¬ Mark c ∧ c.isDigit = false ∧ c ≠ '-' := by
  have hall : ∀ w ∈ all,
      (w.chars.all fun c => !decide (Mark c) && !c.isDigit && c != '-') = true := by decide
  intro c hc
  simpa [and_assoc] using List.all_eq_true.mp (hall w w.mem_all) c hc

/-- There is something to see of each word. -/
theorem chars_ne_nil (w : Word) : w.chars ≠ [] := by
  have hall : ∀ w ∈ all, w.chars ≠ [] := by decide
  exact hall w w.mem_all

/-- Different words are written differently. -/
theorem chars_inj {v w : Word} (h : v.chars = w.chars) : v = w := by
  have hall : ∀ v ∈ all, ∀ w ∈ all, v.chars = w.chars → v = w := by decide
  exact hall v v.mem_all w w.mem_all h

end Word

/-- What the written form of a value begins with. -/
inductive Head where
  | word (w : Word)
  | number (n : Int64)
  /-- Nothing but the double quote that opens a text. -/
  | quoted

/-- What stands before the first mark. -/
def Head.chars : Head → List Char
  | word w => w.chars
  | number n => (toString n.toInt).toList
  | quoted => []

/-- An integer is never written like a word. -/
theorem Word.chars_ne_toString (w : Word) (n : Int) : w.chars ≠ (toString n).toList := by
  intro h
  obtain ⟨c, hc⟩ := List.exists_mem_of_ne_nil _ w.chars_ne_nil
  obtain ⟨-, hnodigit, hnosign⟩ := w.letters c hc
  rw [h] at hc
  rcases isDigit_or_minus_of_mem hc with hdigit | hsign
  · rw [hnodigit] at hdigit
    cases hdigit
  · exact hnosign hsign

namespace Head

/-- No head contains a mark. -/
theorem not_mark_of_mem (head : Head) : ∀ c ∈ head.chars, ¬ Mark c := by
  intro c hc
  cases head with
  | word w => exact (w.letters c hc).1
  | number n =>
    rcases isDigit_or_minus_of_mem hc with hdigit | rfl
    · rintro (rfl | rfl | rfl | rfl) <;> exact absurd hdigit (by decide)
    · decide
  | quoted => cases hc

/-- **Different heads are written differently.** -/
theorem chars_inj {head head' : Head} (h : head.chars = head'.chars) : head = head' := by
  cases head with
  | word w =>
    cases head' with
    | word w' => rw [Word.chars_inj h]
    | number n => exact absurd h (w.chars_ne_toString n.toInt)
    | quoted => exact absurd h w.chars_ne_nil
  | number n =>
    cases head' with
    | word w => exact absurd h.symm (w.chars_ne_toString n.toInt)
    | number n' =>
      rw [chars, chars, Int.toString_eq_repr, Int.toString_eq_repr] at h
      have hrepr : n.toInt = n'.toInt := Int.repr_inj.mp (String.toList_inj.mp h)
      rw [Int64.toInt_inj.mp hrepr]
    | quoted => exact absurd h (toString_ne_nil n.toInt)
  | quoted =>
    cases head' with
    | word w => exact absurd h.symm w.chars_ne_nil
    | number n => exact absurd h.symm (toString_ne_nil n.toInt)
    | quoted => rfl

end Head

end Value

/-! ## Type ids -/

namespace TypeId

/-- The word that a type id begins with. -/
def keyword : TypeId → Keyword
  | object => .object
  | int => .int
  | bool => .bool
  | text => .str
  | nominal _ => .typeId

/-- What stands behind it: a number in parentheses, for nominal types. -/
def number : TypeId → List Char
  | nominal position => '(' :: (Nat.toDigits 10 (position + 4) ++ [')'])
  | _ => []

/-- A type id is written as its word and its number. -/
theorem toList_render (ty : TypeId) :
    ty.render.toList = (Value.Word.type ty.keyword).chars ++ ty.number := by
  cases ty with
  | nominal position =>
    have hrender : (nominal position).render = "TypeId(" ++ toString (position + 4) ++ ")" := rfl
    rw [hrender, String.toList_append, String.toList_append, Nat.toString_eq_ofList_toDigits,
      String.toList_ofList]
    simp [keyword, number, Value.Word.chars, Value.Word.text]
  | _ => rfl

/-- **Ids of different types are told apart** before the fields of a record
begin. The number of a nominal type is closed by a parenthesis, and if there is
none, the fields are opened by one. -/
theorem number_append_inj {ty ty' : TypeId} {s t : List Char} (hword : ty.keyword = ty'.keyword)
    (h : ty.number ++ '(' :: s = ty'.number ++ '(' :: t) : ty = ty' ∧ s = t := by
  cases ty with
  | object => cases ty' with
    | object => exact ⟨rfl, (List.cons.inj h).2⟩
    | _ => cases hword
  | int => cases ty' with
    | int => exact ⟨rfl, (List.cons.inj h).2⟩
    | _ => cases hword
  | bool => cases ty' with
    | bool => exact ⟨rfl, (List.cons.inj h).2⟩
    | _ => cases hword
  | text => cases ty' with
    | text => exact ⟨rfl, (List.cons.inj h).2⟩
    | _ => cases hword
  | nominal position => cases ty' with
    | nominal position' =>
      have hdigits : ∀ n, ∀ c ∈ Nat.toDigits 10 n, c.isDigit = true :=
        fun n c hc => Nat.isDigit_of_mem_toDigits (by decide) (by decide) hc
      have hnumbers : Nat.toDigits 10 (position + 4) ++ ')' :: '(' :: s
          = Nat.toDigits 10 (position' + 4) ++ ')' :: '(' :: t := by
        simpa [number] using h
      obtain ⟨hnumber, hrest⟩ := append_inj_of_runs (hdigits _) (hdigits _)
        (by simp) (by simp) hnumbers
      have hposition : position + 4 = position' + 4 :=
        toDigits_inj (by decide) (by decide) hnumber
      rw [Nat.add_right_cancel hposition]
      exact ⟨rfl, (List.cons.inj (List.cons.inj hrest).2).2⟩
    | _ => cases hword

end TypeId

/-! ## Values -/

namespace Value

/-- What the written form of a value begins with. -/
def head : Value → Head
  | null => .word .null
  | bool b => .word (.truth b)
  | int n => .number n
  | text _ => .quoted
  | record type _ => .word (.type type.keyword)

/-- What stands behind the head. -/
def rest : Value → List Char
  | text s => quote s.toList
  | record type fields =>
    type.number ++ '(' :: (", ".toList.intercalate (charsAll fields) ++ [')'])
  | _ => []

/-- A value is written as its head and its rest. -/
theorem chars_eq (v : Value) : v.chars = v.head.chars ++ v.rest := by
  cases v with
  | null => rfl
  | bool b => cases b <;> rfl
  | int n => exact (List.append_nil _).symm
  | text s => rfl
  | record type fields =>
    have hchars : (record type fields).chars = type.render.toList
        ++ '(' :: (", ".toList.intercalate (charsAll fields) ++ [')']) := rfl
    rw [hchars, TypeId.toList_render, List.append_assoc]
    rfl

/-- The rest of a value, if there is any, begins with a mark. -/
theorem delimits_rest_append (v : Value) {s : List Char} (hs : Delimits s) :
    Delimits (v.rest ++ s) := by
  cases v with
  | text text => exact delimits_cons (by decide) _
  | record type fields =>
    cases type with
    | nominal position => exact delimits_cons (by decide) _
    | _ => exact delimits_cons (by decide) _
  | _ => exact hs

/-- **Heads are told apart**, and rests are what remains. -/
theorem head_rest_of_append_eq {a b : Value} {s t : List Char} (hs : Delimits s) (ht : Delimits t)
    (h : a.chars ++ s = b.chars ++ t) : a.head = b.head ∧ a.rest ++ s = b.rest ++ t := by
  rw [chars_eq, chars_eq, List.append_assoc, List.append_assoc] at h
  obtain ⟨hhead, hrest⟩ := append_inj_of_delimits a.head.not_mark_of_mem b.head.not_mark_of_mem
    (a.delimits_rest_append hs) (b.delimits_rest_append ht) h
  exact ⟨Head.chars_inj hhead, hrest⟩

/-- Fields as they are written, with a separator before each of them. -/
def separated (fields : List Value) : List Char :=
  fields.flatMap fun v => ", ".toList ++ v.chars

/-- One field more. -/
theorem separated_cons (v : Value) (fields : List Value) :
    separated (v :: fields) = ", ".toList ++ (v.chars ++ separated fields) := by
  rw [separated, List.flatMap_cons, List.append_assoc]
  rfl

/-- In a record, the first field has no separator before it. -/
theorem intercalate_charsAll_cons (v : Value) (fields : List Value) :
    ", ".toList.intercalate (charsAll (v :: fields)) = v.chars ++ separated fields := by
  induction fields generalizing v with
  | nil => simp [separated, charsAll]
  | cons w fields ih =>
    rw [separated_cons, ← ih w]
    simp only [charsAll, List.intercalate_cons_cons, List.append_assoc]

/-- The separated fields and what closes them begin with a mark. -/
theorem delimits_separated_append (fields : List Value) (s : List Char) :
    Delimits (separated fields ++ ')' :: s) := by
  cases fields with
  | nil => exact delimits_cons (by decide) _
  | cons v fields => exact delimits_cons (by decide) _

/-- No value begins with what closes a record. With no head at all it is a
text, which begins with a double quote. -/
theorem chars_append_ne (v : Value) {s : List Char} (hs : Delimits s) (t : List Char) :
    v.chars ++ s ≠ ')' :: t := by
  intro h
  rw [chars_eq, List.append_assoc, ← List.nil_append (')' :: t)] at h
  obtain ⟨hhead, hrest⟩ := append_inj_of_delimits v.head.not_mark_of_mem (by simp)
    (v.delimits_rest_append hs) (delimits_cons (by decide) t) h
  have hquoted : v.head = .quoted := Head.chars_inj hhead
  cases v with
  | text text => simp [rest, quote] at hrest
  | _ => cases hquoted

/-- If the fields of two records are written alike, they are so with the first
separator as well. Records with and without fields are not written alike. -/
theorem separated_append_eq {as bs : List Value} {s t : List Char}
    (h : ", ".toList.intercalate (charsAll as) ++ ')' :: s
      = ", ".toList.intercalate (charsAll bs) ++ ')' :: t) :
    separated as ++ ')' :: s = separated bs ++ ')' :: t := by
  cases as with
  | nil =>
    cases bs with
    | nil => exact h
    | cons b bs =>
      rw [intercalate_charsAll_cons, List.append_assoc] at h
      exact absurd h.symm (b.chars_append_ne (delimits_separated_append bs t) s)
  | cons a as =>
    cases bs with
    | nil =>
      rw [intercalate_charsAll_cons, List.append_assoc] at h
      exact absurd h (a.chars_append_ne (delimits_separated_append as s) t)
    | cons b bs =>
      rw [intercalate_charsAll_cons, intercalate_charsAll_cons, List.append_assoc,
        List.append_assoc] at h
      simp only [separated_cons, List.append_assoc, h]

/-! ## Unique reading -/

mutual

/-- **Values are told apart by their written forms**, whatever stands behind
them. The cases are those of the first value; its head leaves only one for the
second. -/
theorem chars_append_inj : ∀ {a b : Value} {s t : List Char}, Delimits s → Delimits t →
    a.chars ++ s = b.chars ++ t → a = b ∧ s = t
  | null, b, s, t, hs, ht, h => by
    obtain ⟨hhead, hrest⟩ := head_rest_of_append_eq hs ht h
    cases b with
    | null => exact ⟨rfl, hrest⟩
    | _ => cases hhead
  | bool x, b, s, t, hs, ht, h => by
    obtain ⟨hhead, hrest⟩ := head_rest_of_append_eq hs ht h
    cases b with
    | bool y =>
      cases hhead
      exact ⟨rfl, hrest⟩
    | _ => cases hhead
  | int m, b, s, t, hs, ht, h => by
    obtain ⟨hhead, hrest⟩ := head_rest_of_append_eq hs ht h
    cases b with
    | int n =>
      cases hhead
      exact ⟨rfl, hrest⟩
    | _ => cases hhead
  | text x, b, s, t, hs, ht, h => by
    obtain ⟨hhead, hrest⟩ := head_rest_of_append_eq hs ht h
    cases b with
    | text y =>
      obtain ⟨htext, hst⟩ := quote_append_inj hrest
      rw [String.toList_inj.mp htext]
      exact ⟨rfl, hst⟩
    | _ => cases hhead
  | record type fields, b, s, t, hs, ht, h => by
    obtain ⟨hhead, hrest⟩ := head_rest_of_append_eq hs ht h
    cases b with
    | record type' fields' =>
      have hkeyword : type.keyword = type'.keyword := by
        simpa [head] using hhead
      have htypes : type.number ++ '(' :: (", ".toList.intercalate (charsAll fields) ++ ')' :: s)
          = type'.number ++ '(' :: (", ".toList.intercalate (charsAll fields') ++ ')' :: t) := by
        simpa [rest] using hrest
      obtain ⟨rfl, hfields⟩ := TypeId.number_append_inj hkeyword htypes
      obtain ⟨rfl, hst⟩ := separated_append_inj (separated_append_eq hfields)
      exact ⟨rfl, hst⟩
    | _ => cases hhead

/-- **Fields are told apart one by one**, up to the end of the record. -/
theorem separated_append_inj : ∀ {as bs : List Value} {s t : List Char},
    separated as ++ ')' :: s = separated bs ++ ')' :: t → as = bs ∧ s = t
  | [], [], s, t, h => ⟨rfl, (List.cons.inj h).2⟩
  | [], b :: bs, s, t, h => by simp [separated] at h
  | a :: as, [], s, t, h => by simp [separated] at h
  | a :: as, b :: bs, s, t, h => by
    have hvalues : a.chars ++ (separated as ++ ')' :: s)
        = b.chars ++ (separated bs ++ ')' :: t) := by
      rw [separated_cons, separated_cons] at h
      simpa using h
    obtain ⟨rfl, hfields⟩ := chars_append_inj (delimits_separated_append as s)
      (delimits_separated_append bs t) hvalues
    obtain ⟨rfl, hst⟩ := separated_append_inj hfields
    exact ⟨rfl, hst⟩

end

/-- **Different values are written differently**: texts with whatever
characters in them, records of whatever types, nested as deep and with as many
fields as may be. -/
theorem render_inj {a b : Value} : a.render = b.render ↔ a = b := by
  constructor
  · intro h
    have hchars : a.chars = b.chars := String.ofList_inj.mp h
    rw [← List.append_nil a.chars, ← List.append_nil b.chars] at hchars
    exact (chars_append_inj delimits_nil delimits_nil hchars).1
  · intro h
    rw [h]

end Value

end RecordPatterns
