/-
A quoted text can be told apart from whatever follows it.

Written forms are put one after the other without any mark of their length, so
what matters is not only that different texts are written differently, but
that it shows from the characters themselves where a written form ends. The
lemmas have one shape for that: if a written form with something behind it is
another written form with something behind it, the two forms are of the same
thing, and the same stands behind them.

There are three levels. A character is written as itself, as a backslash with
one more character, or as a backslash with its code point, and the first two
characters tell which (`Escaped.append_inj`). A code point ends where its
digits end, at the brace (`append_inj_of_runs`). A text ends at the first
double quote that no backslash stands before, because none is written for a
character of the text (`escape_append_ne`).
-/
import Mathlib.Tactic.Common
import RecordPatterns.Text.Quoted

set_option autoImplicit false

namespace RecordPatterns.Text

/-! ## Runs of characters -/

/-- **Runs are told from what follows them.** If the characters of one kind go
as far as they can on both sides, they are the same ones. -/
theorem append_inj_of_runs {kind : Char → Prop} {a b s t : List Char} (ha : ∀ c ∈ a, kind c)
    (hb : ∀ c ∈ b, kind c) (hs : ∀ c ∈ s.head?, ¬ kind c) (ht : ∀ c ∈ t.head?, ¬ kind c)
    (h : a ++ s = b ++ t) : a = b ∧ s = t := by
  induction a generalizing b with
  | nil =>
    cases b with
    | nil => exact ⟨rfl, h⟩
    | cons d b =>
      have hhead : s.head? = some d := congrArg List.head? h
      exact absurd (hb d List.mem_cons_self) (hs d hhead)
  | cons c a ih =>
    cases b with
    | nil =>
      have hhead : t.head? = some c := congrArg List.head? h.symm
      exact absurd (ha c List.mem_cons_self) (ht c hhead)
    | cons d b =>
      obtain ⟨rfl, hrest⟩ := List.cons.inj h
      obtain ⟨rfl, hst⟩ := ih (List.forall_mem_cons.mp ha).2 (List.forall_mem_cons.mp hb).2 hrest
      exact ⟨rfl, hst⟩

/-! ## Digits -/

/-- What a number is written with are digits of its base. -/
theorem exists_digit_of_mem_toDigits {base n : Nat} (hbase : 1 < base) {c : Char}
    (h : c ∈ Nat.toDigits base n) : ∃ digit < base, c = digit.digitChar := by
  induction n using Nat.strongRecOn with
  | _ n ih =>
    rw [Nat.toDigits_eq_if hbase] at h
    split at h
    · next hlt => exact ⟨n, hlt, List.mem_singleton.mp h⟩
    · next hge =>
      rcases List.mem_append.mp h with hfront | hlast
      · exact ih (n / base) (Nat.div_lt_self (by omega) hbase) hfront
      · exact ⟨n % base, Nat.mod_lt _ (by omega), List.mem_singleton.mp hlast⟩

/-- Digits are different characters, as far as there are letters for them. -/
theorem digitChar_inj {m n : Nat} (hm : m < 16) (hn : n < 16) (h : m.digitChar = n.digitChar) :
    m = n := by
  have hall : ∀ m n : Fin 16, m.val.digitChar = n.val.digitChar → m = n := by decide
  exact congrArg Fin.val (hall ⟨m, hm⟩ ⟨n, hn⟩ h)

/-- A number of one digit is not written like one of more. -/
theorem lt_of_toDigits_eq {base m n : Nat} (hbase : 1 < base) (hm : m < base)
    (h : Nat.toDigits base m = Nat.toDigits base n) : n < base := by
  by_contra hn
  rw [Nat.toDigits_of_lt_base hm, Nat.toDigits_of_base_le hbase (Nat.le_of_not_lt hn)] at h
  have hlength := congrArg List.length h
  rw [List.length_append, List.length_singleton, List.length_singleton] at hlength
  have hfront : 0 < (Nat.toDigits base (n / base)).length := Nat.length_toDigits_pos
  omega

/-- **Numbers are known by their digits**, in every base that has a digit for
each remainder. -/
theorem toDigits_inj {base m n : Nat} (hbase : 1 < base) (hletters : base ≤ 16)
    (h : Nat.toDigits base m = Nat.toDigits base n) : m = n := by
  induction m using Nat.strongRecOn generalizing n with
  | _ m ih =>
    by_cases hm : m < base
    · have hn := lt_of_toDigits_eq hbase hm h
      rw [Nat.toDigits_of_lt_base hm, Nat.toDigits_of_lt_base hn] at h
      exact digitChar_inj (by omega) (by omega) (List.cons.inj h).1
    · have hn : ¬ n < base := fun hn => hm (lt_of_toDigits_eq hbase hn h.symm)
      rw [Nat.toDigits_of_base_le hbase (Nat.le_of_not_lt hm),
        Nat.toDigits_of_base_le hbase (Nat.le_of_not_lt hn)] at h
      obtain ⟨hfront, hlast⟩ := List.append_inj' h rfl
      have hdiv : m / base = n / base := ih (m / base) (Nat.div_lt_self (by omega) hbase) hfront
      have hmod : m % base = n % base := by
        have hm' := Nat.mod_lt m (show 0 < base by omega)
        have hn' := Nat.mod_lt n (show 0 < base by omega)
        exact digitChar_inj (by omega) (by omega) (List.cons.inj hlast).1
      rw [← Nat.div_add_mod m base, hdiv, hmod, Nat.div_add_mod]

/-- Hexadecimal digits up to the brace that closes them. -/
theorem toDigits_append_inj {m n : Nat} {s t : List Char}
    (h : Nat.toDigits 16 m ++ '\x7d' :: s = Nat.toDigits 16 n ++ '\x7d' :: t) :
    m = n ∧ s = t := by
  have hdigits : ∀ k, ∀ c ∈ Nat.toDigits 16 k, c ≠ '\x7d' := by
    rintro k _ hmem rfl
    obtain ⟨digit, hlt, hbrace⟩ := exists_digit_of_mem_toDigits (by decide) hmem
    have hnone : ∀ digit : Fin 16, '\x7d' ≠ digit.val.digitChar := by decide
    exact hnone ⟨digit, hlt⟩ hbrace
  obtain ⟨hcode, hrest⟩ := append_inj_of_runs (hdigits m) (hdigits n) (by simp) (by simp) h
  exact ⟨toDigits_inj (by decide) (by decide) hcode, (List.cons.inj hrest).2⟩

/-! ## Characters -/

/-- The character that is meant by this one behind a backslash. -/
def named : Char → Char
  | 'n' => '\n'
  | 'r' => '\r'
  | 't' => '\t'
  | '0' => '\x00'
  | c => c

/-- The ways of writing a character. -/
inductive Escaped : Char → List Char → Prop
  /-- As itself. -/
  | plain {c : Char} (hquote : c ≠ '"') (hbackslash : c ≠ '\\') : Escaped c [c]
  /-- By its short name. None of these is the letter that announces a code. -/
  | byName (name : Char) (hname : name ≠ 'u') : Escaped (named name) ['\\', name]
  | byCode (c : Char) : Escaped c (escapeByCode c)

/-- Every character is written in one of these ways. -/
theorem escaped_escape (c : Char) : Escaped c (escape c) := by
  unfold escape
  split_ifs with hquote hbackslash hnewline hreturn htab hnull hcode
  · rw [hquote]
    exact .byName '"' (by decide)
  · rw [hbackslash]
    exact .byName '\\' (by decide)
  · rw [hnewline]
    exact .byName 'n' (by decide)
  · rw [hreturn]
    exact .byName 'r' (by decide)
  · rw [htab]
    exact .byName 't' (by decide)
  · rw [hnull]
    exact .byName '0' (by decide)
  · exact .byCode c
  · exact .plain hquote hbackslash

/-- **A character is told from what follows it**, whatever way of writing it is
used on either side. -/
theorem Escaped.append_inj {c d : Char} {x y s t : List Char} (hc : Escaped c x)
    (hd : Escaped d y) (h : x ++ s = y ++ t) : c = d ∧ s = t := by
  cases hc with
  | plain hquote hbackslash =>
    cases hd with
    | plain => exact List.cons.inj h
    | byName => exact absurd (List.cons.inj h).1 hbackslash
    | byCode => exact absurd (List.cons.inj h).1 hbackslash
  | byName name hname =>
    cases hd with
    | plain hquote hbackslash => exact absurd (List.cons.inj h).1.symm hbackslash
    | byName name' hname' =>
      obtain ⟨rfl, hrest⟩ := List.cons.inj (List.cons.inj h).2
      exact ⟨rfl, hrest⟩
    | byCode => exact absurd (List.cons.inj (List.cons.inj h).2).1 hname
  | byCode c =>
    cases hd with
    | plain hquote hbackslash => exact absurd (List.cons.inj h).1.symm hbackslash
    | byName name' hname' => exact absurd (List.cons.inj (List.cons.inj h).2).1.symm hname'
    | byCode d =>
      -- both are codes, and differ at most between the braces
      have hcodes : Nat.toDigits 16 c.toNat ++ '\x7d' :: s
          = Nat.toDigits 16 d.toNat ++ '\x7d' :: t := by
        simpa [escapeByCode] using h
      obtain ⟨hcode, hrest⟩ := toDigits_append_inj hcodes
      exact ⟨Char.toNat_inj.mp hcode, hrest⟩

/-- A double quote stands for no character of a text. -/
theorem escape_append_ne (c : Char) (s t : List Char) : escape c ++ s ≠ '"' :: t := by
  intro h
  have hescaped := escaped_escape c
  generalize escape c = x at h hescaped
  cases hescaped with
  | plain hquote => exact hquote (List.cons.inj h).1
  | byName name => simp at h
  | byCode => simp [escapeByCode] at h

/-! ## Texts -/

/-- The characters of a text up to the double quote that closes it. -/
theorem flatMap_escape_append_inj : ∀ {a b s t : List Char},
    a.flatMap escape ++ '"' :: s = b.flatMap escape ++ '"' :: t → a = b ∧ s = t
  | [], [], s, t, h => ⟨rfl, (List.cons.inj h).2⟩
  | [], d :: b, s, t, h => by
    rw [List.flatMap_cons, List.append_assoc] at h
    exact absurd h.symm (escape_append_ne d _ s)
  | c :: a, [], s, t, h => by
    rw [List.flatMap_cons, List.append_assoc] at h
    exact absurd h (escape_append_ne c _ t)
  | c :: a, d :: b, s, t, h => by
    rw [List.flatMap_cons, List.flatMap_cons, List.append_assoc, List.append_assoc] at h
    obtain ⟨rfl, hrest⟩ := (escaped_escape c).append_inj (escaped_escape d) h
    obtain ⟨rfl, hst⟩ := flatMap_escape_append_inj hrest
    exact ⟨rfl, hst⟩

/-- **A quoted text is told from what follows it**, even if that looks like
part of a text. -/
theorem quote_append_inj {a b s t : List Char} (h : quote a ++ s = quote b ++ t) :
    a = b ∧ s = t := by
  have hbodies : a.flatMap escape ++ '"' :: s = b.flatMap escape ++ '"' :: t := by
    simpa [quote] using h
  exact flatMap_escape_append_inj hbodies

end RecordPatterns.Text
