/-
What a change inside a record does to its hash.

The hash of a record mixes the hashes of its members into a seed, one after
the other. A mixing step rotates what there was, takes the bitwise difference
with the member's hash, and multiplies, and none of the three loses anything.
A rotation is undone by rotating on, the difference by taking it again, and
the multiplication by an inverse of the multiplier, which has one modulo two
to the power of sixty-four because it is odd. So a step is a bijection in the
running hash and in the member's hash (`Equality.bijective_combine_running`,
`Equality.bijective_combine_member`), and of two folds that differ in a single
member the difference survives whatever is mixed in before and after.

From this follows what can be said of values (`hash_keeps_differences`): if
one value inside another is exchanged, however deep, the hash of the whole
changes exactly if that of the part does. The induction is on the path to the
part. What the theorem does not say is that different parts have different
hashes; they are single words, and collide where their digests do.
-/
import RecordPatterns.Proofs.Representation

set_option autoImplicit false

namespace RecordPatterns

/-! ## Rotations -/

namespace Digest

/-- The bits of a rotated word are those of the word, further round. -/
theorem getLsbD_rotateLeft (word : UInt64) {amount : UInt64} (hpos : 0 < amount.toNat)
    (hlt : amount.toNat < 64) {i : Nat} (hi : i < 64) :
    (rotateLeft word amount).toBitVec.getLsbD i
      = word.toBitVec.getLsbD ((i + (64 - amount.toNat)) % 64) := by
  have hback : (64 - amount).toNat = 64 - amount.toNat := by
    rw [UInt64.toNat_sub_of_le _ _ (UInt64.le_iff_toNat_le.mpr (Nat.le_of_lt hlt))]
    rfl
  -- shifts take their amount modulo the width, which changes neither of the two amounts
  have hleft : (amount.toBitVec % 64).toNat = amount.toNat := by
    rw [BitVec.toNat_umod]
    exact Nat.mod_eq_of_lt hlt
  have hright : ((64 - amount).toBitVec % 64).toNat = 64 - amount.toNat := by
    rw [BitVec.toNat_umod, UInt64.toNat_toBitVec, hback]
    show (64 - amount.toNat) % 64 = 64 - amount.toNat
    omega
  rw [rotateLeft, UInt64.toBitVec_or, UInt64.toBitVec_shiftLeft, UInt64.toBitVec_shiftRight,
    BitVec.getLsbD_or, BitVec.shiftLeft_eq', BitVec.ushiftRight_eq', hleft, hright,
    BitVec.getLsbD_shiftLeft, BitVec.getLsbD_ushiftRight]
  by_cases hlow : i < amount.toNat
  · have hwrap : (i + (64 - amount.toNat)) % 64 = 64 - amount.toNat + i := by omega
    simp [hlow, hwrap]
  · have hwrap : (i + (64 - amount.toNat)) % 64 = i - amount.toNat := by omega
    have hout : word.toBitVec.getLsbD (64 - amount.toNat + i) = false :=
      BitVec.getLsbD_of_ge _ _ (by omega)
    simp [hlow, hwrap, hout, hi]

/-- Two rotations that come full circle change nothing. -/
theorem rotateLeft_rotateLeft (word : UInt64) {amount rest : UInt64} (hamount : 0 < amount.toNat)
    (hrest : 0 < rest.toNat) (hcircle : amount.toNat + rest.toNat = 64) :
    rotateLeft (rotateLeft word amount) rest = word := by
  apply UInt64.toBitVec_inj.mp
  apply BitVec.eq_of_getLsbD_eq
  intro i hi
  rw [getLsbD_rotateLeft _ hrest (by omega) hi,
    getLsbD_rotateLeft _ hamount (by omega) (Nat.mod_lt _ (by decide))]
  congr 1
  omega

end Digest

/-! ## Mixing -/

namespace Equality

/-- What the multiplier is cancelled by. -/
def multiplierInverse : UInt64 := 0x2040003d780970bd

/-- The multiplier is odd, and so has an inverse. -/
theorem multiplier_mul_inverse : multiplier * multiplierInverse = 1 := by decide

/-- Multiplying and cancelling. -/
theorem mul_multiplier_cancel (word : UInt64) : word * multiplier * multiplierInverse = word := by
  rw [UInt64.mul_assoc, multiplier_mul_inverse, UInt64.mul_one]

/-- Cancelling and multiplying. -/
theorem mul_inverse_cancel (word : UInt64) : word * multiplierInverse * multiplier = word := by
  rw [UInt64.mul_assoc, UInt64.mul_comm multiplierInverse, multiplier_mul_inverse, UInt64.mul_one]

/-- **A mixing step is a bijection in the running hash.** -/
theorem bijective_combine_running (member : UInt64) :
    Function.Bijective fun running => combine running member := by
  refine Function.bijective_iff_has_inverse.mpr
    ⟨fun word => Digest.rotateLeft (word * multiplierInverse ^^^ member) 59, ?_, ?_⟩
  · intro running
    simp only [combine, mul_multiplier_cancel]
    rw [UInt64.xor_assoc, UInt64.xor_self, UInt64.xor_zero]
    exact Digest.rotateLeft_rotateLeft running (by decide) (by decide) (by decide)
  · intro word
    simp only [combine]
    rw [Digest.rotateLeft_rotateLeft _ (by decide) (by decide) (by decide), UInt64.xor_assoc,
      UInt64.xor_self, UInt64.xor_zero, mul_inverse_cancel]

/-- **A mixing step is a bijection in the member's hash.** -/
theorem bijective_combine_member (running : UInt64) : Function.Bijective (combine running) := by
  refine Function.bijective_iff_has_inverse.mpr
    ⟨fun word => Digest.rotateLeft running 5 ^^^ word * multiplierInverse, ?_, ?_⟩
  · intro member
    simp only [combine, mul_multiplier_cancel]
    rw [← UInt64.xor_assoc, UInt64.xor_self, UInt64.zero_xor]
  · intro word
    simp only [combine]
    rw [← UInt64.xor_assoc, UInt64.xor_self, UInt64.zero_xor, mul_inverse_cancel]

/-- What is mixed in later does not cover up a difference. -/
theorem injective_foldl_combine (codes : List UInt64) :
    Function.Injective fun running => codes.foldl combine running := by
  induction codes with
  | nil => exact Function.injective_id
  | cons code rest ih => exact ih.comp (bijective_combine_running code).injective

/-- Two folds that differ at most in the word at one position. -/
theorem foldl_combine_set_inj {codes : List UInt64} {first second : UInt64} :
    ∀ {position : Nat} {running : UInt64}, position < codes.length →
      ((codes.set position first).foldl combine running
          = (codes.set position second).foldl combine running ↔ first = second) := by
  induction codes with
  | nil => exact fun hlt => absurd hlt (Nat.not_lt_zero _)
  | cons code rest ih =>
    intro position running hlt
    cases position with
    | zero =>
      simp only [List.set_cons_zero, List.foldl_cons]
      rw [(injective_foldl_combine rest).eq_iff, (bijective_combine_member running).injective.eq_iff]
    | succ position =>
      simp only [List.set_cons_succ, List.foldl_cons]
      exact ih (Nat.lt_of_succ_lt_succ hlt)

end Equality

/-! ## Values inside values -/

namespace Value

/-- The value that a path of field positions leads to. -/
def at? (v : Value) : List Nat → Option Value
  | [] => some v
  | position :: path => (v.field? position).bind fun field => field.at? path

/-- The value with another one where a path leads to. A path that leads nowhere
changes nothing. -/
def replace : Value → List Nat → Value → Value
  | _, [], new => new
  | record ty fields, position :: path, new =>
    record ty (fields.modify position fun field => field.replace path new)
  | v, _ :: _, _ => v

/-- A path of at least one position leads into a record. -/
theorem at?_cons_eq_some_iff {position : Nat} {path : List Nat} {v old : Value} :
    v.at? (position :: path) = some old ↔ ∃ ty fields field, v = record ty fields
      ∧ fields[position]? = some field ∧ field.at? path = some old := by
  rw [at?, Option.bind_eq_some_iff]
  constructor
  · rintro ⟨field, hfield, hat⟩
    cases v with
    | record ty fields => exact ⟨ty, fields, field, rfl, hfield, hat⟩
    | _ => cases hfield
  · rintro ⟨ty, fields, field, rfl, hfield, hat⟩
    exact ⟨field, hfield, hat⟩

/-- What was put at the end of a path is there. -/
theorem at?_replace {new : Value} : ∀ {path : List Nat} {v old : Value}, v.at? path = some old →
    (v.replace path new).at? path = some new := by
  intro path
  induction path with
  | nil => exact fun _ => rfl
  | cons position path ih =>
    intro v old hat
    obtain ⟨ty, fields, field, rfl, hfield, hat⟩ := at?_cons_eq_some_iff.mp hat
    refine at?_cons_eq_some_iff.mpr ⟨ty, _, field.replace path new, rfl, ?_, ih hat⟩
    rw [List.getElem?_modify_eq, hfield]
    rfl

end Value

namespace Run

/-- Folding the hashes of members that need no asking. -/
theorem foldHash_eq_foldl {hash : Symbol → Run (Option UInt64)} {names : List Symbol}
    {codes : List UInt64}
    (h : List.Forall₂ (fun name code => hash name = .done (some code)) names codes) :
    ∀ running : UInt64, foldHash hash running names
      = .done (some (codes.foldl Equality.combine running)) := by
  induction h with
  | nil => exact fun running => rfl
  | cons hname _ ih =>
    intro running
    rw [foldHash, hname, Dialogue.done_bind]
    exact ih _

end Run

namespace Registry

variable {r : Registry} {ty : TypeId} {info : RecordInfo} {v : Value} {fields : List Value}
  {code : UInt64} {codes : List UInt64}

/-- A well-formed value is complete. -/
theorem WellFormed.complete (h : r.WellFormed v) : r.Complete v := by
  induction h with
  | null => exact .null
  | bool b => exact .bool b
  | int n => exact .int n
  | text s => exact .text s
  | record declared fit _ ih => exact .record declared fit.length_eq.symm ih

/-- What is inside a complete value is complete. -/
theorem Complete.at? {old : Value} : ∀ {path : List Nat} {v : Value}, r.Complete v →
    v.at? path = some old → r.Complete old := by
  intro path
  induction path with
  | nil =>
    intro v hv hat
    cases hat
    exact hv
  | cons position path ih =>
    intro v hv hat
    obtain ⟨ty, fields, field, rfl, hfield, hat⟩ := Value.at?_cons_eq_some_iff.mp hat
    obtain _ | _ | _ | _ | ⟨-, -, hinside⟩ := hv
    exact ih (hinside field (List.mem_of_getElem? hfield)) hat

/-! ## Hashes that nobody is asked for -/

/-- A value has a hash if this is what it comes to, at every depth that
suffices for the value, and the host is not asked. -/
def HasHash (r : Registry) (v : Value) (code : UInt64) : Prop :=
  ∀ depth, v.nesting ≤ depth → r.hash depth v = .done (some code)

/-- There is no other hash. -/
theorem HasHash.unique {other : UInt64} (h : r.HasHash v code) (h' : r.HasHash v other) :
    code = other := by
  have heq := (h v.nesting (Nat.le_refl _)).symm.trans (h' v.nesting (Nat.le_refl _))
  simpa using heq

/-- Every complete value has one. -/
theorem Coherent.exists_hasHash (h : r.Coherent) (hstructural : r.Structural)
    (hv : r.Complete v) : ∃ code, r.HasHash v code := by
  obtain ⟨code, hcode⟩ := h.exists_hash_eq_done hstructural hv (Nat.le_refl v.nesting)
  refine ⟨code, fun depth hdepth => ?_⟩
  have happroximates := r.hash_approximates hdepth v
  rw [hcode] at happroximates
  exact happroximates.eq_done

/-- Hashes of several values at once. -/
theorem Coherent.exists_hasHash_all (h : r.Coherent) (hstructural : r.Structural) :
    ∀ {values : List Value}, (∀ v ∈ values, r.Complete v) →
      ∃ codes, List.Forall₂ r.HasHash values codes := by
  intro values
  induction values with
  | nil => exact fun _ => ⟨[], .nil⟩
  | cons v rest ih =>
    intro hall
    obtain ⟨hv, hrest⟩ := List.forall_mem_cons.mp hall
    obtain ⟨code, hcode⟩ := h.exists_hasHash hstructural hv
    obtain ⟨codes, hcodes⟩ := ih hrest
    exact ⟨code :: codes, .cons hcode hcodes⟩

/-- **The hash of a record** mixes those of its fields into the seed. -/
theorem Coherent.hasHash_record (h : r.Coherent) (hstructural : r.Structural)
    (hinfo : r.info? ty = some info) (hfull : fields.length = info.members.components.length)
    (hcodes : List.Forall₂ r.HasHash fields codes) :
    r.HasHash (.record ty fields) (codes.foldl Equality.combine Equality.seed) := by
  intro depth hdepth
  rw [Value.nesting] at hdepth
  obtain ⟨m, rfl⟩ : ∃ m, depth = m + 1 := ⟨depth - 1, by omega⟩
  rw [hash_eq, h.equality?_eq hstructural.synthesized hinfo]
  refine Run.foldHash_eq_foldl (List.forall₂_iff_get.mpr ⟨?_, fun i hname hcode => ?_⟩) _
  · rw [List.length_map, ← hfull, hcodes.length_eq]
  · have hlt : i < fields.length := by
      rw [hcodes.length_eq]
      exact hcode
    rw [List.get_eq_getElem, h.read_eq_field hstructural hinfo (List.getElem?_eq_getElem hname)
      (List.getElem?_eq_getElem hlt), Dialogue.done_bind]
    -- the field has its hash at every depth that suffices for it, and this one does
    have hwithin : fields[i].nesting ≤ Value.nestingAll fields :=
      Value.nesting_le_nestingAll (List.getElem_mem hlt)
    have hsuffices : fields[i].nesting ≤ m := by omega
    exact hcodes.get hlt hcode m hsuffices

/-! ## One value exchanged for another -/

/-- Hashes of fields of which one was exchanged. -/
theorem forall₂_modify_set {change : Value → Value} (h : List.Forall₂ r.HasHash fields codes) :
    ∀ {position : Nat} {field : Value}, fields[position]? = some field →
      r.HasHash (change field) code →
      List.Forall₂ r.HasHash (fields.modify position change) (codes.set position code) := by
  induction h with
  | nil => simp
  | cons hfirst hrest ih =>
    intro position field hfield hcode
    cases position with
    | zero =>
      cases hfield
      exact .cons hcode hrest
    | succ position => exact .cons hfirst (ih hfield hcode)

/-- **Along a path**: the hashes of two values that differ at most where the
path leads to are equal exactly if those of the values there are. -/
theorem Coherent.hash_replace_inj (h : r.Coherent) (hstructural : r.Structural) {old new : Value}
    {oldCode newCode : UInt64} (hold : r.HasHash old oldCode) (hnew : r.HasHash new newCode) :
    ∀ {path : List Nat} {v : Value} {code code' : UInt64}, r.Complete v →
      r.Complete (v.replace path new) → v.at? path = some old → r.HasHash v code →
      r.HasHash (v.replace path new) code' → (code = code' ↔ oldCode = newCode) := by
  intro path
  induction path with
  | nil =>
    intro v code code' _ _ hat hcode hcode'
    cases hat
    rw [hcode.unique hold, hcode'.unique hnew]
  | cons position path ih =>
    intro v code code' hv hreplaced hat hcode hcode'
    obtain ⟨ty, fields, field, rfl, hfield, hat⟩ := Value.at?_cons_eq_some_iff.mp hat
    obtain _ | _ | _ | _ | ⟨hinfo, hfull, hinside⟩ := hv
    obtain _ | _ | _ | _ | ⟨hinfo', hfull', hinside'⟩ := hreplaced
    cases hinfo.symm.trans hinfo'
    -- the field that the path goes through, before and after
    have hbefore : r.Complete field := hinside field (List.mem_of_getElem? hfield)
    have hafter : r.Complete (field.replace path new) := by
      refine hinside' _ (List.mem_of_getElem? (i := position) ?_)
      rw [List.getElem?_modify_eq, hfield]
      rfl
    obtain ⟨codes, hcodes⟩ := h.exists_hasHash_all hstructural hinside
    obtain ⟨changed, hchanged⟩ := h.exists_hasHash hstructural hafter
    obtain ⟨hlt, rfl⟩ := List.getElem?_eq_some_iff.mp hfield
    have hposition : position < codes.length := hcodes.length_eq ▸ hlt
    have hunchanged : r.HasHash fields[position] codes[position] := hcodes.get hlt hposition
    -- both records hash as a fold, over lists that differ at most at this position
    have hwhole : code = (codes.set position codes[position]).foldl Equality.combine
        Equality.seed := by
      rw [List.set_getElem_self]
      exact hcode.unique (h.hasHash_record hstructural hinfo hfull hcodes)
    have hwhole' : code' = (codes.set position changed).foldl Equality.combine
        Equality.seed :=
      hcode'.unique
        (h.hasHash_record hstructural hinfo hfull' (forall₂_modify_set hcodes hfield hchanged))
    rw [hwhole, hwhole', Equality.foldl_combine_set_inj hposition]
    exact ih hbefore hafter hat hunchanged hchanged

/-- **The hash of a value keeps every single difference.** A mixing step is a
bijection in the running hash and in the member's hash. Take a reachable
registry in which equality and hashing are synthesized for all records, and no
getter with a body stands in the place of a component, and exchange one value
inside another, at the end of any path, both being complete before and after.
Then all four values have a hash, at every depth that suffices for them and
without a question to the host, and the hash of the whole stays the same if
and only if the hash of the exchanged value does. -/
theorem hash_keeps_differences (hreachable : r.Reachable) (hstructural : r.Structural) :
    (∀ member, Function.Bijective fun running => Equality.combine running member)
      ∧ (∀ running, Function.Bijective (Equality.combine running))
      ∧ ∀ (v old new : Value) (path : List Nat), v.at? path = some old → r.Complete v →
        r.Complete (v.replace path new) →
        ∃ code code' oldCode newCode, r.HasHash v code ∧ r.HasHash (v.replace path new) code'
          ∧ r.HasHash old oldCode ∧ r.HasHash new newCode
          ∧ (code = code' ↔ oldCode = newCode) := by
  refine ⟨Equality.bijective_combine_running, Equality.bijective_combine_member, ?_⟩
  intro v old new path hat hv hreplaced
  have h := hreachable.coherent
  obtain ⟨code, hcode⟩ := h.exists_hasHash hstructural hv
  obtain ⟨code', hcode'⟩ := h.exists_hasHash hstructural hreplaced
  obtain ⟨oldCode, hold⟩ := h.exists_hasHash hstructural (hv.at? hat)
  obtain ⟨newCode, hnew⟩ := h.exists_hasHash hstructural (hreplaced.at? (Value.at?_replace hat))
  refine ⟨code, code', oldCode, newCode, hcode, hcode', hold, hnew, ?_⟩
  exact h.hash_replace_inj hstructural hold hnew hv hreplaced hat hcode hcode'

end Registry

/-- Exchanging the book on a shelf for another one of a different number
changes the hash of the shelf. -/
theorem hash_keeps_differences_shelves :
    shelves.Reachable ∧ shelves.Structural ∧ (shelf 1).at? [0, 0] = some (.int 1)
      ∧ (shelf 1).replace [0, 0] (.int 2) = shelf 2
      ∧ shelves.WellFormed (shelf 1) ∧ shelves.WellFormed (shelf 2)
      ∧ ∃ code code', shelves.HasHash (shelf 1) code ∧ shelves.HasHash (shelf 2) code'
        ∧ code ≠ code' := by
  have hreachable : shelves.Reachable := ⟨_, rfl⟩
  have hstructural : shelves.Structural := ⟨by decide, by decide⟩
  have hwellFormed : ∀ number, shelves.WellFormed (shelf number) := by
    intro number
    have hbook : shelves.WellFormed (.record (.nominal 0) [.int number]) :=
      .record rfl (.cons rfl .nil) (by simp [Registry.WellFormed.int])
    exact .record rfl (.cons rfl (.cons rfl .nil)) (by simp [hbook, Registry.WellFormed.null])
  obtain ⟨-, -, hkeeps⟩ := Registry.hash_keeps_differences hreachable hstructural
  obtain ⟨code, code', oldCode, newCode, hcode, hcode', hold, hnew, hiff⟩ :=
    hkeeps (shelf 1) (.int 1) (.int 2) [0, 0] rfl (hwellFormed 1).complete (hwellFormed 2).complete
  refine ⟨hreachable, hstructural, rfl, rfl, hwellFormed 1, hwellFormed 2, code, code', hcode,
    hcode', fun heq => ?_⟩
  -- the two numbers are hashed by their digests, which differ
  have hdigest : ∀ n, shelves.HasHash (.int n) (Value.int n).digest := fun n depth _ =>
    Registry.hash_eq ..
  have hsame := hiff.mp heq
  rw [hold.unique (hdigest 1), hnew.unique (hdigest 2)] at hsame
  exact absurd hsame (by decide)

end RecordPatterns
