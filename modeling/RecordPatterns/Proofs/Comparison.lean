/-
Hashing agrees with equality.

Equality and hashing are two recursions that are written apart. Each asks what
kind of record it has before it, each reads members through getters, and each
leaves off in a different place when there is nothing to run. That values which
compare equal hash alike is a statement about the two of them together, and
user code can break it, so it is made for hosts that do not: whose answers
depend on nothing but the question (`PureHost`), and whose hash overrides
follow their equality overrides (`HashFollows`).

What either recursion does with a value is written down once, by the equality
that the value's type declares (`equals_eq`, `hash_eq`); that both go by the
same one is what the proof rests on. What it takes for a comparison to have an
answer is written down once as well, with one alternative for each way of
comparing (`under_equals_iff`), and the induction goes by these. A getter may
return values that are larger than the record it is asked of, so there is no
induction on values. The induction is on the depth that an answer needed, and an
answer is the same for every greater depth (`equals_approximates`,
`hash_approximates`).
-/
import RecordPatterns.Proofs.History
import RecordPatterns.Registry.Comparison

set_option autoImplicit false

namespace RecordPatterns

/-! ## Hosts without a memory -/

/-- A host whose answers depend on nothing but what it is asked. -/
abbrev PureHost := (call : HostCall) → call.Answer

namespace Run

variable {α β : Type} {host : PureHost}

/-- What a run comes to when such a host answers. -/
def under (x : Run α) (host : PureHost) : Except Fault α := x.interpret (m := Id) host

/-- What is done is done. -/
theorem under_done (a : α) : Run.under (.done a) host = .ok a := rfl

/-- A sequence has a result exactly if its parts have. -/
theorem under_bind_eq_ok_iff {x : Run α} {next : α → Run β} {b : β} :
    under (x >>= next) host = .ok b ↔ ∃ a, x.under host = .ok a ∧ (next a).under host = .ok b := by
  induction x with
  | done a => simp [under_done]
  | fail fault =>
    have hfail : ∀ {γ : Type}, under (.fail fault : Run γ) host = .error fault := rfl
    simp [hfail]
  | ask call resume ih => exact ih (host call)

/-- An answer of the host that is passed on. -/
theorem under_ofExcept_iff {answer : Except Fault α} {a : α} :
    under (some <$> (.ofExcept answer : Run α)) host = .ok (some a) ↔ answer = .ok a := by
  cases answer with
  | ok b =>
    show Except.ok (some b) = Except.ok (some a) ↔ _
    simp
  | error fault =>
    show Except.error fault = Except.ok (some a) ↔ _
    simp

/-- **All members compare equal** exactly if each of them does. -/
theorem under_allEqual_iff {compare : Symbol → Run (Option Bool)} {names : List Symbol} :
    (allEqual compare names).under host = .ok (some true) ↔
      ∀ name ∈ names, (compare name).under host = .ok (some true) := by
  induction names with
  | nil => simp [allEqual, under_done]
  | cons name rest ih =>
    rw [allEqual, under_bind_eq_ok_iff, List.forall_mem_cons, ← ih]
    constructor
    · rintro ⟨answer, hanswer, hrest⟩
      -- any answer but this one is what the comparison would have ended with
      match answer with
      | some true => exact ⟨hanswer, hrest⟩
      | some false => cases hrest
      | none => cases hrest
    · rintro ⟨hname, hrest⟩
      exact ⟨some true, hname, hrest⟩

/-- Both of two runs have an answer, and it is the same one. -/
def Agree (host : PureHost) (x y : Run (Option α)) : Prop :=
  ∃ a, x.under host = .ok (some a) ∧ y.under host = .ok (some a)

/-- **Folds over members agree** if what is folded does, member by member. -/
theorem agree_foldHash {hash hash' : Symbol → Run (Option UInt64)} {names : List Symbol}
    (h : ∀ name ∈ names, Agree host (hash name) (hash' name)) : ∀ running : UInt64,
      Agree host (foldHash hash running names) (foldHash hash' running names) := by
  induction names with
  | nil => exact fun running => ⟨running, rfl, rfl⟩
  | cons name rest ih =>
    intro running
    obtain ⟨⟨member, hmember, hmember'⟩, hrest⟩ := List.forall_mem_cons.mp h
    obtain ⟨code, hcode, hcode'⟩ := ih hrest (Equality.combine running member)
    refine ⟨code, ?_, ?_⟩
    · rw [foldHash, under_bind_eq_ok_iff]
      exact ⟨some member, hmember, hcode⟩
    · rw [foldHash, under_bind_eq_ok_iff]
      exact ⟨some member, hmember', hcode'⟩

/-! ## Answers that do not depend on the depth -/

/-- The first run is the second, except that it may have been cut short:
wherever it has an answer, the second has the same. -/
inductive Approximates : Run (Option α) → Run (Option α) → Prop
  | unanswered (y : Run (Option α)) : Approximates (.done none) y
  | done (a : Option α) : Approximates (.done a) (.done a)
  | fail (fault : Fault) : Approximates (.fail fault) (.fail fault)
  | ask (call : HostCall) {resume resume' : call.Answer → Run (Option α)}
      (h : ∀ answer, Approximates (resume answer) (resume' answer)) :
      Approximates (.ask call resume) (.ask call resume')

namespace Approximates

/-- A run that was not cut short. -/
theorem refl (x : Run (Option α)) : x.Approximates x := by
  induction x with
  | done a => exact .done a
  | fail fault => exact .fail fault
  | ask call resume ih => exact .ask call ih

/-- Cut short after some other run. -/
theorem bind_left (x : Run α) {next next' : α → Run (Option β)}
    (h : ∀ a, (next a).Approximates (next' a)) : Approximates (x >>= next) (x >>= next') := by
  induction x with
  | done a => exact h a
  | fail fault => exact .fail fault
  | ask call resume ih => exact .ask call ih

/-- Cut short somewhere in a sequence of two, where no answer of the first
means no answer of both. -/
theorem bind {x y : Run (Option α)} (h : x.Approximates y) {next next' : Option α → Run (Option β)}
    (hnone : next none = .done none) (hnext : ∀ a, (next a).Approximates (next' a)) :
    Approximates (x >>= next) (y >>= next') := by
  induction h with
  | unanswered y =>
    show Approximates (next none) _
    rw [hnone]
    exact .unanswered _
  | done a => exact hnext a
  | fail fault => exact .fail fault
  | ask call _ ih => exact .ask call ih

/-- Cut short in the comparison of some member. -/
theorem allEqual {compare compare' : Symbol → Run (Option Bool)}
    (h : ∀ name, (compare name).Approximates (compare' name)) (names : List Symbol) :
    (Run.allEqual compare names).Approximates (Run.allEqual compare' names) := by
  induction names with
  | nil => exact refl _
  | cons name rest ih =>
    refine (h name).bind rfl fun answer => ?_
    match answer with
    | some true => exact ih
    | some false => exact refl _
    | none => exact refl _

/-- Cut short in the hashing of some member. -/
theorem foldHash {hash hash' : Symbol → Run (Option UInt64)}
    (h : ∀ name, (hash name).Approximates (hash' name)) (names : List Symbol) :
    ∀ running,
      (Run.foldHash hash running names).Approximates (Run.foldHash hash' running names) := by
  induction names with
  | nil => exact fun running => refl _
  | cons name rest ih =>
    refine fun running => (h name).bind rfl fun answer => ?_
    match answer with
    | some member => exact ih _
    | none => exact refl _

/-- **What has an answer keeps it.** -/
theorem under_eq {x y : Run (Option α)} (h : x.Approximates y) {a : α}
    (ha : x.under host = .ok (some a)) : y.under host = .ok (some a) := by
  induction h with
  | unanswered y => cases ha
  | done b => exact ha
  | fail fault => exact ha
  | ask call _ ih => exact ih (host call) ha

/-- A run that is done with an answer was not cut short. -/
theorem eq_done {y : Run (Option α)} {a : α} (h : Approximates (.done (some a)) y) :
    y = .done (some a) := by
  cases h
  rfl

end Approximates

end Run

/-! ## What equality and hashing go by -/

/-- The type of a record. Other values have none, whatever they say of their
type. -/
def Value.recordType? : Value → Option TypeId
  | .record ty _ => some ty
  | _ => none

namespace Registry

variable {r : Registry}

/-- The equality that is declared for a value, if it is a record of a declared
type. -/
def equality? (r : Registry) (v : Value) : Option Equality :=
  (v.recordType?.bind r.info?).map RecordInfo.equality

/-- It is that of the value's type. -/
theorem equality?_eq_some_iff {v : Value} {e : Equality} :
    r.equality? v = some e ↔ ∃ ty info, v.recordType? = some ty ∧ r.info? ty = some info
      ∧ info.equality = e := by
  rw [equality?, Option.map_eq_some_iff]
  constructor
  · rintro ⟨info, hinfo, rfl⟩
    obtain ⟨ty, hty, hinfo⟩ := Option.bind_eq_some_iff.mp hinfo
    exact ⟨ty, info, hty, hinfo, rfl⟩
  · rintro ⟨ty, info, hty, hinfo, rfl⟩
    exact ⟨info, Option.bind_eq_some_iff.mpr ⟨ty, hty, hinfo⟩, rfl⟩

/-- Records of one type are compared by the same equality. -/
theorem equality?_congr {a b : Value} (h : a.recordType? = b.recordType?) :
    r.equality? a = r.equality? b := by
  rw [equality?, equality?, h]

/-- **What comparing does.** -/
theorem equals_eq (r : Registry) (depth : Nat) (a b : Value) :
    r.equals depth a b =
      if a.recordType? ≠ b.recordType? then .done (some false)
      else
        match r.equality? a, depth with
        | none, _ => .done (some (decide (a = b)))
        | some (.written none _), _ => .fail (.of (.missingBody "equals"))
        | some (.written (some body) _), _ => some <$> Run.equals body a b
        | some (.memberwise _), 0 => .done none
        | some (.memberwise names), depth + 1 =>
          Run.allEqual (fun name => do
            let left ← r.read a name
            let right ← r.read b name
            r.equals depth left right) names := by
  cases a with
  | record ty fields =>
    cases b with
    | record ty' fields' =>
      rw [equals]
      by_cases hty : ty = ty'
      · subst hty
        simp only [Value.recordType?, equality?, ne_eq, not_true_eq_false, if_false,
          Option.bind_some, Value.record.injEq, true_and]
        cases r.info? ty with
        | none => rfl
        | some info =>
          simp only [Option.map_some]
          generalize info.equality = declared
          rcases declared with names | ⟨_ | body, other⟩ <;> cases depth <;> rfl
      · simp [Value.recordType?, hty]
    | _ => simp [equals, Value.recordType?]
  | _ => cases b <;> simp [equals, Value.recordType?, equality?]

/-- **What hashing does.** -/
theorem hash_eq (r : Registry) (depth : Nat) (v : Value) :
    r.hash depth v =
      match r.equality? v, depth with
      | none, _ => .done (some v.digest)
      | some (.written _ none), _ => .fail (.of (.missingBody "hash"))
      | some (.written _ (some body)), _ => some <$> Run.hash body v
      | some (.memberwise _), 0 => .done none
      | some (.memberwise names), depth + 1 =>
        Run.foldHash (fun name => do
          let member ← r.read v name
          r.hash depth member) Equality.seed names := by
  cases v with
  | record ty fields =>
    rw [hash]
    simp only [Value.recordType?, equality?, Option.bind_some]
    cases r.info? ty with
    | none => rfl
    | some info =>
      simp only [Option.map_some]
      generalize info.equality = declared
      rcases declared with names | ⟨other, _ | body⟩ <;> cases depth <;> rfl
  | _ => rw [hash] <;> simp [Value.recordType?, equality?]

/-! ## Greater depths -/

/-- **A greater depth answers the same**, if a comparison has an answer at
all. -/
theorem equals_approximates (r : Registry) {depth more : Nat} (hle : depth ≤ more) (a b : Value) :
    (r.equals depth a b).Approximates (r.equals more a b) := by
  induction depth using Nat.strongRecOn generalizing more a b with
  | _ depth ih =>
    rw [equals_eq, equals_eq]
    by_cases htype : a.recordType? = b.recordType?
    · rw [if_neg (not_not_intro htype), if_neg (not_not_intro htype)]
      rcases r.equality? a with _ | names | ⟨_ | body, other⟩
      · exact .refl _
      · cases depth with
        | zero => exact .unanswered _
        | succ depth =>
          obtain ⟨more, rfl⟩ := Nat.exists_eq_succ_of_ne_zero (by omega : more ≠ 0)
          refine .allEqual (fun name => ?_) names
          refine .bind_left _ fun left => .bind_left _ fun right => ?_
          exact ih depth (Nat.lt_succ_self depth) (Nat.le_of_succ_le_succ hle) left right
      · exact .refl _
      · exact .refl _
    · rw [if_pos htype, if_pos htype]
      exact .refl _

/-- **A greater depth hashes the same**, if there is a hash at all. -/
theorem hash_approximates (r : Registry) {depth more : Nat} (hle : depth ≤ more) (v : Value) :
    (r.hash depth v).Approximates (r.hash more v) := by
  induction depth using Nat.strongRecOn generalizing more v with
  | _ depth ih =>
    rw [hash_eq, hash_eq]
    rcases r.equality? v with _ | names | ⟨other, _ | body⟩
    · exact .refl _
    · cases depth with
      | zero => exact .unanswered _
      | succ depth =>
        obtain ⟨more, rfl⟩ := Nat.exists_eq_succ_of_ne_zero (by omega : more ≠ 0)
        refine .foldHash (fun name => .bind_left _ fun member => ?_) names _
        exact ih depth (Nat.lt_succ_self depth) (Nat.le_of_succ_le_succ hle) member
    · exact .refl _
    · exact .refl _

/-! ## Answers of a comparison -/

section Answers

variable {host : PureHost} {depth : Nat} {a b : Value} {answer : Bool}

/-- Compares one member of two values. -/
def equalMember (r : Registry) (depth : Nat) (a b : Value) (name : Symbol) : Run (Option Bool) := do
  let left ← r.read a name
  let right ← r.read b name
  r.equals depth left right

/-- A member has been compared if it can be read on both sides, and what was
read has been compared. -/
theorem under_equalMember_iff {name : Symbol} :
    (r.equalMember depth a b name).under host = .ok (some answer) ↔
      ∃ left right, (r.read a name).under host = .ok left ∧ (r.read b name).under host = .ok right
        ∧ (r.equals depth left right).under host = .ok (some answer) := by
  rw [equalMember, Run.under_bind_eq_ok_iff]
  simp only [Run.under_bind_eq_ok_iff]
  constructor
  · rintro ⟨left, hleft, right, hright, hanswer⟩
    exact ⟨left, right, hleft, hright, hanswer⟩
  · rintro ⟨left, right, hleft, hright, hanswer⟩
    exact ⟨left, hleft, right, hright, hanswer⟩

/-- The ways in which a comparison comes to an answer. -/
inductive Compared (r : Registry) (host : PureHost) (a b : Value) : Nat → Bool → Prop
  /-- One is a record and the other is not, or they are records of different
  types. -/
  | apart {depth : Nat} (differ : a.recordType? ≠ b.recordType?) : Compared r host a b depth false
  /-- Nothing is declared about them, so it is a matter of how they are
  built. -/
  | built {depth : Nat} {answer : Bool} (same : a.recordType? = b.recordType?)
      (undeclared : r.equality? a = none) (alike : answer = decide (a = b)) :
      Compared r host a b depth answer
  /-- The override has answered. -/
  | written {depth : Nat} {answer : Bool} {body : BodyHandle} {hash : Option BodyHandle}
      (same : a.recordType? = b.recordType?)
      (declared : r.equality? a = some (.written (some body) hash))
      (answered : host (.equals body a b) = .ok answer) : Compared r host a b depth answer
  /-- The members were compared, at a depth that is one less. -/
  | memberwise {depth : Nat} {answer : Bool} {names : List Symbol}
      (same : a.recordType? = b.recordType?) (declared : r.equality? a = some (.memberwise names))
      (members : (Run.allEqual (r.equalMember depth a b) names).under host = .ok (some answer)) :
      Compared r host a b (depth + 1) answer

/-- **What an answer means.** These are the ways of having one, and there is no
other. -/
theorem under_equals_iff :
    (r.equals depth a b).under host = .ok (some answer) ↔ r.Compared host a b depth answer := by
  rw [equals_eq]
  constructor
  · intro h
    by_cases htype : a.recordType? = b.recordType?
    · rw [if_neg (not_not_intro htype)] at h
      rcases hdeclared : r.equality? a with _ | names | ⟨_ | body, hash⟩
      · rw [hdeclared] at h
        have halike : answer = decide (a = b) := by
          simpa [Run.under_done, eq_comm] using h
        exact .built htype hdeclared halike
      · rw [hdeclared] at h
        cases depth with
        | zero => cases h
        | succ depth => exact .memberwise htype hdeclared h
      · rw [hdeclared] at h
        cases h
      · rw [hdeclared] at h
        exact .written htype hdeclared (Run.under_ofExcept_iff.mp h)
    · rw [if_pos htype] at h
      cases h
      exact .apart htype
  · intro h
    cases h with
    | apart differ =>
      rw [if_pos differ]
      rfl
    | built same undeclared alike =>
      rw [if_neg (not_not_intro same), undeclared, alike]
      rfl
    | written same declared answered =>
      rw [if_neg (not_not_intro same), declared]
      exact Run.under_ofExcept_iff.mpr answered
    | memberwise same declared members =>
      rw [if_neg (not_not_intro same), declared]
      exact members

namespace Compared

/-- Values about which nothing is declared are equal only if they are built the
same way. -/
theorem eq_of_undeclared (h : r.Compared host a b depth true) (hnone : r.equality? a = none) :
    a = b := by
  cases h with
  | built _ _ alike => exact of_decide_eq_true alike.symm
  | written _ declared _ => cases hnone.symm.trans declared
  | memberwise _ declared _ => cases hnone.symm.trans declared

/-- Records with an equality of their own are equal only if the override says
so. -/
theorem of_written {body : BodyHandle} {hash : Option BodyHandle}
    (h : r.Compared host a b depth true)
    (hdeclared : r.equality? a = some (.written (some body) hash)) :
    a.recordType? = b.recordType? ∧ host (.equals body a b) = .ok true := by
  cases h with
  | built _ undeclared _ => cases hdeclared.symm.trans undeclared
  | written same declared answered =>
    cases hdeclared.symm.trans declared
    exact ⟨same, answered⟩
  | memberwise _ declared _ => cases hdeclared.symm.trans declared

/-- Records that are compared by their members are equal only if all of their
members are. -/
theorem of_memberwise {names : List Symbol} (h : r.Compared host a b depth true)
    (hdeclared : r.equality? a = some (.memberwise names)) :
    a.recordType? = b.recordType? ∧ ∃ less, depth = less + 1 ∧ ∀ name ∈ names,
      (r.equalMember less a b name).under host = .ok (some true) := by
  cases h with
  | built _ undeclared _ => cases hdeclared.symm.trans undeclared
  | written _ declared _ => cases hdeclared.symm.trans declared
  | @memberwise less _ _ same declared members =>
    cases hdeclared.symm.trans declared
    exact ⟨same, less, rfl, Run.under_allEqual_iff.mp members⟩

end Compared

end Answers

/-! ## Equal values hash alike -/

/-- The host's overrides of hashing follow its overrides of equality: where a
type declares its own equality, two of its values that the override calls equal
are hashed alike, by an override that is there and reports no fault. -/
def HashFollows (r : Registry) (host : PureHost) : Prop :=
  ∀ (ty : TypeId) (info : RecordInfo) (equals : BodyHandle) (hash : Option BodyHandle),
    r.info? ty = some info → info.equality = .written (some equals) hash →
    ∀ a b : Value, a.recordType? = some ty → b.recordType? = some ty →
      host (.equals equals a b) = .ok true →
      ∃ body code, hash = some body ∧ host (.hash body a) = .ok code
        ∧ host (.hash body b) = .ok code

/-- Equal values agree on their hashes, at the depth at which they were
compared. -/
theorem agree_hash_of_equals {host : PureHost} (hfollows : r.HashFollows host) {depth : Nat}
    {a b : Value} (h : (r.equals depth a b).under host = .ok (some true)) :
    Run.Agree host (r.hash depth a) (r.hash depth b) := by
  induction depth using Nat.strongRecOn generalizing a b with
  | _ depth ih =>
    rw [hash_eq, hash_eq]
    cases under_equals_iff.mp h with
    | built same undeclared alike =>
      have hab : a = b := of_decide_eq_true alike.symm
      rw [← equality?_congr same, undeclared, ← hab]
      exact ⟨a.digest, rfl, rfl⟩
    | written same declared answered =>
      obtain ⟨ty, info, hty, hinfo, hequality⟩ := equality?_eq_some_iff.mp declared
      obtain ⟨body, code, rfl, hcode, hcode'⟩ :=
        hfollows ty info _ _ hinfo hequality a b hty (same ▸ hty) answered
      rw [← equality?_congr same, declared]
      exact ⟨code, Run.under_ofExcept_iff.mpr hcode, Run.under_ofExcept_iff.mpr hcode'⟩
    | @memberwise depth _ names same declared members =>
      rw [← equality?_congr same, declared]
      rw [Run.under_allEqual_iff] at members
      refine Run.agree_foldHash (fun name hname => ?_) _
      obtain ⟨left, right, hleft, hright, hequal⟩ := under_equalMember_iff.mp (members name hname)
      obtain ⟨code, hcode, hcode'⟩ := ih depth (Nat.lt_succ_self depth) hequal
      exact ⟨code, Run.under_bind_eq_ok_iff.mpr ⟨left, hleft, hcode⟩,
        Run.under_bind_eq_ok_iff.mpr ⟨right, hright, hcode'⟩⟩

/-- **Values that compare equal have equal hashes.** Take any values, whatever
their records have inside, getters in the place of components, and a host whose
answers depend on nothing but the question and whose hash overrides follow its
equality overrides. If comparing two values comes to true, both can be hashed,
with the same number, at the depth that the comparison needed and at every
greater one. -/
theorem hash_agrees_with_equals {host : PureHost} (hfollows : r.HashFollows host) {depth : Nat}
    {a b : Value} (h : (r.equals depth a b).under host = .ok (some true)) :
    ∃ code, ∀ more, depth ≤ more → (r.hash more a).under host = .ok (some code)
      ∧ (r.hash more b).under host = .ok (some code) := by
  obtain ⟨code, hcode, hcode'⟩ := agree_hash_of_equals hfollows h
  refine ⟨code, fun more hmore => ⟨?_, ?_⟩⟩
  · exact (r.hash_approximates hmore a).under_eq hcode
  · exact (r.hash_approximates hmore b).under_eq hcode'

end Registry

/-- A record that declares its own equality and hash, and one with a getter
for its only component, whose type is the first record. -/
def labels : Registry := .after .empty
  [ .introduce .record "Label" .object,
    .declare ⟨⟨4⟩, .nominal 0, [],
      [⟨.equals, .method, some ⟨0⟩, .generated⟩, ⟨.hash, .method, some ⟨1⟩, .generated⟩],
      .generated⟩,
    .introduce .record "Box" .object,
    .declare ⟨⟨5⟩, .nominal 1, [⟨⟨6⟩, .nominal 0, false, .generated⟩],
      [⟨⟨6⟩, .property (.nominal 0), some ⟨2⟩, .generated⟩], .generated⟩ ]

/-- All labels are equal and hash to seven, and what a getter returns is a
label with the whole record inside. -/
def labelHost : PureHost
  | .equals .. => .ok true
  | .hash .. => .ok 7
  | .property _ receiver => .ok (.record (.nominal 0) [receiver])
  | call => call.refuse

/-- Two boxes that store different values, and say things that are different
and compare equal. -/
theorem hash_agrees_with_equals_labels :
    labels.Reachable ∧ labels.HashFollows labelHost
      ∧ (labels.equals 1 (.record (.nominal 1) [.int 1]) (.record (.nominal 1) [.int 2])).under
          labelHost = .ok (some true)
      ∧ ∃ code, ∀ more, 1 ≤ more →
        (labels.hash more (.record (.nominal 1) [.int 1])).under labelHost = .ok (some code)
          ∧ (labels.hash more (.record (.nominal 1) [.int 2])).under labelHost
              = .ok (some code) := by
  have hreachable : labels.Reachable := ⟨_, rfl⟩
  have hfollows : labels.HashFollows labelHost := by
    intro ty info equals hash hinfo hequality a b _ _ _
    have hdeclared : ∀ info ∈ labels.records, info.equality = .memberwise [⟨6⟩]
        ∨ info.equality = .written (some ⟨0⟩) (some ⟨1⟩) := by decide
    rcases hdeclared info (Registry.mem_of_info? hinfo).1 with hmemberwise | hwritten
    · cases hmemberwise.symm.trans hequality
    · cases hwritten.symm.trans hequality
      exact ⟨⟨1⟩, 7, rfl, rfl, rfl⟩
  have hequals : (labels.equals 1 (.record (.nominal 1) [.int 1])
      (.record (.nominal 1) [.int 2])).under labelHost = .ok (some true) := rfl
  exact ⟨hreachable, hfollows, hequals, Registry.hash_agrees_with_equals hfollows hequals⟩

end RecordPatterns
