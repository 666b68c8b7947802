/-
Equality is symmetric and transitive, as far as user code is.

Comparing is not symmetric to look at. The left value decides what is compared
by, its members are read first, and the first member that differs ends it all.
Read the other way round, the same members are asked of the same records in
another order, and a host that has no memory gives the same answers. So a
comparison that has an answer has the same one with its values exchanged, be it
that they differ (`equals_symm`). Two comparisons that share a value, and both
come to true, read the same members of that value, and have gone on to compare
members that are equal once more (`equals_trans`).

Overrides of equality have to be symmetric and transitive themselves, which is
asked of them only where they have an answer, and only for records of the type
that they were declared for. The cases are the ways of comparing, as for hashing
(`under_equals_iff`), and as there the induction is on the depth, since getters
may return values that are larger than the records that they are asked of.
-/
import RecordPatterns.Proofs.Comparison

set_option autoImplicit false

namespace RecordPatterns

variable {host : PureHost}

/-! ## Symmetry -/

/-- Comparisons of several members that have the same answers, as far as the
first have any, have the same answer altogether: what ends the first one early
also ends the second. -/
theorem Run.under_allEqual_of_imp {compare compare' : Symbol → Run (Option Bool)}
    (h : ∀ name answer, (compare name).under host = .ok (some answer) →
      (compare' name).under host = .ok (some answer))
    {names : List Symbol} {answer : Bool}
    (hall : (allEqual compare names).under host = .ok (some answer)) :
    (allEqual compare' names).under host = .ok (some answer) := by
  induction names with
  | nil => exact hall
  | cons name rest ih =>
    rw [allEqual, under_bind_eq_ok_iff] at hall ⊢
    obtain ⟨first, hfirst, hrest⟩ := hall
    cases first with
    | none => cases hrest
    | some equal =>
      refine ⟨some equal, h name equal hfirst, ?_⟩
      cases equal with
      | true => exact ih hrest
      | false => exact hrest

namespace Registry

variable {r : Registry} {depth : Nat} {a b c : Value} {answer : Bool}

/-- Where an override of equality has an answer, it has the same one with the
two records exchanged. -/
def SymmetricOverrides (r : Registry) (host : PureHost) : Prop :=
  ∀ (a b : Value) (body : BodyHandle) (hash : Option BodyHandle) (answer : Bool),
    a.recordType? = b.recordType? → r.equality? a = some (.written (some body) hash) →
    host (.equals body a b) = .ok answer → host (.equals body b a) = .ok answer

/-- **Comparing the other way round** gives the same answer, at the same
depth. -/
theorem equals_symm (hsymm : r.SymmetricOverrides host)
    (h : (r.equals depth a b).under host = .ok (some answer)) :
    (r.equals depth b a).under host = .ok (some answer) := by
  induction depth using Nat.strongRecOn generalizing a b answer with
  | _ depth ih =>
    rw [under_equals_iff] at h ⊢
    cases h with
    | apart differ => exact .apart differ.symm
    | built same undeclared alike =>
      have halike : answer = decide (b = a) := alike.trans (decide_eq_decide.mpr eq_comm)
      exact .built same.symm (equality?_congr same ▸ undeclared) halike
    | written same declared answered =>
      have hanswer := hsymm a b _ _ _ same declared answered
      exact .written same.symm (equality?_congr same ▸ declared) hanswer
    | @memberwise depth _ names same declared members =>
      refine .memberwise same.symm (equality?_congr same ▸ declared) ?_
      refine Run.under_allEqual_of_imp (fun name answer hmember => ?_) members
      -- both members have been read, so reading them in the other order does no harm
      obtain ⟨left, right, hleft, hright, hanswer⟩ := under_equalMember_iff.mp hmember
      exact under_equalMember_iff.mpr
        ⟨right, left, hright, hleft, ih depth (Nat.lt_succ_self depth) hanswer⟩

/-! ## Transitivity -/

/-- Where an override of equality calls two records equal, and the second of
them equal to a third, it calls the first equal to the third. -/
def TransitiveOverrides (r : Registry) (host : PureHost) : Prop :=
  ∀ (a b c : Value) (body : BodyHandle) (hash : Option BodyHandle),
    a.recordType? = b.recordType? → b.recordType? = c.recordType? →
    r.equality? a = some (.written (some body) hash) →
    host (.equals body a b) = .ok true → host (.equals body b c) = .ok true →
    host (.equals body a c) = .ok true

/-- **Values that are equal to the same value are equal**, at the depth of the
first comparison. That of the second does not matter. -/
theorem equals_trans (htrans : r.TransitiveOverrides host) {depth' : Nat}
    (hab : (r.equals depth a b).under host = .ok (some true))
    (hbc : (r.equals depth' b c).under host = .ok (some true)) :
    (r.equals depth a c).under host = .ok (some true) := by
  induction depth using Nat.strongRecOn generalizing a b c depth' with
  | _ depth ih =>
    rw [under_equals_iff] at hab hbc ⊢
    cases hab with
    | built same undeclared alike =>
      have hab : a = b := of_decide_eq_true alike.symm
      have hbc : b = c := hbc.eq_of_undeclared (equality?_congr same ▸ undeclared)
      exact .built (hab ▸ hbc ▸ rfl) undeclared (decide_eq_true (hab.trans hbc)).symm
    | written same declared answered =>
      obtain ⟨same', answered'⟩ := hbc.of_written (equality?_congr same ▸ declared)
      have hanswer := htrans a b c _ _ same same' declared answered answered'
      exact .written (same.trans same') declared hanswer
    | @memberwise depth _ names same declared members =>
      obtain ⟨same', _, -, members'⟩ := hbc.of_memberwise (equality?_congr same ▸ declared)
      refine .memberwise (same.trans same') declared ?_
      rw [Run.under_allEqual_iff] at members ⊢
      intro name hname
      obtain ⟨left, middle, hleft, hmiddle, hfirst⟩ := under_equalMember_iff.mp (members name hname)
      obtain ⟨middle', right, hmiddle', hright, hsecond⟩ :=
        under_equalMember_iff.mp (members' name hname)
      -- the value in the middle was asked twice and has said the same
      obtain rfl : middle = middle' := Except.ok.inj (hmiddle.symm.trans hmiddle')
      have hequal := ih depth (Nat.lt_succ_self depth) hfirst hsecond
      exact under_equalMember_iff.mpr ⟨left, right, hleft, hright, hequal⟩

/-- **Equality is symmetric and transitive where the overrides of equality
are.** Take any values, whatever their records have inside, getters in the
place of components, and a host whose answers depend on nothing but the
question. If a comparison has an answer, be it yes or no, it has the same one
with the values exchanged; and if two comparisons come to true and the second
begins with the value that the first ends with, the outer two values compare
equal as well. The depth that the first comparison needed is enough for the
other one, and so is every greater depth. -/
theorem equality_symm_trans (hsymm : r.SymmetricOverrides host)
    (htrans : r.TransitiveOverrides host) :
    (∀ (depth : Nat) (a b : Value) (answer : Bool),
        (r.equals depth a b).under host = .ok (some answer) →
        ∀ more, depth ≤ more → (r.equals more b a).under host = .ok (some answer))
      ∧ ∀ (depth depth' : Nat) (a b c : Value),
        (r.equals depth a b).under host = .ok (some true) →
        (r.equals depth' b c).under host = .ok (some true) →
        ∀ more, depth ≤ more → (r.equals more a c).under host = .ok (some true) := by
  constructor
  · intro depth a b answer h more hmore
    exact (r.equals_approximates hmore b a).under_eq (equals_symm hsymm h)
  · intro depth depth' a b c hab hbc more hmore
    exact (r.equals_approximates hmore a c).under_eq (equals_trans htrans hab hbc)

end Registry

/-- Labels are equal if they have the same number of fields, and what a getter
returns is a label with the whole record inside. -/
def tallyHost : PureHost
  | .equals _ (.record _ fields) (.record _ others) => .ok (decide (fields.length = others.length))
  | .property _ receiver => .ok (.record (.nominal 0) [receiver])
  | call => call.refuse

/-- A label that differs from another one also does so the other way round, and
of three boxes that store different values the outer two are equal as the
neighbours are. -/
theorem equality_symm_trans_labels :
    labels.SymmetricOverrides tallyHost ∧ labels.TransitiveOverrides tallyHost
      ∧ (labels.equals 0 (.record (.nominal 0) []) (.record (.nominal 0) [.null])).under tallyHost
          = .ok (some false)
      ∧ (labels.equals 1 (.record (.nominal 1) [.int 1]) (.record (.nominal 1) [.int 3])).under
          tallyHost = .ok (some true) := by
  have hrecord : ∀ (a : Value) (e : Equality), labels.equality? a = some e →
      ∃ ty fields, a = .record ty fields := by
    intro a e ha
    cases a with
    | record ty fields => exact ⟨ty, fields, rfl⟩
    | _ => cases ha
  have hsymm : labels.SymmetricOverrides tallyHost := by
    intro a b body hash answer hsame ha hanswer
    obtain ⟨ty, fields, rfl⟩ := hrecord a _ ha
    obtain ⟨ty', fields', rfl⟩ := hrecord b _ (Registry.equality?_congr hsame ▸ ha)
    rw [← hanswer]
    simp only [tallyHost, eq_comm]
  have htrans : labels.TransitiveOverrides tallyHost := by
    intro a b c body hash hsame hsame' ha hab hbc
    obtain ⟨ty, fields, rfl⟩ := hrecord a _ ha
    obtain ⟨ty', fields', rfl⟩ := hrecord b _ (Registry.equality?_congr hsame ▸ ha)
    obtain ⟨ty'', fields'', rfl⟩ :=
      hrecord c _ (Registry.equality?_congr (hsame.trans hsame') ▸ ha)
    simp only [tallyHost, Except.ok.injEq, decide_eq_true_eq] at hab hbc ⊢
    exact hab.trans hbc
  obtain ⟨hexchange, hchain⟩ := Registry.equality_symm_trans hsymm htrans
  have hlabels := hexchange 0 (.record (.nominal 0) [.null]) (.record (.nominal 0) []) false rfl
  have hboxes := hchain 1 1 (.record (.nominal 1) [.int 1]) (.record (.nominal 1) [.int 2])
    (.record (.nominal 1) [.int 3]) rfl rfl
  exact ⟨hsymm, htrans, hlabels 0 (Nat.le_refl 0), hboxes 1 (Nat.le_refl 1)⟩

end RecordPatterns
