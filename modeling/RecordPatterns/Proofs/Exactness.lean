/-
The type test is exact.

Before a subject is taken apart, the resolver compares two types: the static type
of the subject, and the type that the deconstructor takes. If they are not
related, the pattern is refused. Otherwise a test is decided on, of which there
are three kinds, and two of them do not look at the subject's own type at all.
Nothing is lost or gained by this. A test that was decided on passes just the
subjects of a type that the deconstructor takes. And a pattern that was refused
could not have matched anything: no type is below both types, and no type that
is declared later will be (`isRelated_iff_exists_below`).

That last part is a matter of the forest. What is below two types has both of
them on the one line of its bases, so that one of the two is below the other.
Bases of declared types do not change, and so this was the case already when the
two were compared.
-/
import RecordPatterns.Proofs.Forest
import RecordPatterns.Proofs.Narrowing
import RecordPatterns.Proofs.Stability

set_option autoImplicit false

namespace RecordPatterns

namespace TypeTable

variable {t t' : TypeTable} {a b sub static needed : TypeId} {v : Value}

/-! ## Types below two others -/

/-- Declaring any number of types leaves all others as they are. -/
theorem extends_after (t : TypeTable) (requests : List Nominal) : t.Extends (t.after requests) := by
  induction requests generalizing t with
  | nil => exact .refl t
  | cons asked rest ih =>
    exact (t.extends_declare asked.kind asked.name asked.base).trans (ih _)

/-- Two types that have a type below them both are related. -/
theorem Grounded.isRelated_of_below (h : t.Grounded) (ha : t.isSubtype sub a = true)
    (hb : t.isSubtype sub b = true) : t.isRelated a b = true := by
  rw [h.isSubtype_iff] at ha hb
  rw [isRelated, Bool.or_eq_true, h.isSubtype_iff, h.isSubtype_iff]
  have halloc := h.isAllocated_of_derives ha.1 ha.2
  have hballoc := h.isAllocated_of_derives hb.1 hb.2
  exact (derives_total ha.2 hb.2).imp (⟨halloc, ·⟩) (⟨hballoc, ·⟩)

/-- **What is related is what may have a type below it.** Of two allocated types
it can be told in any later table whether they are related in this one. -/
theorem Grounded.isRelated_iff_exists_below (h : t.Grounded) (h' : t'.Grounded)
    (hextends : t.Extends t') (ha : t.isAllocated a = true) (hb : t.isAllocated b = true) :
    t.isRelated a b = true
      ↔ ∃ sub, t'.isSubtype sub a = true ∧ t'.isSubtype sub b = true := by
  have hsame : t'.isRelated a b = t.isRelated a b := by
    rw [isRelated, isRelated, h.isSubtype_eq h' hextends ha, h.isSubtype_eq h' hextends hb]
  rw [← hsame]
  constructor
  · intro hrelated
    rw [isRelated, Bool.or_eq_true] at hrelated
    obtain hab | hba := hrelated
    · exact ⟨a, isSubtype_self.trans (hextends.isAllocated ha), hab⟩
    · exact ⟨b, hba, isSubtype_self.trans (hextends.isAllocated hb)⟩
  · rintro ⟨sub, hsuba, hsubb⟩
    exact h'.isRelated_of_below hsuba hsubb

end TypeTable

/-! ## The test -/

/-- **The test is exact**, for any static type and any type that a deconstructor
takes, as long as both are in the table. There is none, and the error names the
two types, exactly if no type is below both of them, in this table and however it
is added to. And if there is one, then of the values that fit the static type it
passes those that are not null and of a type below the one that is needed, and
no others, whichever of the three kinds it is. The table may again have been
added to meanwhile. -/
theorem Resolver.typeTest_exact (s : Resolver) (hreachable : s.types.Reachable)
    {static needed : TypeId} (hstatic : s.types.isAllocated static = true)
    (hneeded : s.types.isAllocated needed = true) (span : Span) :
    (∀ e, s.typeTest static needed span = .error e ↔
        e = s.mismatch needed static span
          ∧ ∀ requests sub, ¬ ((s.types.after requests).isSubtype sub static = true
            ∧ (s.types.after requests).isSubtype sub needed = true))
      ∧ ∀ test, s.typeTest static needed span = .ok test →
        ∀ requests v, (s.types.after requests).admits static v = true →
          (test.passes (s.types.after requests) v = true ↔
            ∃ actual, v.type? = some actual
              ∧ (s.types.after requests).isSubtype actual needed = true) := by
  have hgrounded := hreachable.grounded
  constructor
  · intro e
    rw [typeTest_eq_error_iff, and_comm]
    refine and_congr_right fun _ => ?_
    have hiff : ∀ requests : List Nominal, s.types.isRelated static needed = true ↔ _ :=
      fun requests => hgrounded.isRelated_iff_exists_below (hgrounded.after requests)
        (s.types.extends_after requests) hstatic hneeded
    constructor
    · intro hunrelated requests sub hbelow
      rw [(hiff requests).mpr ⟨sub, hbelow⟩] at hunrelated
      cases hunrelated
    · intro hnone
      rw [← Bool.not_eq_true, hiff []]
      rintro ⟨sub, hbelow⟩
      exact hnone [] sub hbelow
  · intro test htest requests v hv
    have hnow := typeTest_eq_ok_iff.mp htest
    have hlater := hnow.persists hgrounded (hgrounded.after requests)
      (s.types.extends_after requests) hstatic hneeded
    exact hlater.passes_iff (hgrounded.after requests) hv

/-- A resolver for the types for which bases of all sorts were asked. -/
def hedgeResolver : Resolver := ⟨hedge, .fresh, fun _ _ => .notFound [], 1⟩

/-- The third type and the first one are not related, and nothing will ever be
below both. From the second type to the last one, which is derived from it by
way of the third, there is a test that looks. It passes records of the last
type, and neither null nor records of the third one. -/
theorem typeTest_exact_hedge :
    hedgeResolver.types.Reachable
      ∧ (∀ position ∈ [0, 1, 2, 5], hedgeResolver.types.isAllocated (.nominal position) = true)
      ∧ hedgeResolver.typeTest (.nominal 2) (.nominal 0) ⟨3, 4⟩
        = .error (hedgeResolver.mismatch (.nominal 0) (.nominal 2) ⟨3, 4⟩)
      ∧ (∀ requests sub, ¬ ((hedge.after requests).isSubtype sub (.nominal 2) = true
        ∧ (hedge.after requests).isSubtype sub (.nominal 0) = true))
      ∧ hedgeResolver.typeTest (.nominal 1) (.nominal 5) ⟨3, 4⟩ = .ok (.ofType (.nominal 5))
      ∧ (TypeTest.ofType (.nominal 5)).passes hedge (.record (.nominal 5) []) = true
      ∧ (hedge.admits (.nominal 1) .null = true
        ∧ (TypeTest.ofType (.nominal 5)).passes hedge .null ≠ true)
      ∧ (hedge.admits (.nominal 1) (.record (.nominal 2) []) = true
        ∧ (TypeTest.ofType (.nominal 5)).passes hedge (.record (.nominal 2) []) ≠ true) := by
  have hreachable : hedgeResolver.types.Reachable := ⟨_, rfl⟩
  have hrefused : hedgeResolver.typeTest (.nominal 2) (.nominal 0) ⟨3, 4⟩
      = .error (hedgeResolver.mismatch (.nominal 0) (.nominal 2) ⟨3, 4⟩) := by decide
  have htest : hedgeResolver.typeTest (.nominal 1) (.nominal 5) ⟨3, 4⟩
      = .ok (.ofType (.nominal 5)) := by decide
  have hapart := @Resolver.typeTest_exact hedgeResolver hreachable (.nominal 2) (.nominal 0)
    (by decide) (by decide) ⟨3, 4⟩
  have hbelow := @Resolver.typeTest_exact hedgeResolver hreachable (.nominal 1) (.nominal 5)
    (by decide) (by decide) ⟨3, 4⟩
  have hpasses := hbelow.2 _ htest []
  have hrecord := (hpasses (.record (.nominal 5) []) (by decide)).mpr ⟨_, rfl, by decide⟩
  have hnull := hpasses .null (by decide)
  have hbetween := hpasses (.record (.nominal 2) []) (by decide)
  refine ⟨hreachable, by decide, hrefused, ((hapart.1 _).mp hrefused).2, htest, hrecord,
    ⟨by decide, ?_⟩, by decide, ?_⟩
  · rw [Ne, show hedge = hedgeResolver.types.after [] from rfl, hnull]
    rintro ⟨actual, hactual, -⟩
    cases hactual
  · rw [Ne, show hedge = hedgeResolver.types.after [] from rfl, hbetween]
    rintro ⟨actual, hactual, hsub⟩
    cases hactual
    exact absurd hsub (by decide)

end RecordPatterns
