/-
What was resolved or matched once is not changed by later declarations.

Patterns are resolved while the registry is still being filled, and plans are
kept. `Registry.stable_after` says that this is safe. Let a registry be edited
further, in any way. A plan that came to a result before still comes to it, and
asks the host for the same things in the same order, as long as the records
that are met on the way are of types that were allocated. And a pattern that
resolved before resolves to the same plan, as long as what it was resolved by
is settled (`Registry.Settled`): the types at issue are allocated, and no
deconstructor was added to a type that the pattern names.

Both conditions are needed for the same reason. A question about a type that is
not allocated is answered, in the negative, and the answer may change. A record
that is declared late is no such danger for matching. Reading it before was a
fault, and only runs that came to a result are spoken of. So the two runs need
not agree, and `Run.Follows` asks for less: the second one does as the first,
until the first one fails.
-/
import RecordPatterns.Proofs.Comparison
import RecordPatterns.Proofs.Elaboration
import RecordPatterns.Proofs.Growth
import RecordPatterns.Proofs.Observation

set_option autoImplicit false

namespace RecordPatterns

/-! ## Values made of allocated types -/

namespace TypeTable

variable {t : TypeTable} {v : Value} {ty : TypeId}

/-- Every record inside the value is of an allocated type. Whether its fields
are what the type promises is left open. -/
inductive Covers (t : TypeTable) : Value → Prop
  | null : t.Covers .null
  | bool (b : Bool) : t.Covers (.bool b)
  | int (n : Int64) : t.Covers (.int n)
  | text (s : String) : t.Covers (.text s)
  | record {ty : TypeId} {fields : List Value} (known : t.isAllocated ty = true)
      (inside : ∀ w ∈ fields, t.Covers w) : t.Covers (.record ty fields)

/-- The type of such a value is allocated. -/
theorem Covers.isAllocated (h : t.Covers v) (hty : v.type? = some ty) :
    t.isAllocated ty = true := by
  cases h with
  | null => cases hty
  | record known inside =>
    cases hty
    exact known
  | _ =>
    cases hty
    rfl

/-- What such a value has inside. -/
theorem Covers.inside {fields : List Value} (h : t.Covers (.record ty fields)) :
    ∀ w ∈ fields, t.Covers w := by
  cases h with
  | record known inside => exact inside

/-- What slots hold at first are no records. -/
theorem covers_initial (t : TypeTable) (ty : TypeId) : t.Covers (.initial ty) := by
  cases ty with
  | int => exact .int 0
  | bool => exact .bool false
  | _ => exact .null

end TypeTable

/-- The values that a call hands to the host. -/
def HostCall.values : HostCall → List Value
  | .evaluate _ => []
  | .deconstruct _ subject _ slots => subject :: slots.values
  | .equals _ left right => [left, right]
  | .hash _ v => [v]
  | .property _ receiver => [receiver]

/-- The values that an answer hands back. Nobody looks at the slots of a
subject that was not accepted. -/
def HostCall.delivered : (call : HostCall) → call.Answer → List Value
  | .evaluate _, .ok v => [v]
  | .deconstruct .., (slots, .ok true) => slots.values
  | .property .., .ok v => [v]
  | _, _ => []

/-- A host that is given values made of allocated types produces such values
only. -/
def TypeTable.Contains (t : TypeTable) (host : PureHost) : Prop :=
  ∀ call : HostCall, (∀ v ∈ call.values, t.Covers v) →
    ∀ v ∈ call.delivered (host call), t.Covers v

/-! ## Tests that were decided on -/

/-- **A test stays the right one** as the table grows, if the two types that it
was chosen for are allocated. -/
theorem TypeTable.Narrows.persists {t t' : TypeTable} {static needed : TypeId} {test : TypeTest}
    (h : t.Narrows static needed test) (hg : t.Grounded) (hg' : t'.Grounded)
    (hextends : t.Extends t') (hstatic : t.isAllocated static = true)
    (hneeded : t.isAllocated needed = true) : t'.Narrows static needed test := by
  have hbelow : t'.isSubtype static needed = t.isSubtype static needed :=
    hg.isSubtype_eq hg' hextends hstatic
  have habove : t'.isSubtype needed static = t.isSubtype needed static :=
    hg.isSubtype_eq hg' hextends hneeded
  have hnull := hextends.isNullable_eq hstatic
  cases h with
  | unconditional below neverNull =>
    exact .unconditional (hbelow.trans below) (hnull.trans neverNull)
  | nonNull below nullable => exact .nonNull (hbelow.trans below) (hnull.trans nullable)
  | ofType notBelow above => exact .ofType (hbelow.trans notBelow) (habove.trans above)

/-! ## Runs that go the same way -/

namespace Run

variable {α β γ : Type} {t : TypeTable} {host : PureHost}

/-- What a host is called for, in order. -/
def calls (host : PureHost) : Run α → List HostCall
  | .done _ => []
  | .fail _ => []
  | .ask call resume => call :: calls host (resume (host call))

/-- The second run does as the first, until the first one fails. All values
that are handed to and fro are made of allocated types, if the host keeps to
them, and the result is a good one. -/
inductive Follows (t : TypeTable) (good : α → Prop) : Run α → Run α → Prop
  | done (a : α) (h : good a) : Follows t good (.done a) (.done a)
  | fail (fault : Fault) (y : Run α) : Follows t good (.fail fault) y
  | ask {call : HostCall} {resume resume' : call.Answer → Run α}
      (handed : ∀ v ∈ call.values, t.Covers v)
      (h : ∀ answer, (∀ v ∈ call.delivered answer, t.Covers v) →
        Follows t good (resume answer) (resume' answer)) :
      Follows t good (.ask call resume) (.ask call resume')

/-- Going on in the same way after good results. -/
theorem follows_bind {good : α → Prop} {good' : β → Prop} {x y : Run α} {next next' : α → Run β}
    (h : Follows t good x y) (hnext : ∀ a, good a → Follows t good' (next a) (next' a)) :
    Follows t good' (x >>= next) (y >>= next') := by
  induction h with
  | done a ha => exact hnext a ha
  | fail fault y => exact .fail fault _
  | ask handed _ ih => exact .ask handed ih

/-- The items of a list, one by one. -/
theorem follows_mapM {good : β → Prop} {f g : α → Run β} (items : List α)
    (h : ∀ item ∈ items, Follows t good (f item) (g item)) :
    Follows t (fun results => ∀ b ∈ results, good b) (items.mapM f) (items.mapM g) := by
  induction items with
  | nil => exact .done [] (by simp)
  | cons item rest ih =>
    obtain ⟨hitem, hrest⟩ := List.forall_mem_cons.mp h
    rw [List.mapM_cons, List.mapM_cons]
    refine follows_bind hitem fun b hb => follows_bind (ih hrest) fun bs hbs => ?_
    exact .done (b :: bs) (List.forall_mem_cons.mpr ⟨hb, hbs⟩)

/-- **What the first run comes to**, the second comes to as well, with the same
calls. -/
theorem Follows.under_eq {good : α → Prop} {x y : Run α} (h : Follows t good x y)
    (hhost : t.Contains host) {a : α} (ha : x.under host = .ok a) :
    y.under host = .ok a ∧ y.calls host = x.calls host := by
  induction h with
  | done b _ => exact ⟨ha, rfl⟩
  | fail fault y => cases ha
  | @ask call resume resume' handed _ ih =>
    obtain ⟨hresult, hcalls⟩ := ih (host call) (hhost call handed) ha
    exact ⟨hresult, congrArg (call :: ·) hcalls⟩

end Run

/-! ## Evaluating a plan -/

namespace Registry

variable {r r' : Registry} {v : Value}

/-- A stored value is read in the same way. If there is none, that is a
fault. -/
theorem follows_stored {ty : TypeId} {fields : List Value} (hv : r.types.Covers (.record ty fields))
    (name : Symbol) (position : Nat) :
    Run.Follows r.types r.types.Covers (r.stored ty fields name position)
      (r'.stored ty fields name position) := by
  rw [stored, stored]
  cases hw : fields[position]? with
  | none => exact .fail _ _
  | some w => exact .done w (hv.inside w (List.mem_of_getElem? hw))

/-- A getter is run in the same way. -/
theorem follows_property (hv : r.types.Covers v) (body : BodyHandle) :
    Run.Follows r.types r.types.Covers (Run.property body v) (Run.property body v) := by
  refine .ask (by simpa [HostCall.values] using hv) fun answer hanswer => ?_
  cases answer with
  | error fault => exact .fail fault _
  | ok w => exact .done w (hanswer w (.head _))

/-- **Reading a member.** A record that could be read is known, and what is
known of it stays. -/
theorem GrowsInto.follows_read (h : r.GrowsInto r') (hv : r.types.Covers v) (name : Symbol) :
    Run.Follows r.types r.types.Covers (r.read v name) (r'.read v name) := by
  cases v with
  | record ty fields =>
    rw [read, read]
    cases hinfo : r.info? ty with
    | none => exact .fail _ _
    | some info =>
      simp only [h.info ty info hinfo]
      cases info.members.get? name with
      | none => exact .fail _ _
      | some entry =>
        cases entry with
        | accessor position type => exact follows_stored hv name position
        | written member =>
          -- without a body to run, the stored value is looked for, and may be missing
          cases info.members.position? name with
          | none =>
            obtain ⟨own, _ | _ | _, _ | body, span⟩ := member
            · exact .fail _ _
            · exact follows_property hv body
            all_goals exact .fail _ _
          | some position =>
            have hstored : Run.Follows r.types r.types.Covers (r.stored ty fields name position)
                (r'.stored ty fields name position) := follows_stored hv name position
            obtain ⟨own, _ | _ | _, _ | body, span⟩ := member
            · exact hstored
            · exact follows_property hv body
            all_goals exact hstored
  | _ => exact .fail _ _

/-- **Taking a subject apart.** -/
theorem GrowsInto.follows_deconstruct (h : r.GrowsInto r') (hv : r.types.Covers v)
    (d : Deconstructor) : Run.Follows r.types
      (fun result => result.accepted = true → ∀ w ∈ result.outputs, r.types.Covers w)
      (r.deconstruct d v) (r'.deconstruct d v) := by
  rw [deconstruct, deconstruct]
  cases d.origin with
  | synthesized members =>
    have hread : ∀ name ∈ members, Run.Follows r.types r.types.Covers (r.read v name)
        (r'.read v name) := fun name _ => h.follows_read hv name
    refine Run.follows_bind (Run.follows_mapM members hread) fun outputs houtputs => ?_
    exact .done _ fun _ => houtputs
  | written body =>
    cases body with
    | none => exact .fail _ _
    | some body =>
      have hhanded : ∀ w ∈ HostCall.values
          (.deconstruct body v d.outputs.length (.initial d.outputs)), r.types.Covers w := by
        simp only [HostCall.values, Slots.initial, List.forall_mem_cons, List.forall_mem_map]
        exact ⟨hv, fun ty _ => r.types.covers_initial ty⟩
      refine .ask hhanded fun answer hanswer => ?_
      obtain ⟨slots, _ | accepted⟩ := answer
      · exact .fail _ _
      · refine .done _ ?_
        rintro rfl
        exact hanswer

/-- **A test decides the same later on**, of a value made of allocated types.
What the test asks for may be anything. -/
theorem GrowsInto.passes_eq (h : r.GrowsInto r') (hv : r.types.Covers v) (test : TypeTest) :
    test.passes r'.types v = test.passes r.types v := by
  rw [TypeTest.passes, TypeTest.passes]
  cases hty : v.type? with
  | none => rfl
  | some actual =>
    cases test with
    | ofType needed => exact h.isSubtype_eq (hv.isAllocated hty)
    | _ => rfl

/-- A visit goes the same way, if what follows it does. -/
theorem GrowsInto.follows_visit (h : r.GrowsInto r') (hv : r.types.Covers v) (node : Plan.Node)
    {next next' : List Value → Walk (Option Bindings)}
    (hnext : ∀ outputs, (∀ w ∈ outputs, r.types.Covers w) →
      Run.Follows r.types (fun _ => True) ((next outputs).handle r.answer)
        ((next' outputs).handle r'.answer)) :
    Run.Follows r.types (fun _ => True) ((Walk.visit r.types node v next).handle r.answer)
      ((Walk.visit r'.types node v next').handle r'.answer) := by
  rw [Walk.visit, Walk.visit, h.passes_eq hv]
  by_cases hpasses : node.test.passes r.types v = true
  · rw [if_pos hpasses, if_pos hpasses, Dialogue.handle, Dialogue.handle]
    refine Run.follows_bind (h.follows_deconstruct hv node.deconstructor) fun result hresult => ?_
    by_cases haccepted : result.accepted = true
    · rw [if_pos haccepted, if_pos haccepted]
      exact hnext result.outputs (hresult haccepted)
    · rw [if_neg haccepted, if_neg haccepted]
      exact .done none trivial
  · rw [if_neg hpasses, if_neg hpasses]
    exact .done none trivial

mutual

/-- **One argument.** -/
theorem GrowsInto.follows_argument (h : r.GrowsInto r') :
    ∀ (a : Argument) {v : Value}, r.types.Covers v →
      Run.Follows r.types (fun _ => True) ((Walk.argument r.types a v).handle r.answer)
        ((Walk.argument r'.types a v).handle r'.answer)
  | .bind name type, v, _ => by
    rw [Walk.argument, Walk.argument]
    exact .done _ trivial
  | .discard, v, _ => by
    rw [Walk.argument, Walk.argument]
    exact .done _ trivial
  | .nested node args, v, hv => by
    rw [Walk.argument, Walk.argument]
    exact h.follows_visit hv node fun outputs houtputs =>
      GrowsInto.follows_arguments h args houtputs

/-- **Several arguments**, from left to right. -/
theorem GrowsInto.follows_arguments (h : r.GrowsInto r') :
    ∀ (args : List Argument) {outputs : List Value}, (∀ w ∈ outputs, r.types.Covers w) →
      Run.Follows r.types (fun _ => True) ((Walk.arguments r.types args outputs).handle r.answer)
        ((Walk.arguments r'.types args outputs).handle r'.answer)
  | [], outputs, _ => by
    rw [Walk.arguments, Walk.arguments]
    exact .done _ trivial
  | a :: args, outputs, houtputs => by
    cases outputs with
    | nil =>
      rw [Walk.arguments, Walk.arguments]
      exact .done _ trivial
    | cons output outputs =>
      obtain ⟨houtput, hrest⟩ := List.forall_mem_cons.mp houtputs
      rw [Walk.arguments, Walk.arguments, Dialogue.handle_bind, Dialogue.handle_bind]
      refine Run.follows_bind (GrowsInto.follows_argument h a houtput) fun first _ => ?_
      cases first with
      | none => exact .done _ trivial
      | some b =>
        simp only
        rw [Dialogue.handle_bind, Dialogue.handle_bind]
        refine Run.follows_bind (GrowsInto.follows_arguments h args hrest) fun others _ => ?_
        cases others with
        | none => exact .done _ trivial
        | some b' => exact .done _ trivial

end

/-- **Evaluating a plan** goes the same way under a registry that extends the
one it was evaluated under, whatever plan it is. -/
theorem GrowsInto.follows_evaluate (h : r.GrowsInto r') (plan : Plan) (hv : r.types.Covers v) :
    Run.Follows r.types (fun _ => True) (plan.evaluate r v) (plan.evaluate r' v) := by
  rw [Plan.evaluate, Plan.evaluate, Plan.walk, Plan.walk]
  exact h.follows_visit hv plan.node fun outputs houtputs =>
    GrowsInto.follows_arguments h plan.arguments houtputs

end Registry

/-! ## Resolving a pattern -/

namespace Pattern

mutual

/-- The types that a pattern names: those of its type patterns, from left to
right, each before the ones inside it. -/
def targets : Pattern → List TypeId
  | .bind .. => []
  | .discard _ => []
  | .record target arguments _ => target :: targetsAll arguments

/-- The types that several patterns name. -/
def targetsAll : List Pattern → List TypeId
  | [] => []
  | p :: rest => p.targets ++ targetsAll rest

end

end Pattern

namespace Registry

variable {r r' : Registry}

/-- What a pattern that names a type is resolved by: the type is allocated,
and so is every type that its deconstructors take or produce, and it has got no
further deconstructor. -/
structure Settled (r r' : Registry) (ty : TypeId) : Prop where
  allocated : r.types.isAllocated ty = true
  subjects : ∀ d ∈ r.deconstructors ty, r.types.isAllocated d.subject = true
  outputs : ∀ d ∈ r.deconstructors ty, ∀ output ∈ d.outputs, r.types.isAllocated output = true
  complete : (r'.deconstructors ty).length = (r.deconstructors ty).length

/-- **Whether an argument can receive an output** is decided as before. The
type that a variable states may be anything. -/
theorem GrowsInto.fits_iff (h : r.GrowsInto r') {p : Pattern}
    (hsettled : ∀ ty ∈ p.targets, r.Settled r' ty) {output : TypeId}
    (ha : r.types.isAllocated output = true) : r'.Fits output p ↔ r.Fits output p := by
  cases p with
  | bind name type span =>
    cases type with
    | none => exact Iff.rfl
    | some declared =>
      rw [Fits, Fits, h.isSubtype_eq ha]
  | discard span => exact Iff.rfl
  | record target patterns span =>
    have htarget : r.Settled r' target := hsettled target (by simp [Pattern.targets])
    rw [Fits, Fits, h.deconstructors_eq htarget.complete, h.isRelated_eq ha htarget.allocated]
    refine or_congr_left (exists_congr fun d => and_congr_right fun hd => ?_)
    rw [h.isRelated_eq ha (htarget.subjects d hd)]

/-- Whether a deconstructor suits some arguments is decided as before. -/
theorem GrowsInto.suits_iff (h : r.GrowsInto r') {patterns : List Pattern}
    (hsettled : ∀ ty ∈ Pattern.targetsAll patterns, r.Settled r' ty) {d : Deconstructor}
    (houtputs : ∀ output ∈ d.outputs, r.types.isAllocated output = true) :
    r'.Suits patterns d ↔ r.Suits patterns d := by
  rw [Suits, Suits]
  generalize d.outputs = outputs at houtputs
  induction patterns generalizing outputs with
  | nil => simp
  | cons p rest ih =>
    cases outputs with
    | nil => simp
    | cons output outputs =>
      rw [Pattern.targetsAll, List.forall_mem_append] at hsettled
      rw [List.forall_mem_cons] at houtputs
      rw [List.forall₂_cons, List.forall₂_cons, h.fits_iff hsettled.1 houtputs.1,
        ih hsettled.2 outputs houtputs.2]

/-- **What is selected stays selected**, there being no further deconstructor,
and the others suiting no more than before. -/
theorem GrowsInto.selects (h : r.GrowsInto r') {target : TypeId} {patterns : List Pattern}
    {d : Deconstructor} (htarget : r.Settled r' target)
    (hsettled : ∀ ty ∈ Pattern.targetsAll patterns, r.Settled r' ty)
    (hselects : r.Selects target patterns d) : r'.Selects target patterns d := by
  obtain ⟨before, later, hsplit, hsuits, hothers⟩ := hselects
  have hiff : ∀ e ∈ before ++ d :: later, (r'.Suits patterns e ↔ r.Suits patterns e) := by
    intro e he
    rw [← hsplit] at he
    exact h.suits_iff hsettled (htarget.outputs e he)
  refine ⟨before, later, ?_, (hiff d (by simp)).mpr hsuits, fun other hother => ?_⟩
  · rw [h.deconstructors_eq htarget.complete, hsplit]
  · have hmem : other ∈ before ++ d :: later := by
      rw [List.mem_append] at hother ⊢
      exact hother.imp_right (List.mem_cons_of_mem d)
    rw [hiff other hmem]
    exact hothers other hother

/-- **The test is the same one.** -/
theorem GrowsInto.narrows (h : r.GrowsInto r') {static needed : TypeId} {test : TypeTest}
    (hstatic : r.types.isAllocated static = true)
    (hneeded : r.types.isAllocated needed = true)
    (hnarrows : r.types.Narrows static needed test) : r'.types.Narrows static needed test :=
  hnarrows.persists h.grounded h.grounded' h.types hstatic hneeded

/-- **One node**, given that its arguments are elaborated as before. -/
theorem Elaborates.persists_of_all (h : r.GrowsInto r') {source : Source}
    {static target : TypeId} {patterns : List Pattern} {span : Span} {plan : Plan}
    (htarget : r.Settled r' target)
    (hsettled : ∀ ty ∈ Pattern.targetsAll patterns, r.Settled r' ty)
    (hstatic : r.types.isAllocated static = true)
    (hall : ∀ {outputs arguments}, (∀ output ∈ outputs, r.types.isAllocated output = true) →
      r.ElaboratesAll 0 outputs patterns arguments → r'.ElaboratesAll 0 outputs patterns arguments)
    (hjudge : r.Elaborates source static target patterns span plan) :
    r'.Elaborates source static target patterns span plan := by
  obtain ⟨hselected, hnarrowed, hinside⟩ := hjudge
  have hneeded := htarget.subjects _ hselected.mem
  have houtputs := htarget.outputs _ hselected.mem
  exact .node (h.selects htarget hsettled hselected) (h.narrows hstatic hneeded hnarrowed)
    (hall houtputs hinside)

mutual

/-- **One argument** is elaborated as before. -/
theorem ElaboratesArgument.persists (h : r.GrowsInto r') :
    ∀ (p : Pattern) {index : Nat} {output : TypeId} {a : Argument},
      (∀ ty ∈ p.targets, r.Settled r' ty) → r.types.isAllocated output = true →
      r.ElaboratesArgument index output p a → r'.ElaboratesArgument index output p a
  | .bind name type span, index, output, _, _, _, hjudge => by
    cases hjudge
    exact .bind index output name type span
  | .discard span, index, output, _, _, _, hjudge => by
    cases hjudge
    exact .discard index output span
  | .record target patterns span, _, _, _, hsettled, houtput, hjudge => by
    obtain _ | _ | ⟨hinside⟩ := hjudge
    rw [Pattern.targets, List.forall_mem_cons] at hsettled
    exact .nested (hinside.persists_of_all h hsettled.1 hsettled.2 houtput
      fun houtputs hjudge => ElaboratesAll.persists h patterns hsettled.2 houtputs hjudge)

/-- **Several arguments**, each for its own output. -/
theorem ElaboratesAll.persists (h : r.GrowsInto r') :
    ∀ (patterns : List Pattern) {index : Nat} {outputs : List TypeId} {arguments : List Argument},
      (∀ ty ∈ Pattern.targetsAll patterns, r.Settled r' ty) →
      (∀ output ∈ outputs, r.types.isAllocated output = true) →
      r.ElaboratesAll index outputs patterns arguments →
      r'.ElaboratesAll index outputs patterns arguments
  | [], index, _, _, _, _, hjudge => by
    cases hjudge
    exact .nil index
  | p :: rest, _, _, _, hsettled, houtputs, hjudge => by
    obtain _ | ⟨first, others⟩ := hjudge
    rw [Pattern.targetsAll, List.forall_mem_append] at hsettled
    rw [List.forall_mem_cons] at houtputs
    exact .cons (ElaboratesArgument.persists h p hsettled.1 houtputs.1 first)
      (ElaboratesAll.persists h rest hsettled.2 houtputs.2 others)

end

/-- **Resolving a pattern** comes to the same plan under a registry that
extends the one it was resolved under. -/
theorem GrowsInto.resolve_eq_ok (h : r.GrowsInto r') {maxDepth : Nat} {subject : Subject}
    {target : TypeId} {patterns : List Pattern} {plan : Plan}
    (hstatic : r.types.isAllocated subject.type = true)
    (hsettled : ∀ ty ∈ target :: Pattern.targetsAll patterns, r.Settled r' ty)
    (hplan : (Resolver.ofRegistry r maxDepth).resolve subject target patterns = .ok plan) :
    (Resolver.ofRegistry r' maxDepth).resolve subject target patterns = .ok plan := by
  rw [Resolver.resolve_eq_ok_iff (Resolver.uses_ofRegistry r maxDepth)] at hplan
  rw [Resolver.resolve_eq_ok_iff (Resolver.uses_ofRegistry r' maxDepth)]
  rw [List.forall_mem_cons] at hsettled
  obtain ⟨hdepth, hjudge, hnames⟩ := hplan
  refine ⟨hdepth, ?_, hnames⟩
  exact hjudge.persists_of_all h hsettled.1 hsettled.2 hstatic fun houtputs hinside =>
    ElaboratesAll.persists h patterns hsettled.2 houtputs hinside

/-! ## Any further edits -/

/-- **What was resolved or matched once stays so.** Take a reachable registry
and edit it further, in whatever way, refused declarations included. First,
evaluate any plan for a value whose records are of allocated types, with a host
without a memory that produces no other values as long as it is given no other
ones. If that came to a result before, it comes to the same result after, and
the calls on the host are the same ones in the same order. Second, resolve any
pattern, with any limit on nesting and from any static type that is allocated.
If that came to a plan before, it comes to the same plan after, provided that
every type that the pattern names is settled: it is allocated, the types that
its deconstructors mention are, and it has not got another deconstructor since,
be it by a declaration or from outside. -/
theorem stable_after (hreachable : r.Reachable) (edits : List Edit) :
    (∀ (plan : Plan) (v : Value) (host : PureHost) (result : Option Bindings),
      r.types.Covers v → r.types.Contains host → (plan.evaluate r v).under host = .ok result →
      (plan.evaluate (r.after edits) v).under host = .ok result
        ∧ (plan.evaluate (r.after edits) v).calls host = (plan.evaluate r v).calls host)
      ∧ ∀ (maxDepth : Nat) (subject : Subject) (target : TypeId) (patterns : List Pattern)
        (plan : Plan), r.types.isAllocated subject.type = true →
        (∀ ty ∈ target :: Pattern.targetsAll patterns, r.Settled (r.after edits) ty) →
        (Resolver.ofRegistry r maxDepth).resolve subject target patterns = .ok plan →
        (Resolver.ofRegistry (r.after edits) maxDepth).resolve subject target patterns
          = .ok plan := by
  have h : r.GrowsInto (r.after edits) := hreachable.coherent.growsInto edits
  constructor
  · intro plan v host result hv hhost hresult
    exact (h.follows_evaluate plan hv).under_eq hhost hresult
  · intro maxDepth subject target patterns plan hstatic hsettled hplan
    exact h.resolve_eq_ok hstatic hsettled hplan

end Registry

/-- Wagons, and trains that have a wagon in front and tell their length by a
getter. -/
def trains : Registry := .after .empty
  [ .introduce .record "Wagon" .object,
    .introduce .record "Train" .object,
    .declare ⟨⟨4⟩, .nominal 0, [⟨⟨6⟩, .int, false, .generated⟩], [], .generated⟩,
    .declare ⟨⟨5⟩, .nominal 1,
      [⟨⟨7⟩, .nominal 0, false, .generated⟩, ⟨⟨8⟩, .int, false, .generated⟩],
      [⟨⟨8⟩, .property .int, some ⟨0⟩, .generated⟩], .generated⟩ ]

/-- A type derived from wagons, with a deconstructor, and a second declaration
of trains, which is refused. -/
def extensions : List Edit :=
  [ .introduce .record "Tender" (.nominal 0),
    .declare ⟨⟨9⟩, .nominal 2, [⟨⟨6⟩, .text, false, .generated⟩], [], .generated⟩,
    .add (.nominal 2) [⟨.deconstruct, .deconstructor (.nominal 0) [.int], some ⟨1⟩, .generated⟩],
    .declare ⟨⟨5⟩, .nominal 1, [], [], .generated⟩,
    .intern "sleeper" ]

/-- All trains are two wagons long. -/
def trainHost : PureHost
  | .property .. => .ok (.int 2)
  | call => call.refuse

/-- A train that stores some other length. -/
def train : Value := .record (.nominal 1) [.record (.nominal 0) [.int 5], .int 9]

/-- Trains are matched as before once tenders are there, and by the same
plan. -/
theorem stable_after_trains :
    trains.Reachable ∧ (trains.after extensions).types.size = trains.types.size + 1
      ∧ ∃ plan, (Resolver.ofRegistry (trains.after extensions) 64).resolve
          ⟨⟨0⟩, .object, .generated⟩ (.nominal 1)
          [.record (.nominal 0) [.bind ⟨10⟩ none .generated] .generated,
            .bind ⟨11⟩ (some .int) .generated] = .ok plan
        ∧ (plan.evaluate (trains.after extensions) train).under trainHost
            = .ok (some [(⟨10⟩, .int 5), (⟨11⟩, .int 2)])
        ∧ (plan.evaluate (trains.after extensions) train).calls trainHost
            = [.property ⟨0⟩ train] := by
  have hreachable : trains.Reachable := ⟨_, rfl⟩
  obtain ⟨hevaluate, hresolve⟩ := Registry.stable_after hreachable extensions
  have hcovers : trains.types.Covers train := by
    have hwagon : trains.types.Covers (.record (.nominal 0) [.int 5]) :=
      .record rfl (by simp [TypeTable.Covers.int])
    exact .record rfl (by simp [hwagon, TypeTable.Covers.int])
  have hhost : trains.types.Contains trainHost := by
    intro call _ v hv
    cases call with
    | property body receiver =>
      rw [List.mem_singleton.mp hv]
      exact .int 2
    | _ => cases hv
  have hsettled : ∀ ty ∈ [TypeId.nominal 1, .nominal 0],
      trains.Settled (trains.after extensions) ty := by
    simp only [List.forall_mem_cons, List.not_mem_nil, false_implies, implies_true, and_true]
    exact ⟨⟨rfl, by decide, by decide, rfl⟩, ⟨rfl, by decide, by decide, rfl⟩⟩
  obtain ⟨plan, hplan, hresult, hcalls⟩ : ∃ plan, (Resolver.ofRegistry trains 64).resolve
          ⟨⟨0⟩, .object, .generated⟩ (.nominal 1)
          [.record (.nominal 0) [.bind ⟨10⟩ none .generated] .generated,
            .bind ⟨11⟩ (some .int) .generated] = .ok plan
        ∧ (plan.evaluate trains train).under trainHost
            = .ok (some [(⟨10⟩, .int 5), (⟨11⟩, .int 2)])
        ∧ (plan.evaluate trains train).calls trainHost = [.property ⟨0⟩ train] :=
    ⟨_, rfl, rfl, rfl⟩
  obtain ⟨hresult', hcalls'⟩ := hevaluate plan train trainHost _ hcovers hhost hresult
  have hplan' := hresolve 64 _ _ _ plan rfl hsettled hplan
  exact ⟨hreachable, rfl, plan, hplan', hresult', hcalls'.trans hcalls⟩

end RecordPatterns
