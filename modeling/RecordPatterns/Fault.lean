/-
Faults: what can go wrong while a program runs.

A match that fails is no fault; it is an answer. Faults come from building a
record with unfit arguments, from reading members that are not there or have
nothing to run, from evaluating part of a plan as if it were the whole, and
from user code, whose own words are passed on as they are. A fault may know
where it arose.
-/
import RecordPatterns.Diagnostic.Basic

set_option autoImplicit false

namespace RecordPatterns

/-- Why a run stopped. -/
inductive Fault.Cause where
  /-- A constructor of this record was given too few or too many arguments. -/
  | constructorArity (record : String) (expected found : Nat)
  /-- An argument is not of the type of the component it is for. -/
  | constructorType (component expected found : String)
  | unknownMember (record member : String)
  /-- A member was asked of something that is not a record. -/
  | notRecord (found : String)
  /-- A member has to be run but was declared without a body. -/
  | missingBody (member : String)
  /-- A plan node that reads this output of its parent was evaluated alone. -/
  | notMatchSite (output : Nat)
  /-- Raised by user code, in its own words. -/
  | raised (message : String)
deriving DecidableEq

/-- A cause, and the place where it arose if that is known. -/
structure Fault where
  cause : Fault.Cause
  span : Option Span
deriving DecidableEq

namespace Fault

namespace Cause

/-- The kind of error that a cause is. -/
def code : Cause → Diagnostic.Code
  | constructorArity .. => .constructorArity
  | constructorType .. => .constructorType
  | unknownMember .. => .unknownMember
  | notRecord _ => .notRecordValue
  | missingBody _ => .bodyFault
  | notMatchSite _ => .notMatchSite
  | raised _ => .bodyFault

/-- The message of a cause. -/
def message : Cause → String
  | constructorArity record expected found =>
    s!"`{record}` expects {expected} constructor argument(s), found {found}"
  | constructorType component expected found =>
    s!"argument for `{component}` must be `{expected}`, found `{found}`"
  | unknownMember record member => s!"`{record}` has no member `{member}`"
  | notRecord found => s!"expected a record value, found `{found}`"
  | missingBody member => s!"member `{member}` has no body"
  | notMatchSite output =>
    s!"plan reads output {output} of a parent operator and is not a match site"
  | raised message => message

/-- The record that a cause is reported against. -/
def record? : Cause → Option String
  | constructorArity record _ _ => some record
  | unknownMember record _ => some record
  | _ => none

end Cause

/-- A fault whose place is not known. -/
def of (cause : Cause) : Fault := ⟨cause, none⟩

/-- A fault that user code raises. -/
def raise (message : String) : Fault := of (.raised message)

/-- The same fault, known to have arisen at some place. -/
def arisingAt (f : Fault) (span : Span) : Fault := { f with span := some span }

/-- Whether user code raised a fault. -/
def isRaised (f : Fault) : Bool :=
  match f.cause with
  | .raised _ => true
  | _ => false

/-- The message of a fault is that of its cause. -/
def message (f : Fault) : String := f.cause.message

/-- The report of a fault. -/
def report (f : Fault) : Diagnostic :=
  let base := Diagnostic.plain f.cause.code f.message
  let base := match f.cause.record? with
    | some record => base.inRecord record
    | none => base
  match f.span with
  | some span => base.label span "raised here"
  | none => base

end Fault

end RecordPatterns
