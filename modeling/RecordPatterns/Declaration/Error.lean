/-
What can be wrong with a record declaration.

All of these are found when the declaration is taken in, and none is put off
until the program runs.
-/
import RecordPatterns.Diagnostic.Basic

set_option autoImplicit false

namespace RecordPatterns

/-- Why a declaration was not taken in. -/
inductive DeclarationError where
  /-- Two components share a name. -/
  | duplicateComponent (record component : String) (first second : Span)
  | mutableComponent (record component : String) (span : Span)
  /-- The type declared was not introduced as a record type. -/
  | notRecord (name : String) (span : Span)
  | alreadyDeclared (record : String) (span : Span)
deriving DecidableEq

namespace DeclarationError

/-- The kind of error. -/
def code : DeclarationError → Diagnostic.Code
  | duplicateComponent .. => .duplicateComponent
  | mutableComponent .. => .mutableComponent
  | notRecord .. => .notRecordType
  | alreadyDeclared .. => .declaredTwice

/-- The place at fault; of two components with one name, the second. -/
def span : DeclarationError → Span
  | duplicateComponent _ _ _ second => second
  | mutableComponent _ _ span => span
  | notRecord _ span => span
  | alreadyDeclared _ span => span

/-- The message of an error. -/
def message : DeclarationError → String
  | duplicateComponent record component _ _ =>
    s!"duplicate primary member `{component}` in record `{record}`"
  | mutableComponent record component _ =>
    s!"primary member `{component}` of record `{record}` cannot be mutable"
  | notRecord name _ => s!"`{name}` is not a record type"
  | alreadyDeclared record _ => s!"record `{record}` is already declared"

/-- The report of an error. -/
def report (e : DeclarationError) : Diagnostic :=
  let base := Diagnostic.plain e.code e.message
  match e with
  | duplicateComponent record _ first second =>
    ((base.inRecord record).label second "redeclared here").secondary first
      "first declared here"
  | mutableComponent record _ span =>
    (((base.inRecord record).label span "declared mutable here").note
      "primary members feed the synthesized hash and must not change").suggest
      "declare a separate mutable property in the record body"
  | alreadyDeclared record span => (base.inRecord record).label span "declared again here"
  | notRecord _ span => base.label span "not a record"

end DeclarationError

end RecordPatterns
