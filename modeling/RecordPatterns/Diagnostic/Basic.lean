/-
Diagnostics: errors in the form in which they are reported.

A diagnostic has a code and a message, perhaps the record or pattern that it
is about, and any number of labelled spans, notes and suggestions. It is put
together piece by piece; each piece goes after those of its kind already
there, except that there is only one context, and the last one given counts.
The written form is one line for the message and one for each piece.
-/
import RecordPatterns.Diagnostic.Code
import RecordPatterns.Span

set_option autoImplicit false

namespace RecordPatterns

/-- What a diagnostic is reported against. -/
inductive Diagnostic.Context where
  /-- A record declaration, by its name. -/
  | record (name : String)
  /-- A pattern, by the name of the type that it takes apart. -/
  | pattern (target : String)
deriving DecidableEq

/-- The line that names the context. -/
def Diagnostic.Context.render : Diagnostic.Context → String
  | .record name => s!"in record `{name}`"
  | .pattern target => s!"in pattern `{target}(...)`"

/-- A span with a few words. The primary spans are the places at fault, the
others show what is at odds with them. -/
structure Diagnostic.Label where
  span : Span
  message : String
  isPrimary : Bool
deriving DecidableEq

/-- The line of a label. -/
def Diagnostic.Label.render (l : Diagnostic.Label) : String :=
  let marker := if l.isPrimary then "-->" else "..."
  s!"{marker} {l.span.render}: {l.message}"

/-- An error as it is reported. -/
structure Diagnostic where
  code : Diagnostic.Code
  message : String
  context : Option Diagnostic.Context
  labels : List Diagnostic.Label
  notes : List String
  /-- How the author could mend the error. -/
  help : List String
deriving DecidableEq

namespace Diagnostic

/-- A report of a code and a message and nothing else. -/
def plain (code : Code) (message : String) : Diagnostic :=
  ⟨code, message, none, [], [], []⟩

/-- Reported against a record declaration. -/
def inRecord (d : Diagnostic) (name : String) : Diagnostic :=
  { d with context := some (.record name) }

/-- Reported against a pattern. -/
def inPattern (d : Diagnostic) (target : String) : Diagnostic :=
  { d with context := some (.pattern target) }

/-- One more place at fault. -/
def label (d : Diagnostic) (span : Span) (message : String) : Diagnostic :=
  { d with labels := d.labels ++ [⟨span, message, true⟩] }

/-- One more place that shows what the fault is at odds with. -/
def secondary (d : Diagnostic) (span : Span) (message : String) : Diagnostic :=
  { d with labels := d.labels ++ [⟨span, message, false⟩] }

/-- One more remark. -/
def note (d : Diagnostic) (remark : String) : Diagnostic :=
  { d with notes := d.notes ++ [remark] }

/-- One more way to mend the error. -/
def suggest (d : Diagnostic) (suggestion : String) : Diagnostic :=
  { d with help := d.help ++ [suggestion] }

/-- The first place at fault. -/
def primarySpan? (d : Diagnostic) : Option Span :=
  (d.labels.find? (·.isPrimary)).map Label.span

/-- The lines below the message: the context, the labels, the notes and the
suggestions, in this order. -/
def details (d : Diagnostic) : List String :=
  (d.context.map Context.render).toList
    ++ d.labels.map Label.render
    ++ d.notes.map ("= note: " ++ ·)
    ++ d.help.map ("= help: " ++ ·)

/-- The written form: the message with its code, and the details, each on an
indented line of its own. -/
def render (d : Diagnostic) : String :=
  s!"error[{d.code.text}]: {d.message}" ++ String.join (d.details.map ("\n  " ++ ·))

end Diagnostic

end RecordPatterns
