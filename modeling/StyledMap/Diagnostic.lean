import StyledMap.Json.Basic

/-! # Diagnostics

A `Diagnostic` reports a problem that a style survives: what kind it is, which layer, source or link
it is about, and a message.
-/

set_option autoImplicit false

namespace StyledMap

/-- The kinds of problems that a style survives. -/
inductive DiagnosticKind
  | danglingReference
  | sourceUnavailable
  | spriteUnavailable
  deriving DecidableEq, Repr

namespace DiagnosticKind

def key : DiagnosticKind → String
  | danglingReference => "dangling_reference"
  | sourceUnavailable => "source_unavailable"
  | spriteUnavailable => "sprite_unavailable"

def title : DiagnosticKind → String
  | danglingReference => "DanglingReference"
  | sourceUnavailable => "SourceUnavailable"
  | spriteUnavailable => "SpriteUnavailable"

end DiagnosticKind

/-- A problem that a style survives. -/
structure Diagnostic where
  kind : DiagnosticKind
  subject : String
  message : String
  deriving DecidableEq, Repr

namespace Diagnostic

def text (d : Diagnostic) : String :=
  s!"{d.kind.title} ({d.subject}): {d.message}"

def toJson (d : Diagnostic) : Json :=
  .object [("kind", .string d.kind.key), ("message", .string d.message),
    ("subject", .string d.subject)]

end Diagnostic

end StyledMap
