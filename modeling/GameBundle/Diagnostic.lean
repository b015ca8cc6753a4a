import GameBundle.Json.Decoder

/-!
# Diagnostics

A diagnostic reports something that was degraded or missing without stopping the
work. Codes from 200 to 299 belong to the export, all others to code generation.
-/

namespace GameBundle

/-- The part of the work that a diagnostic is about. -/
inductive Phase where
  | codegen
  | export
deriving DecidableEq, Repr

namespace Phase

def name : Phase → String
  | .codegen => "codegen"
  | .export => "export"

def table : List (String × Phase) := [("codegen", .codegen), ("export", .export)]

end Phase

/-- Every soft failure is a warning. -/
inductive Severity where
  | warning
deriving DecidableEq, Repr

namespace Severity

def name : Severity → String
  | .warning => "warning"

def table : List (String × Severity) := [("warning", .warning)]

end Severity

structure Code where
  number : Nat
deriving DecidableEq, Repr

namespace Code

def unmappedFunctionName : Code := ⟨100⟩
def unrecognizedPropertyType : Code := ⟨101⟩
def unresolvedPlaceholder : Code := ⟨102⟩
def missingResourceFile : Code := ⟨200⟩
def missingIncludeFile : Code := ⟨201⟩
def missingSourceFile : Code := ⟨202⟩
def missingIconFile : Code := ⟨203⟩

def phase (code : Code) : Phase :=
  if 200 ≤ code.number ∧ code.number ≤ 299 then .export else .codegen

def text (code : Code) : String := "W" ++ Decimal.text code.number

end Code

structure Diagnostic where
  code : Code
  severity : Severity
  phase : Phase
  message : String
  /-- The file or symbol that the diagnostic is about. -/
  subject : Option String
deriving DecidableEq, Repr

namespace Diagnostic

def warning (code : Code) (message : String) (subject : Option String) : Diagnostic :=
  ⟨code, .warning, code.phase, message, subject⟩

def text (diagnostic : Diagnostic) : String :=
  diagnostic.code.text ++ " [" ++ diagnostic.phase.name ++ "] " ++ diagnostic.message ++
    match diagnostic.subject with
    | some subject => " (" ++ subject ++ ")"
    | none => ""

def toJson (diagnostic : Diagnostic) : Json :=
  .object ([("code", .natural diagnostic.code.number),
    ("severity", .string diagnostic.severity.name),
    ("stage", .string diagnostic.phase.name),
    ("message", .string diagnostic.message)] ++
    match diagnostic.subject with
    | some subject => [("subject", .string subject)]
    | none => [])

def recordType : Json.RecordType Diagnostic where
  name := "Diagnostic"
  blank := ⟨⟨0⟩, .warning, .codegen, "", none⟩
  fields := [
    .required "code" (.unsigned 16) fun number d => { d with code := ⟨number⟩ },
    .required "severity" (.variant Severity.table) fun severity d => { d with severity },
    .required "stage" (.variant Phase.table) fun phase d => { d with phase },
    .required "message" .text fun message d => { d with message },
    .omissible "subject" (.nullable .text) fun subject d => { d with subject }]

end Diagnostic

/-- What one generation or export run has reported, in order. -/
structure Diagnostics where
  items : List Diagnostic
deriving DecidableEq, Repr

namespace Diagnostics

def empty : Diagnostics := ⟨[]⟩

def push (diagnostics : Diagnostics) (diagnostic : Diagnostic) : Diagnostics :=
  ⟨diagnostics.items ++ [diagnostic]⟩

def append (diagnostics more : Diagnostics) : Diagnostics := ⟨diagnostics.items ++ more.items⟩

def warn (diagnostics : Diagnostics) (code : Code) (message subject : String) : Diagnostics :=
  diagnostics.push (.warning code message (some subject))

def hasWarnings (diagnostics : Diagnostics) : Bool :=
  diagnostics.items.any fun diagnostic => diagnostic.severity == .warning

def count (diagnostics : Diagnostics) (code : Code) : Nat :=
  diagnostics.items.countP fun diagnostic => diagnostic.code == code

def size (diagnostics : Diagnostics) : Nat := diagnostics.items.length

def texts (diagnostics : Diagnostics) : List String := diagnostics.items.map Diagnostic.text

def toJson (diagnostics : Diagnostics) : Json :=
  .object [("items", .list Diagnostic.toJson diagnostics.items)]

def recordType : Json.RecordType Diagnostics where
  name := "Diagnostics"
  blank := empty
  fields := [.required "items" (.list Diagnostic.recordType.decode) fun items _ => ⟨items⟩]

end Diagnostics

end GameBundle
