import GameBundle.Target

/-!
# Options on a command line

Options have long names and perhaps a letter. A value follows its option as the next
argument, behind an equals sign, or right behind the letter. An argument that begins
with a dash is never a value, unless it is a dash alone.
-/

namespace GameBundle

/-- How many values an option takes. -/
inductive Arity where
  | none
  | one
  | many
deriving DecidableEq, Repr

structure OptionForm where
  name : String
  letter : Option Char
  arity : Arity
deriving DecidableEq, Repr

inductive UsageFault where
  | noCommand
  | unexpected (argument : String)
  | noValue (option : String)
  | needlessValue (option : String)
  | repeated (option : String)
  | missing (option : String)
  | badValue (option value : String)
  | unknownTarget (name : String)
deriving DecidableEq, Repr

def UsageFault.message : UsageFault → String
  | .noCommand => "a command is required"
  | .unexpected argument => "unexpected argument " ++ Json.quoteName argument
  | .noValue option => "a value is required for --" ++ option
  | .needlessValue option => "--" ++ option ++ " takes no value"
  | .repeated option => "--" ++ option ++ " cannot be used more than once"
  | .missing option => "--" ++ option ++ " is required"
  | .badValue option value => "invalid value " ++ Json.quoteName value ++ " for --" ++ option
  | .unknownTarget name =>
    "invalid value " ++ Json.quoteName name ++ " for --target: " ++ Target.unknownMessage name

namespace Usage

/-- The parts of an argument. -/
inductive Token where
  /-- Two dashes, behind which there are no options. -/
  | escape
  | long (name : String) (value : Option String)
  | short (letter : Char) (rest : List Char)
  | plain
deriving DecidableEq, Repr

/-- A name and what follows behind an equals sign. -/
def splitEquals (text : List Char) : String × Option String :=
  match text.dropWhile (· ≠ '=') with
  | [] => (String.ofList text, none)
  | _ :: value => (String.ofList (text.takeWhile (· ≠ '=')), some (String.ofList value))

def Token.ofArgument (argument : String) : Token :=
  match argument.toList with
  | ['-', '-'] => .escape
  | '-' :: '-' :: text =>
    let (name, value) := splitEquals text
    .long name value
  | '-' :: letter :: rest => .short letter rest
  | _ => .plain

/-- The value right behind a letter, where an equals sign may come first. -/
def attached? : List Char → Option String
  | [] => none
  | '=' :: value => some (String.ofList value)
  | value => some (String.ofList value)

/-- An option as it was given, with its values so far. -/
structure Given where
  form : OptionForm
  values : List String
deriving DecidableEq, Repr

def close (waiting : Option Given) (done : List Given) : Except UsageFault (List Given) :=
  match waiting with
  | none => .ok done
  | some given =>
    if given.values = [] then .error (.noValue given.form.name) else .ok (done ++ [given])

def begin (form : OptionForm) (value : Option String) (done : List Given) :
    Except UsageFault (Option Given × List Given) :=
  if form.arity ≠ .many ∧ done.any (·.form.name = form.name) then .error (.repeated form.name)
  else
    match form.arity, value with
    | .none, none => .ok (none, done ++ [⟨form, []⟩])
    | .none, some _ => .error (.needlessValue form.name)
    | _, none => .ok (some ⟨form, []⟩, done)
    | _, some value => .ok (none, done ++ [⟨form, [value]⟩])

def scan (forms : List OptionForm) (escaped : Bool) (waiting : Option Given) (done : List Given) :
    List String → Except UsageFault (List Given)
  | [] => close waiting done
  | argument :: rest =>
    if escaped then .error (.unexpected argument)
    else
      match Token.ofArgument argument with
      | .escape => scan forms true waiting done rest
      | .long name value => do
        let some form := forms.find? (·.name = name) | .error (.unexpected argument)
        let (waiting, done) ← begin form value (← close waiting done)
        scan forms false waiting done rest
      | .short letter value => do
        let some form := forms.find? (·.letter = some letter) | .error (.unexpected argument)
        let (waiting, done) ← begin form (attached? value) (← close waiting done)
        scan forms false waiting done rest
      | .plain =>
        match waiting with
        | none => .error (.unexpected argument)
        | some given =>
          let given := { given with values := given.values ++ [argument] }
          if given.form.arity = .many then scan forms false (some given) done rest
          else scan forms false none (done ++ [given]) rest

def options (forms : List OptionForm) (arguments : List String) : Except UsageFault (List Given) :=
  scan forms false none [] arguments

def valuesOf (name : String) (given : List Given) : List String :=
  (given.filter (·.form.name = name)).flatMap Given.values

def value? (name : String) (given : List Given) : Option String := (valuesOf name given).head?

def isGiven (name : String) (given : List Given) : Bool := given.any (·.form.name = name)

end Usage

end GameBundle
