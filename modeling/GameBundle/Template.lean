/-!
# Templates

A template is walked through once, from left to right: at each place the longest token
that the rest starts with gives way to its value, and where there is none one character
is copied. The walk goes on behind the token, so values are never searched for tokens.
-/

namespace GameBundle.Template

/-- A token and the value that takes its place. -/
abbrev Substitution := List Char × List Char

/-- The substitution for the longest non-empty token that a text starts with; of several
for that token the last. -/
def longest? (substitutions : List Substitution) (text : List Char) : Option Substitution :=
  (substitutions.reverse.filter fun (token, _) => token ≠ [] && token.isPrefixOf text).maxOn?
    fun (token, _) => token.length

def firstByte? : List Char → Option UInt8
  | [] => none
  | c :: _ => (String.utf8EncodeChar c).head?

def firstBytes (substitutions : List Substitution) : List UInt8 :=
  substitutions.filterMap fun (token, _) => firstByte? token

def startsWithin (bytes : List UInt8) (text : List Char) : Bool :=
  (firstByte? text).any bytes.contains

/-- Walks through a text and puts values in the place of tokens. Tokens are looked for
at candidates only. -/
def scan (candidate : List Char → Bool) (substitutions : List Substitution) :
    List Char → List Char
  | [] => []
  | c :: rest =>
    match if candidate (c :: rest) then longest? substitutions (c :: rest) else none with
    | some (token, value) =>
      value ++ scan candidate substitutions (rest.drop (token.length - 1))
    | none => c :: scan candidate substitutions rest
termination_by text => text.length
decreasing_by all_goals simp [List.length_drop]; try omega

/-- Fills a template. Most places do not start like a token, which one byte tells. -/
def fillChars (substitutions : List Substitution) (template : List Char) : List Char :=
  scan (startsWithin (firstBytes substitutions)) substitutions template

def characters (substitutions : List (String × String)) : List Substitution :=
  substitutions.map fun (token, value) => (token.toList, value.toList)

/-- Fills a template; tokens without a substitution stay as they are. -/
def fill (template : String) (substitutions : List (String × String)) : String :=
  String.ofList (fillChars (characters substitutions) template.toList)

/-- The token of a placeholder, its name in double braces. -/
def placeholder (name : String) : String := "\x7b\x7b" ++ name ++ "\x7d\x7d"

/-- Characters of a placeholder's name. -/
def isNameChar (c : Char) : Bool := c.isUpper || c.isDigit || c = '_'

/-- The names of the placeholders in a text. Where two opening braces begin none, the
search goes on behind them. -/
def placeholderNames : List Char → List (List Char)
  | '{' :: '{' :: rest =>
    let name := rest.takeWhile isNameChar
    let behind := rest.drop name.length
    if name ≠ [] ∧ ['}', '}'].isPrefixOf behind then
      name :: placeholderNames (behind.drop 2)
    else placeholderNames rest
  | _ :: rest => placeholderNames rest
  | [] => []
termination_by text => text.length
decreasing_by all_goals simp [List.length_drop]; try omega

/-- The placeholders left in a text, in the order of their appearance. -/
def unresolved (text : String) : List String :=
  (placeholderNames text.toList).map fun name => placeholder (String.ofList name)

end GameBundle.Template
