/-!
# Texts inside XML

The five characters with a meaning in markup are given by their entities.
-/

namespace GameBundle.Markup

def entity? (c : Char) : Option (List Char) :=
  if c = '&' then some ['a', 'm', 'p']
  else if c = '<' then some ['l', 't']
  else if c = '>' then some ['g', 't']
  else if c = '"' then some ['q', 'u', 'o', 't']
  else if c = '\'' then some ['a', 'p', 'o', 's']
  else none

def escapeChar (c : Char) : List Char :=
  match entity? c with
  | some name => '&' :: (name ++ [';'])
  | none => [c]

def escapeChars (text : List Char) : List Char := text.flatMap escapeChar

def escape (text : String) : String := String.ofList (escapeChars text.toList)

end GameBundle.Markup
