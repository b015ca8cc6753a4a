import GameBundle.Text.CharRanges
import GameBundle.Text.LowerCaseTable

/-!
# Lower case

A text is lowered character by character. A capital sigma becomes the final
sigma when a cased letter comes before it and none after it, where characters
that carry no case of their own are passed over. A capital I with a dot becomes
an i followed by the combining dot.
-/

namespace GameBundle.Text

def isCased (c : Char) : Bool := inRanges casedRanges c

def isCaseIgnorable (c : Char) : Bool := inRanges caseIgnorableRanges c

/-- Lower-case form of a letter that has one of a single character. -/
def lowerChar (c : Char) : Char :=
  if c.toNat < 128 then c.toLower
  else
    match caseRuns.find? fun run =>
      run.first ≤ c.toNat && c.toNat ≤ run.last && (c.toNat - run.first) % run.step == 0 with
    | some run => Char.ofNat (c.toNat + run.shift).toNat
    | none => c

/-- Whether the first character that matters for case has one. -/
def meetsCased (text : List Char) : Bool :=
  match text.dropWhile isCaseIgnorable with
  | [] => false
  | c :: _ => isCased c

/-- Lowers the characters that follow `before`, which is given in reverse. -/
def lowerFrom (before : List Char) : List Char → List Char
  | [] => []
  | c :: rest =>
    let lowered :=
      if c = 'Σ' then [if meetsCased before && !meetsCased rest then 'ς' else 'σ']
      else if c = 'İ' then ['i', '\u0307']
      else [lowerChar c]
    lowered ++ lowerFrom (c :: before) rest

def lower (text : String) : String := String.ofList (lowerFrom [] text.toList)

/-- Lower case of ASCII letters only; all other characters stay. -/
def lowerAscii (text : String) : String := String.ofList (text.toList.map Char.toLower)

end GameBundle.Text
