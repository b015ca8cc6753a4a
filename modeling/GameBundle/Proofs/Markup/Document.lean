import GameBundle.Proofs.Markup.Inert

/-!
# Well-formed documents

A document is read character by character. What has been read is kept as far as it matters for
what may come: the elements that are open, whether there has been a root element, and what is
being read. Document type declarations are not taken, so that the only entities are the five that
need no declaration.
-/

namespace GameBundle.Markup

def isSpace (c : Char) : Bool := c = ' ' || c = '\t' || c = '\r' || c = '\n'

def isNameStart (c : Char) : Bool :=
  let n := c.toNat
  c.isAlpha || c = ':' || c = '_' || (0xC0 ≤ n && n ≤ 0xD6) || (0xD8 ≤ n && n ≤ 0xF6) ||
    (0xF8 ≤ n && n ≤ 0x2FF) || (0x370 ≤ n && n ≤ 0x37D) || (0x37F ≤ n && n ≤ 0x1FFF) ||
    (0x200C ≤ n && n ≤ 0x200D) || (0x2070 ≤ n && n ≤ 0x218F) || (0x2C00 ≤ n && n ≤ 0x2FEF) ||
    (0x3001 ≤ n && n ≤ 0xD7FF) || (0xF900 ≤ n && n ≤ 0xFDCF) || (0xFDF0 ≤ n && n ≤ 0xFFFD) ||
    (0x10000 ≤ n && n ≤ 0xEFFFF)

def isNameChar (c : Char) : Bool :=
  let n := c.toNat
  isNameStart c || c = '-' || c = '.' || c.isDigit || n = 0xB7 || (0x300 ≤ n && n ≤ 0x36F) ||
    (0x203F ≤ n && n ≤ 0x2040)

def isName : List Char → Bool
  | [] => false
  | c :: rest => isNameStart c && rest.all isNameChar

def isVersion : List Char → Bool
  | '1' :: '.' :: c :: digits => (c :: digits).all Char.isDigit
  | _ => false

def isEncoding : List Char → Bool
  | [] => false
  | c :: rest =>
    c.isAlpha && rest.all fun c => c.isAlpha || c.isDigit || c = '.' || c = '_' || c = '-'

def isStandalone (text : List Char) : Bool := text = ['y', 'e', 's'] || text = ['n', 'o']

def pastQuoted? (good : List Char → Bool) : List Char → Option (List Char)
  | quote :: rest =>
    let value := rest.takeWhile (· ≠ quote)
    if (quote = '"' || quote = '\'') && good value && value.length < rest.length then
      some (rest.drop (value.length + 1))
    else none
  | [] => none

def assignment? (name : List Char) (good : List Char → Bool) (text : List Char) :
    Option (List Char) :=
  match (text.drop name.length).dropWhile isSpace with
  | '=' :: rest =>
    if name.isPrefixOf text then pastQuoted? good (rest.dropWhile isSpace) else none
  | _ => none

def pastAssignment (name : List Char) (good : List Char → Bool) (text : List Char) : List Char :=
  match text with
  | c :: rest =>
    if isSpace c then (assignment? name good (rest.dropWhile isSpace)).getD text else text
  | [] => []

def isDeclaration (text : List Char) : Bool :=
  match assignment? "version".toList isVersion (text.dropWhile isSpace) with
  | some rest =>
    let rest := pastAssignment "encoding".toList isEncoding rest
    (pastAssignment "standalone".toList isStandalone rest).all isSpace
  | none => false

/-- A start tag up to some place: its name and the names of its attributes. -/
structure Tag where
  name : List Char
  attributes : List (List Char)
deriving DecidableEq, Repr

inductive Mode where
  /-- At the very start of the document. -/
  | start
  /-- Between tags, behind a number of closing brackets. -/
  | content (brackets : Nat)
  /-- In a reference, from content or from the value of an attribute between quotes. -/
  | reference (name : List Char) (origin : Option (Tag × Char))
  /-- Behind an opening angle bracket, perhaps the first character of the document. -/
  | opened (first : Bool)
  | tagName (name : List Char)
  /-- In a start tag, where an attribute may begin behind a space only. -/
  | tag (tag : Tag) (spaced : Bool)
  | attribute (tag : Tag) (name : List Char)
  | beforeEquals (tag : Tag)
  | beforeValue (tag : Tag)
  | value (tag : Tag) (quote : Char)
  /-- Behind the slash of an empty element. -/
  | emptyElement
  | endName (name : List Char)
  | endBlank (name : List Char)
  /-- Behind an exclamation mark. -/
  | declared (text : List Char)
  | comment (dashes : Nat)
  | section (brackets : Nat)
  | target (first : Bool) (name : List Char)
  | instruction (first : Bool) (target body : List Char)
  /-- Behind a question mark that follows the target of an instruction. -/
  | bareInstruction (first : Bool) (target : List Char)
deriving DecidableEq, Repr

structure State where
  /-- The names of the open elements, the innermost first. -/
  stack : List (List Char)
  /-- Whether the root element has been begun. -/
  rooted : Bool
  mode : Mode
deriving DecidableEq, Repr

namespace State

def initial : State := ⟨[], false, .start⟩

def enter (state : State) (mode : Mode) : Option State := some { state with mode }

/-- Character data ends at markup, holds no section end, and is blank outside the root. -/
def readContent (state : State) (brackets : Nat) (c : Char) : Option State :=
  if c = '<' then state.enter (.opened false)
  else if state.stack = [] then if isSpace c then state.enter (.content 0) else none
  else if c = '&' then state.enter (.reference [] none)
  else if c = ']' then state.enter (.content (min (brackets + 1) 2))
  else if c = '>' ∧ brackets = 2 then none
  else state.enter (.content 0)

def readReference (state : State) (name : List Char) (origin : Option (Tag × Char)) (c : Char) :
    Option State :=
  if c = ';' then
    if isReference name then
      match origin with
      | none => state.enter (.content 0)
      | some (tag, quote) => state.enter (.value tag quote)
    else none
  else state.enter (.reference (name ++ [c]) origin)

def readOpened (state : State) (first : Bool) (c : Char) : Option State :=
  if c = '/' then state.enter (.endName [])
  else if c = '!' then state.enter (.declared [])
  else if c = '?' then state.enter (.target first [])
  else if isNameStart c && (state.stack ≠ [] || !state.rooted) then state.enter (.tagName [c])
  else none

/-- Between the parts of a start tag. -/
def readTag (state : State) (tag : Tag) (spaced : Bool) (c : Char) : Option State :=
  if isSpace c then state.enter (.tag tag true)
  else if c = '/' then state.enter .emptyElement
  else if c = '>' then some ⟨tag.name :: state.stack, true, .content 0⟩
  else if spaced && isNameStart c then state.enter (.attribute tag [c])
  else none

def readBeforeEquals (state : State) (tag : Tag) (c : Char) : Option State :=
  if isSpace c then state.enter (.beforeEquals tag)
  else if c = '=' then state.enter (.beforeValue tag)
  else none

/-- The name of an attribute may not come again. -/
def readAttribute (state : State) (tag : Tag) (name : List Char) (c : Char) : Option State :=
  if isNameChar c then state.enter (.attribute tag (name ++ [c]))
  else if tag.attributes.contains name then none
  else state.readBeforeEquals { tag with attributes := name :: tag.attributes } c

def readValue (state : State) (tag : Tag) (quote c : Char) : Option State :=
  if c = quote then state.enter (.tag tag false)
  else if c = '<' then none
  else if c = '&' then state.enter (.reference [] (some (tag, quote)))
  else state.enter (.value tag quote)

def close (state : State) (name : List Char) : Option State :=
  match state.stack with
  | innermost :: rest =>
    if innermost = name then some { state with stack := rest, mode := .content 0 } else none
  | [] => none

def readDeclared (state : State) (text : List Char) (c : Char) : Option State :=
  let text := text ++ [c]
  if text = ['-', '-'] then state.enter (.comment 0)
  else if text = "[CDATA[".toList then if state.stack = [] then none else state.enter (.section 0)
  else if text.isPrefixOf ['-', '-'] || text.isPrefixOf "[CDATA[".toList then
    state.enter (.declared text)
  else none

/-- Two dashes end a comment. -/
def readComment (state : State) (dashes : Nat) (c : Char) : Option State :=
  if dashes = 2 then if c = '>' then state.enter (.content 0) else none
  else state.enter (.comment (if c = '-' then dashes + 1 else 0))

def readSection (state : State) (brackets : Nat) (c : Char) : Option State :=
  if c = '>' ∧ brackets = 2 then state.enter (.content 0)
  else state.enter (.section (if c = ']' then min (brackets + 1) 2 else 0))

/-- Only the declaration at the start of the document has its target. -/
def closeInstruction (state : State) (first : Bool) (target body : List Char) : Option State :=
  if target.map Char.toLower = ['x', 'm', 'l'] then
    if first && target = ['x', 'm', 'l'] && isDeclaration body then state.enter (.content 0) else none
  else state.enter (.content 0)

def readTarget (state : State) (first : Bool) (name : List Char) (c : Char) : Option State :=
  if isName name then
    if isNameChar c then state.enter (.target first (name ++ [c]))
    else if isSpace c then state.enter (.instruction first name [])
    else if c = '?' then state.enter (.bareInstruction first name)
    else none
  else if isNameStart c then state.enter (.target first [c])
  else none

def readInstruction (state : State) (first : Bool) (target body : List Char) (c : Char) :
    Option State :=
  if c = '>' ∧ body.getLast? = some '?' then state.closeInstruction first target body.dropLast
  else state.enter (.instruction first target (body ++ [c]))

def next (state : State) (c : Char) : Option State :=
  match state.mode with
  | .start => if c = '<' then state.enter (.opened true) else state.readContent 0 c
  | .content brackets => state.readContent brackets c
  | .reference name origin => state.readReference name origin c
  | .opened first => state.readOpened first c
  | .tagName name =>
    if isNameChar c then state.enter (.tagName (name ++ [c])) else state.readTag ⟨name, []⟩ false c
  | .tag tag spaced => state.readTag tag spaced c
  | .attribute tag name => state.readAttribute tag name c
  | .beforeEquals tag => state.readBeforeEquals tag c
  | .beforeValue tag =>
    if isSpace c then state.enter (.beforeValue tag)
    else if c = '"' || c = '\'' then state.enter (.value tag c)
    else none
  | .value tag quote => state.readValue tag quote c
  | .emptyElement =>
    if c = '>' then some { state with rooted := true, mode := .content 0 } else none
  | .endName name =>
    if isSpace c then state.enter (.endBlank name)
    else if c = '>' then state.close name
    else state.enter (.endName (name ++ [c]))
  | .endBlank name =>
    if isSpace c then state.enter (.endBlank name) else if c = '>' then state.close name else none
  | .declared text => state.readDeclared text c
  | .comment dashes => state.readComment dashes c
  | .section brackets => state.readSection brackets c
  | .target first name => state.readTarget first name c
  | .instruction first target body => state.readInstruction first target body c
  | .bareInstruction first target =>
    if c = '>' then state.closeInstruction first target [] else none

/-- Reads one character, which a document must be allowed to contain. -/
def step (state : State) (c : Char) : Option State := if isLegal c then state.next c else none

def run (state : State) : List Char → Option State
  | [] => some state
  | c :: rest => do (← state.step c).run rest

/-- A document may end behind its root element. -/
def isFinal (state : State) : Bool :=
  match state.mode with
  | .content _ => state.rooted && state.stack.isEmpty
  | _ => false

theorem run_append (state : State) (front back : List Char) :
    state.run (front ++ back) = (state.run front).bind fun middle => middle.run back := by
  induction front generalizing state with
  | nil => rfl
  | cons c front ih =>
    rw [List.cons_append, run, run]
    cases state.step c with
    | none => rfl
    | some following => exact ih following

end State

/-- Whether a text is a document, from its first character to its last. -/
def isDocument (text : List Char) : Bool := (State.initial.run text).any State.isFinal

/-- A text that is a well-formed document. -/
def WellFormed (text : String) : Prop := isDocument text.toList = true

instance (text : String) : Decidable (WellFormed text) := inferInstanceAs (Decidable (_ = _))

/-- Comments, attributes and elements are told apart, and a tag must be closed by its own name. -/
example : WellFormed "<?xml version='1.0'?><a b=\"1\" c='&lt;'><!-- - --><d/>x &#62; y</a>\n" ∧
    ¬WellFormed "<a><b></a></b>" ∧ ¬WellFormed "<a b='1' b='2'/>" ∧ ¬WellFormed "<a>x & y</a>" := by
  decide +kernel

end GameBundle.Markup
