import GameBundle.Proofs.Markup.Document

/-!
# Texts inside documents

A document is put together from characters and from slots for texts. Where a slot stands among
character data or in a quoted value, the reader goes through an inert text and is back where it
was, up to the brackets that it has counted. So the texts do not decide whether the whole is
well-formed.
-/

namespace GameBundle.Markup

/-- A character of a document, or a slot for one of the texts `α`. -/
inductive Piece (α : Type) where
  | char (c : Char)
  | slot (text : α)
deriving DecidableEq, Repr

variable {α : Type}

def Piece.chars (texts : α → String) : Piece α → List Char
  | .char c => [c]
  | .slot text => (texts text).toList

def fixed (text : List Char) : List (Piece α) := text.map .char

/-- The characters of a document when its slots hold some texts. -/
def render (texts : α → String) (pieces : List (Piece α)) : List Char :=
  pieces.flatMap (Piece.chars texts)

@[simp] theorem render_nil (texts : α → String) : render texts [] = [] := rfl

@[simp] theorem render_char (texts : α → String) (c : Char) (pieces : List (Piece α)) :
    render texts (.char c :: pieces) = c :: render texts pieces := rfl

@[simp] theorem render_slot (texts : α → String) (text : α) (pieces : List (Piece α)) :
    render texts (.slot text :: pieces) = (texts text).toList ++ render texts pieces := rfl

@[simp] theorem render_append (texts : α → String) (front back : List (Piece α)) :
    render texts (front ++ back) = render texts front ++ render texts back :=
  List.flatMap_append

@[simp] theorem render_fixed (texts : α → String) (text : List Char) :
    render texts (fixed text) = text := by
  rw [render, fixed, List.flatMap_map]
  exact List.flatMap_singleton' _

/-- A text that can stand in a document as it is. -/
def Fits (text : String) : Prop := Inert text ∧ ∀ c ∈ text.toList, isLegal c = true

instance (text : String) : Decidable (Fits text) := inferInstanceAs (Decidable (_ ∧ _))

theorem fits_of_letters {text : String} (letters : ∀ c ∈ text.toList, c.isAlpha = true) :
    Fits text := by
  have bounds {c : Char} (letter : c.isAlpha = true) :
      (65 ≤ c.toNat ∧ c.toNat ≤ 90) ∨ (97 ≤ c.toNat ∧ c.toNat ≤ 122) := by
    rcases (Bool.or_eq_true _ _).mp letter with upper | lower
    · have between : 'A'.val ≤ c.val ∧ c.val ≤ 'Z'.val := of_decide_eq_true upper
      exact .inl (between.imp UInt32.le_iff_toNat_le.mp UInt32.le_iff_toNat_le.mp)
    · have between := (Bool.and_eq_true _ _).mp lower
      have above : 'a'.val ≤ c.val := of_decide_eq_true between.1
      have below : c.val ≤ 'z'.val := of_decide_eq_true between.2
      exact .inr ⟨UInt32.le_iff_toNat_le.mp above, UInt32.le_iff_toNat_le.mp below⟩
  refine ⟨inert_of_plain fun c member => ?_, fun c member => ?_⟩
  · have apart (other : Char) (outside : other.isAlpha = false) : c ≠ other := by
      rintro rfl
      rw [letters c member] at outside
      cases outside
    simp [isSpecial, apart '<' rfl, apart '>' rfl, apart '"' rfl, apart '\'' rfl, apart '&' rfl]
  · have range := bounds (letters c member)
    simp only [isLegal, isCharacter, Bool.or_eq_true, Bool.and_eq_true, decide_eq_true_eq]
    omega

namespace State

def settled (state : State) : State :=
  match state.mode with
  | .content _ => { state with mode := .content 0 }
  | _ => state

/-- Whether a text may stand here: among the character data of an element or in a value. -/
def takesText (state : State) : Bool :=
  match state.mode with
  | .content _ => state.stack ≠ []
  | .value _ quote => quote = '"' || quote = '\''
  | _ => false

/-- Whether the brackets that have been counted make no difference to what comes. -/
def staysApart (state : State) (pieces : List (Piece α)) : Bool :=
  match state.mode, pieces with
  | .content _, .char c :: _ => c ≠ ']' && c ≠ '>'
  | _, _ => true

/-- Whether all slots stand where texts may stand. Behind a text among character data there may be
no bracket that could end a section. -/
def places (state : State) : List (Piece α) → Bool
  | [] => true
  | .char c :: rest =>
    match state.step c with
    | some following => following.places rest
    | none => true
  | .slot _ :: rest =>
    state.takesText && state.staysApart rest && state.settled.places rest

/-- Where a text stands: among character data, behind a number of brackets, or in a value. -/
def home (origin : Option (Tag × Char)) (brackets : Nat) : Mode :=
  match origin with
  | none => .content brackets
  | some (tag, quote) => .value tag quote

/-- Whether a text may stand in a place inside the elements of a stack. -/
def IsHome (stack : List (List Char)) : Option (Tag × Char) → Prop
  | none => stack ≠ []
  | some (_, quote) => quote = '"' ∨ quote = '\''

variable {stack : List (List Char)} {rooted : Bool} {origin : Option (Tag × Char)}

theorem step_plain (isHome : IsHome stack origin) {c : Char} (legal : isLegal c = true)
    (plain : isSpecial c = false) (brackets : Nat) :
    ∃ later, step ⟨stack, rooted, home origin brackets⟩ c =
      some ⟨stack, rooted, home origin later⟩ := by
  simp only [isSpecial, Bool.or_eq_false_iff, decide_eq_false_iff_not] at plain
  obtain ⟨⟨⟨⟨lt, gt⟩, double⟩, single⟩, amp⟩ := plain
  rw [step, if_pos legal]
  cases origin with
  | none =>
    have inside : stack ≠ [] := isHome
    simp only [next, home, readContent, lt, inside, amp, gt, if_false, false_and]
    split
    · exact ⟨_, rfl⟩
    · exact ⟨0, rfl⟩
  | some place =>
    obtain ⟨tag, quote⟩ := place
    have apart : c ≠ quote := by
      rintro rfl
      rcases isHome with same | same
      · exact double same
      · exact single same
    simp only [next, home, readValue, apart, lt, amp, if_false]
    exact ⟨0, rfl⟩

theorem step_ampersand (isHome : IsHome stack origin) (brackets : Nat) :
    step ⟨stack, rooted, home origin brackets⟩ '&' =
      some ⟨stack, rooted, .reference [] origin⟩ := by
  cases origin with
  | none =>
    have inside : stack ≠ [] := isHome
    simp [step, isLegal, isCharacter, next, home, readContent, inside, enter]
  | some place =>
    obtain ⟨tag, quote⟩ := place
    have apart : '&' ≠ quote := by
      rintro rfl
      rcases isHome with same | same <;> cases same
    simp [step, isLegal, isCharacter, next, home, readValue, apart, enter]

theorem step_semicolon {name : List Char} (known : isReference name = true) :
    step ⟨stack, rooted, .reference name origin⟩ ';' =
      some ⟨stack, rooted, home origin 0⟩ := by
  have legal : isLegal ';' = true := by decide
  rw [step, if_pos legal]
  simp only [next, readReference, known, if_true]
  rcases origin with - | ⟨tag, quote⟩ <;> rfl

theorem step_name {name : List Char} {c : Char} (legal : isLegal c = true) (apart : c ≠ ';') :
    step ⟨stack, rooted, .reference name origin⟩ c =
      some ⟨stack, rooted, .reference (name ++ [c]) origin⟩ := by
  rw [step, if_pos legal]
  simp only [next, readReference, apart, if_false]
  rfl

/-- An inert text leads back to where it began. The induction keeps in view whether the text goes
on inside a reference. -/
theorem exists_run_inert (isHome : IsHome stack origin) :
    ∀ (text : List Char) (inside : Option (List Char)) (brackets : Nat),
      isInertFrom inside text = true → (∀ c ∈ text, isLegal c = true) →
      ∃ later, run ⟨stack, rooted, inside.elim (home origin brackets) (.reference · origin)⟩ text =
        some ⟨stack, rooted, home origin later⟩ := by
  intro text
  induction text with
  | nil =>
    intro inside brackets inert _
    cases inside with
    | none => exact ⟨brackets, rfl⟩
    | some name => cases inert
  | cons c text ih =>
    intro inside brackets inert legal
    rw [List.forall_mem_cons] at legal
    cases inside with
    | none =>
      rw [isInertFrom] at inert
      split at inert
      · rename_i same
        obtain ⟨later, ran⟩ := ih (some []) 0 inert legal.2
        refine ⟨later, ?_⟩
        rw [Option.elim_none, run, same, step_ampersand isHome]
        exact ran
      · rw [Bool.and_eq_true, Bool.not_eq_true'] at inert
        obtain ⟨next, stepped⟩ := @step_plain stack rooted origin isHome c legal.1 inert.1 brackets
        obtain ⟨later, ran⟩ := ih none next inert.2 legal.2
        refine ⟨later, ?_⟩
        rw [Option.elim_none, run, stepped]
        exact ran
    | some name =>
      rw [isInertFrom] at inert
      split at inert
      · rename_i same
        rw [Bool.and_eq_true] at inert
        obtain ⟨later, ran⟩ := ih none 0 inert.2 legal.2
        refine ⟨later, ?_⟩
        rw [Option.elim_some, run, same, step_semicolon inert.1]
        exact ran
      · rename_i apart
        obtain ⟨later, ran⟩ := ih (some (name ++ [c])) 0 inert legal.2
        refine ⟨later, ?_⟩
        rw [Option.elim_some, run, step_name legal.1 apart]
        exact ran

theorem eq_or_content {one other : State} (same : one.settled = other.settled) :
    one = other ∨ ∃ stack rooted few many,
      one = ⟨stack, rooted, .content few⟩ ∧ other = ⟨stack, rooted, .content many⟩ := by
  obtain ⟨stack, rooted, mode⟩ := one
  obtain ⟨others, begun, second⟩ := other
  cases mode <;> cases second <;> simp_all [settled]

/-- The brackets matter for two characters only. -/
theorem step_eq_of_settled {one other : State} (same : one.settled = other.settled) {c : Char}
    {pieces : List (Piece α)}
    (apart : one = other ∨ one.staysApart (.char c :: pieces) = true) :
    one.step c = other.step c := by
  rcases eq_or_content same with rfl | ⟨stack, rooted, few, many, rfl, rfl⟩
  · rfl
  · rcases apart with same | apart
    · rw [same]
    · simp only [staysApart, Bool.and_eq_true, decide_eq_true_eq] at apart
      simp [step, next, readContent, apart.1, apart.2, enter]

theorem isFinal_settled (state : State) : state.settled.isFinal = state.isFinal := by
  obtain ⟨stack, rooted, mode⟩ := state
  cases mode <;> rfl

theorem takesText_settled (state : State) : state.settled.takesText = state.takesText := by
  obtain ⟨stack, rooted, mode⟩ := state
  cases mode <;> rfl

theorem staysApart_settled (state : State) (pieces : List (Piece α)) :
    state.settled.staysApart pieces = state.staysApart pieces := by
  obtain ⟨stack, rooted, mode⟩ := state
  rcases pieces with - | ⟨_ | _, pieces⟩ <;> cases mode <;> rfl

theorem settled_settled (state : State) : state.settled.settled = state.settled := by
  obtain ⟨stack, rooted, mode⟩ := state
  cases mode <;> rfl

/-- A text leads from a state that takes it to one that differs in brackets only. -/
theorem exists_run_text {state : State} (takes : state.takesText = true) {text : String}
    (fits : Fits text) : ∃ later, state.run text.toList = some later ∧
      later.settled = state.settled := by
  obtain ⟨inert, legal⟩ := fits
  obtain ⟨stack, rooted, mode⟩ := state
  cases mode with
  | content brackets =>
    have isHome : IsHome stack none := by simpa [takesText, IsHome] using takes
    obtain ⟨later, ran⟩ := @exists_run_inert stack rooted _ isHome _ none brackets inert legal
    exact ⟨_, ran, rfl⟩
  | value tag quote =>
    have isHome : IsHome stack (some (tag, quote)) := by
      simpa [takesText, IsHome] using takes
    obtain ⟨later, ran⟩ := @exists_run_inert stack rooted _ isHome _ none 0 inert legal
    exact ⟨_, ran, rfl⟩
  | _ => cases takes

/-- What the texts in the slots are does not decide whether the end is reached. The middle state
is the one by which the slots are placed; the two runs keep to it up to brackets. -/
theorem isFinal_run_render {texts others : α → String} :
    ∀ {pieces : List (Piece α)}, (∀ text, .slot text ∈ pieces → Fits (texts text)) →
      (∀ text, .slot text ∈ pieces → Fits (others text)) → ∀ {middle one other : State},
      middle.settled = one.settled → middle.settled = other.settled →
      (middle = one ∧ middle = other ∨ middle.staysApart pieces = true) →
      middle.places pieces = true →
      (one.run (render texts pieces)).any isFinal =
        (other.run (render others pieces)).any isFinal
  | [], _, _, middle, one, other, first, second, _, _ => by
    rw [render_nil, render_nil, run, run, Option.any_some, Option.any_some, ← isFinal_settled one,
      ← first, second, isFinal_settled]
  | .char c :: pieces, fit, fitting, middle, one, other, first, second, apart, placed => by
    have left : middle.step c = one.step c :=
      step_eq_of_settled first (apart.imp And.left id)
    have right : middle.step c = other.step c :=
      step_eq_of_settled second (apart.imp And.right id)
    rw [render_char, render_char, run, run, ← left, ← right]
    rw [places] at placed
    cases stepped : middle.step c with
    | none => rfl
    | some following =>
      rw [stepped] at placed
      exact isFinal_run_render (fun text member => fit text (List.mem_cons_of_mem _ member))
        (fun text member => fitting text (List.mem_cons_of_mem _ member)) rfl rfl
        (.inl ⟨rfl, rfl⟩) placed
  | .slot text :: pieces, fit, fitting, middle, one, other, first, second, _, placed => by
    rw [places, Bool.and_eq_true, Bool.and_eq_true] at placed
    obtain ⟨⟨takes, apart⟩, placed⟩ := placed
    have one_takes : one.takesText = true := by
      rw [← takesText_settled, ← first, takesText_settled, takes]
    have other_takes : other.takesText = true := by
      rw [← takesText_settled, ← second, takesText_settled, takes]
    obtain ⟨one_later, one_ran, one_same⟩ := exists_run_text one_takes (fit text (by simp))
    obtain ⟨other_later, other_ran, other_same⟩ :=
      exists_run_text other_takes (fitting text (by simp))
    rw [render_slot, render_slot, run_append, run_append, one_ran, other_ran, Option.bind_some,
      Option.bind_some]
    refine isFinal_run_render (fun text member => fit text (List.mem_cons_of_mem _ member))
      (fun text member => fitting text (List.mem_cons_of_mem _ member)) ?_ ?_ (.inr ?_) placed
    · rw [settled_settled, first, one_same]
    · rw [settled_settled, second, other_same]
    · rw [staysApart_settled, apart]

end State

theorem slot_not_mem_fixed {text : α} {chars : List Char} : .slot text ∉ fixed chars := by
  simp [fixed]

/-- Whether all slots of a document stand where texts may stand. -/
def Placed (pieces : List (Piece α)) : Prop := State.initial.places pieces = true

instance (pieces : List (Piece α)) : Decidable (Placed pieces) :=
  inferInstanceAs (Decidable (_ = _))

/-- Texts that fit do not decide whether a document with slots in their places is well-formed. -/
theorem isDocument_render {pieces : List (Piece α)} (placed : Placed pieces)
    {texts others : α → String} (fit : ∀ text, .slot text ∈ pieces → Fits (texts text))
    (fitting : ∀ text, .slot text ∈ pieces → Fits (others text)) :
    isDocument (render texts pieces) = isDocument (render others pieces) :=
  State.isFinal_run_render fit fitting rfl rfl (.inl ⟨rfl, rfl⟩) placed

end GameBundle.Markup
