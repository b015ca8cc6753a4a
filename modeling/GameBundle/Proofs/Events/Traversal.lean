import GameBundle.Events.Inline
import Mathlib.Data.List.Basic

/-!
# The order of nested events

Events are compiled one behind the other, each followed by the events nested in it. So an event
has its place by its path: the positions that lead to it, from the list at the top to the list
it is in. Code and scripts come in the order of paths, where a path comes before its
continuations, and these before the paths that turn off later.
-/

namespace GameBundle

namespace ScriptCode

def join (pieces : List ScriptCode) : ScriptCode :=
  ⟨String.join (pieces.map code), pieces.flatMap includes⟩

@[simp] theorem append_empty (compiled : ScriptCode) : compiled.append .empty = compiled := by
  simp [append, empty]

@[simp] theorem empty_append (compiled : ScriptCode) : empty.append compiled = compiled := by
  simp [append, empty]

theorem append_assoc (one two three : ScriptCode) :
    (one.append two).append three = one.append (two.append three) := by
  simp [append, String.append_assoc]

@[simp] theorem join_nil : join [] = .empty := rfl

@[simp] theorem join_cons (piece : ScriptCode) (pieces : List ScriptCode) :
    join (piece :: pieces) = piece.append (join pieces) := by
  simp [join, append]

@[simp] theorem join_append (pieces more : List ScriptCode) :
    join (pieces ++ more) = (join pieces).append (join more) := by
  simp [join, append, String.join_append]

end ScriptCode

namespace InlineEvents

def children (event : Json) : List Json := ((event.member? "events").bind Json.items?).getD []

theorem children_object_cons (key : String) (value : Json) (rest : List (String × Json)) :
    children (.object ((key, value) :: rest)) =
      if "events" = key then value.items?.getD [] else children (.object rest) := by
  by_cases same : "events" = key <;> simp [children, Json.member?, Dictionary.find?, same]

theorem sizeOf_children (event : Json) : sizeOf (children event) ≤ sizeOf event := by
  cases event with
  | object members =>
    rw [Json.object.sizeOf_spec]
    induction members with
    | nil => simp [children, Json.member?, Dictionary.find?]
    | cons entry rest ih =>
      obtain ⟨key, value⟩ := entry
      rw [children_object_cons]
      split
      · cases value <;> simp [Json.items?]
        omega
      · simp
        omega
  | _ => simp [children, Json.member?]

/-- Lists of events are built from an event, the events nested in it and those that follow. -/
theorem events_induction {motive : List Json → Prop} (nil : motive [])
    (cons : ∀ event rest, motive (children event) → motive rest → motive (event :: rest))
    (events : List Json) : motive events := by
  -- on the size of the list: the nested events and those that follow both have a smaller one
  induction measured : sizeOf events using Nat.strongRecOn generalizing events with
  | ind size ih =>
  cases events with
  | nil => exact nil
  | cons event rest =>
    have inside := sizeOf_children event
    rw [List.cons.sizeOf_spec] at measured
    exact cons event rest (ih _ (by omega) _ rfl) (ih _ (by omega) _ rfl)

def ended (code : String) : String := if code.endsWith "\n" then code else code ++ "\n"

def inlineText (event : Json) : String :=
  ((event.member? "inlineCode").bind Json.text?).elim "" ended

def scripts (event : Json) : List String :=
  (((event.member? "includeFiles").bind Json.items?).getD []).filterMap Json.text?

def IsInline (event : Json) : Prop := event.member? "type" = some (.string "JsCode")

instance : DecidablePred IsInline := fun _ => inferInstanceAs (Decidable (_ = _))

/-- What an event adds without those nested in it. A field with a value of another type counts as
missing, and so do all fields of what is not an object. -/
def piece (origin : String) (forRuntime : Bool) (event : Json) : ScriptCode :=
  if IsInline event then
    ⟨(if forRuntime then "" else "// Inline code from " ++ origin ++ "\n") ++ inlineText event,
      scripts event⟩
  else .empty

variable {origin : String} {forRuntime : Bool}

theorem inlineCode_eq (members : List (String × Json)) :
    inlineCode members = inlineText (.object members) := by
  unfold inlineCode inlineText
  cases (Json.object members).member? "inlineCode" with
  | none => rfl
  | some value => cases value <;> rfl

theorem includeFiles_eq (members : List (String × Json)) :
    includeFiles members = scripts (.object members) := by
  unfold includeFiles scripts
  cases (Json.object members).member? "includeFiles" with
  | none => rfl
  | some value => cases value <;> rfl

theorem contribution_eq (event : Json) :
    contribution origin forRuntime event = piece origin forRuntime event := by
  cases event with
  | object members =>
    rw [contribution, piece, inlineCode_eq, includeFiles_eq, originComment]
    exact if_congr (by simp [isInlineCode, IsInline]) rfl rfl
  | _ => simp [contribution, piece, IsInline, Json.member?]

theorem addNested_eq (members : List (String × Json)) (compiled : ScriptCode) :
    addNested origin forRuntime compiled members =
      addEvents origin forRuntime compiled (children (.object members)) := by
  induction members with
  | nil => rfl
  | cons entry rest ih =>
    obtain ⟨key, value⟩ := entry
    rw [children_object_cons]
    cases value with
    | array events => rw [addNested]; split <;> [rfl; exact ih]
    | _ =>
      rw [addNested]
      · split <;> [rfl; exact ih]
      · nofun

theorem addEvent_eq (event : Json) (compiled : ScriptCode) :
    addEvent origin forRuntime compiled event =
      addEvents origin forRuntime (compiled.append (piece origin forRuntime event))
        (children event) := by
  rw [← contribution_eq]
  cases event with
  | object members => rw [addEvent, addNested_eq]
  | _ => simp [addEvent, contribution, children, Json.member?, addEvents]

theorem addEvents_append (events more : List Json) (compiled : ScriptCode) :
    addEvents origin forRuntime compiled (events ++ more) =
      addEvents origin forRuntime (addEvents origin forRuntime compiled events) more := by
  induction events generalizing compiled with
  | nil => rfl
  | cons event rest ih => rw [List.cons_append, addEvents, addEvents, ih]

/-- The event that a path leads to from another event, down through nested ones. -/
def follow? (event : Json) : List Nat → Option Json
  | [] => some event
  | position :: path => (children event)[position]?.bind fun nested => follow? nested path

/-- The event with a path in a list of events. -/
def eventAt? (events : List Json) : List Nat → Option Json
  | [] => none
  | position :: path => events[position]?.bind fun event => follow? event path

theorem follow?_of_ne_nil (event : Json) {path : List Nat} (further : path ≠ []) :
    follow? event path = eventAt? (children event) path := by
  cases path with
  | nil => exact absurd rfl further
  | cons position path => rfl

/-- All paths of events, in the order of their first difference, a path before its continuations. -/
structure InOrder (events : List Json) (paths : List (List Nat)) : Prop where
  ordered : paths.Pairwise (· < ·)
  complete : ∀ path, path ∈ paths ↔ (eventAt? events path).isSome

def joined (below behind : List (List Nat)) : List (List Nat) :=
  [0] :: below.map (0 :: ·) ++ behind.map (List.modifyHead (· + 1))

variable {event : Json} {events rest : List Json} {below behind paths : List (List Nat)}
  {path : List Nat} {position : Nat}

theorem mem_joined_zero : 0 :: path ∈ joined below behind ↔ path = [] ∨ path ∈ below := by
  have apart : ∀ later : List Nat, later.modifyHead (· + 1) ≠ 0 :: path := by
    rintro (_ | ⟨i, later⟩) <;> simp
  simp [joined, apart]

theorem mem_joined_succ :
    (position + 1) :: path ∈ joined below behind ↔ position :: path ∈ behind := by
  have same : ∀ later : List Nat,
      later.modifyHead (· + 1) = (position + 1) :: path ↔ later = position :: path := by
    rintro (_ | ⟨i, later⟩) <;> simp
  simp [joined, same]

theorem not_mem_joined (after : [] ∉ behind) : [] ∉ joined below behind := by
  simp [joined, after]

theorem pairwise_joined (inside : [] ∉ below) (after : [] ∉ behind)
    (ordered : below.Pairwise (· < ·)) (follow : behind.Pairwise (· < ·)) :
    (joined below behind).Pairwise (· < ·) := by
  have shifted : ∀ later ∈ behind, ∃ i path, later = i :: path := fun later listed =>
    List.exists_cons_of_ne_nil fun none => after (none ▸ listed)
  have apart : ∀ path, ∀ later ∈ behind, 0 :: path < later.modifyHead (· + 1) := by
    intro path later listed
    obtain ⟨i, later, rfl⟩ := shifted later listed
    simp [List.cons_lt_cons_iff]
  have kept : behind.Pairwise fun one other =>
      one.modifyHead (· + 1) < other.modifyHead (· + 1) := by
    refine follow.imp_of_mem fun {one other} listed also before => ?_
    obtain ⟨i, one, rfl⟩ := shifted one listed
    obtain ⟨j, other, rfl⟩ := shifted other also
    simpa [List.cons_lt_cons_iff] using before
  rw [joined, List.cons_append, List.pairwise_cons, List.pairwise_append, List.pairwise_map,
    List.pairwise_map]
  simp only [List.forall_mem_append, List.forall_mem_map, List.cons_lt_cons_iff, Nat.lt_irrefl,
    false_or, true_and]
  refine ⟨⟨fun path listed => ?_, apart []⟩, ordered, kept, fun path _ => apart path⟩
  obtain ⟨i, path, rfl⟩ := List.exists_cons_of_ne_nil fun none => inside (none ▸ listed)
  exact List.nil_lt_cons i path

namespace InOrder

-- A list of events is not an event, so no event has the empty path.
theorem nil_not_mem (inOrder : InOrder events paths) : [] ∉ paths := fun listed =>
  Bool.false_ne_true ((inOrder.complete []).mp listed)

theorem cons (inside : InOrder (children event) below) (after : InOrder rest behind) :
    InOrder (event :: rest) (joined below behind) where
  ordered := pairwise_joined inside.nil_not_mem after.nil_not_mem inside.ordered after.ordered
  complete
    | [] => iff_of_false (not_mem_joined after.nil_not_mem) Bool.false_ne_true
    | 0 :: path => by
      rw [mem_joined_zero, inside.complete]
      cases path with
      | nil => simp [eventAt?, follow?]
      | cons position path => simp [eventAt?, follow?]
    | (position + 1) :: path => by
      rw [mem_joined_succ, after.complete]
      rfl

theorem visited (inside : InOrder (children event) below) (rest : List Json) :
    (joined below behind).filterMap (eventAt? (event :: rest)) =
      event :: below.filterMap (eventAt? (children event)) ++ behind.filterMap (eventAt? rest) := by
  have nested : ∀ path ∈ below, (eventAt? (event :: rest) ∘ (0 :: ·)) path =
      eventAt? (children event) path := fun path listed =>
    follow?_of_ne_nil event fun none => inside.nil_not_mem (none ▸ listed)
  have later : ∀ path ∈ behind, (eventAt? (event :: rest) ∘ List.modifyHead (· + 1)) path =
      eventAt? rest path := by
    rintro (_ | ⟨i, path⟩) - <;> rfl
  have first : eventAt? (event :: rest) [0] = some event := rfl
  rw [joined, List.cons_append, List.filterMap_cons_some first, List.filterMap_append,
    List.filterMap_map, List.filterMap_map, List.filterMap_congr nested,
    List.filterMap_congr later]
  rfl

end InOrder

theorem exists_inOrder (events : List Json) : ∃ paths, InOrder events paths ∧
    ∀ origin forRuntime compiled, addEvents origin forRuntime compiled events = compiled.append
      (.join ((paths.filterMap (eventAt? events)).map (piece origin forRuntime))) := by
  induction events using events_induction with
  | nil =>
    refine ⟨[], ⟨.nil, fun path => ?_⟩, fun _ _ compiled => by simp [addEvents]⟩
    cases path <;> simp [eventAt?]
  | cons event rest inside after =>
    obtain ⟨below, nested, addNested⟩ := inside
    obtain ⟨behind, later, addLater⟩ := after
    refine ⟨_, nested.cons later, fun origin forRuntime compiled => ?_⟩
    rw [addEvents, addEvent_eq, addNested, addLater, nested.visited rest]
    simp [ScriptCode.append_assoc]

/-- Compiling events adds to what has been compiled before what each event adds by itself, in the
order of their paths. So a list of events may be compiled in parts. -/
theorem addEvents_in_order (events : List Json) :
    (∃ paths, InOrder events paths ∧ ∀ origin forRuntime compiled,
      addEvents origin forRuntime compiled events = compiled.append (.join
        ((paths.filterMap (eventAt? events)).map (piece origin forRuntime)))) ∧
    ∀ more origin forRuntime compiled, addEvents origin forRuntime compiled (events ++ more) =
      addEvents origin forRuntime (addEvents origin forRuntime compiled events) more :=
  ⟨exists_inOrder events, fun more _ _ compiled => addEvents_append events more compiled⟩

end InlineEvents

end GameBundle
