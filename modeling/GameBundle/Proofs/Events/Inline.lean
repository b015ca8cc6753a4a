import GameBundle.Proofs.Events.Traversal
import GameBundle.Proofs.Template.Seam

/-!
# Inline code, event by event

The code of a list of events is what each of them adds, one behind the other, where an event is
followed by the events nested in it. Everything added ends with a line feed, so a text on one
line is found in it only if it is in the code of an author or in the comment about its origin.
-/

namespace GameBundle.InlineEvents

open Text (EndsLine contains contains_of_within contains_append_of_endsLine contains_around_newline
  contains_join_lines)
open Template (Part keepsOut)

mutual

def unrolled : Json → List Json
  | .object members => .object members :: nested members
  | _ => []

def nested : List (String × Json) → List Json
  | [] => []
  | (key, .array events) :: rest => if "events" = key then allOf events else nested rest
  | (key, _) :: rest => if "events" = key then [] else nested rest

def allOf : List Json → List Json
  | [] => []
  | event :: rest => unrolled event ++ allOf rest

end

def authored? : Json → Option String
  | .object members =>
    match (Json.object members).member? "inlineCode" with
    | some (.string code) => if isInlineCode members then some code else none
    | _ => none
  | _ => none

def authored (events : List Json) : List String := (allOf events).filterMap authored?

def codeOf (origin : String) (forRuntime : Bool) (events : List Json) : String :=
  String.join (events.map fun event => (contribution origin forRuntime event).code)

variable {origin : String} {forRuntime : Bool}

theorem codeOf_append (events more : List Json) : codeOf origin forRuntime (events ++ more) =
    codeOf origin forRuntime events ++ codeOf origin forRuntime more := by
  rw [codeOf, List.map_append, String.join_append]
  rfl

theorem nested_eq (members : List (String × Json)) :
    nested members = allOf (children (.object members)) := by
  induction members with
  | nil => rfl
  | cons entry rest ih =>
    obtain ⟨key, value⟩ := entry
    rw [children_object_cons]
    cases value with
    | array events => rw [nested]; split <;> [rfl; exact ih]
    | _ =>
      rw [nested]
      · split <;> [rfl; exact ih]
      · nofun

theorem codeOf_unrolled (event : Json) : codeOf origin forRuntime (unrolled event) =
    (piece origin forRuntime event).code ++ codeOf origin forRuntime (allOf (children event)) := by
  rw [← contribution_eq]
  cases event with
  | object members => simp [unrolled, nested_eq, codeOf]
  | _ => simp [unrolled, contribution, children, Json.member?, allOf, codeOf, ScriptCode.empty]

theorem addEvents_code (events : List Json) (compiled : ScriptCode) :
    (addEvents origin forRuntime compiled events).code =
      compiled.code ++ codeOf origin forRuntime (allOf events) := by
  induction events using events_induction generalizing compiled with
  | nil => simp [addEvents, allOf, codeOf]
  | cons event rest inside after =>
    rw [addEvents, addEvent_eq, after, inside, allOf, codeOf_append, codeOf_unrolled]
    simp only [ScriptCode.append, String.append_assoc]

theorem compile_code (events : List Json) :
    (compile origin forRuntime events).code = codeOf origin forRuntime (allOf events) := by
  rw [compile, addEvents_code, ScriptCode.empty, String.empty_append]

def originParts : List Part := [.literal "// Inline code from ", .hole "ORIGIN", .literal "\n"]

theorem endsLine_inlineCode (members : List (String × Json)) : EndsLine (inlineCode members) := by
  unfold inlineCode
  split
  · split
    · rename_i code _ ends
      rw [← String.endsWith_toSlice, String.Slice.endsWith_string_iff] at ends
      obtain ⟨body, whole⟩ := ends
      refine .inr ⟨String.ofList body, ?_⟩
      rw [← String.toList_inj]
      simpa using whole.symm
    · exact .inr ⟨_, rfl⟩
  · exact .inl rfl

theorem endsLine_originComment : EndsLine (originComment origin forRuntime) := by
  unfold originComment
  split
  · exact .inl rfl
  · exact .inr ⟨_, rfl⟩

theorem endsLine_contribution (event : Json) :
    EndsLine (contribution origin forRuntime event).code := by
  unfold contribution
  split
  · split
    · exact endsLine_originComment.append (endsLine_inlineCode _)
    · exact .inl rfl
  · exact .inl rfl

variable {pattern : String}

theorem contains_contribution (inhabited : pattern ≠ "") (line : '\n' ∉ pattern.toList)
    (out : keepsOut pattern.toList originParts = true) (named : contains origin pattern = false)
    {event : Json} (free : ∀ code ∈ authored? event, contains code pattern = false) :
    contains (contribution origin forRuntime event).code pattern = false := by
  have nothing : contains "" pattern = false := by simp [contains, Text.occurs, inhabited]
  unfold contribution
  split
  · rename_i members
    split
    · rename_i inline
      have comment : contains (originComment origin forRuntime) pattern = false := by
        unfold originComment
        split
        · exact nothing
        · have filled := Template.contains_filled inhabited out
            (List.forall_mem_singleton.mpr (show contains ("ORIGIN", origin).2 pattern = false from
              named))
          simpa [originParts, Part.filled, String.append_assoc] using filled
      refine contains_append_of_endsLine endsLine_originComment line comment ?_
      unfold inlineCode
      split
      · rename_i code found
        have own : contains code pattern = false := free code (by simp [authored?, found, inline])
        split
        · exact own
        · have ended := contains_around_newline line own nothing
          rwa [String.append_empty] at ended
      · exact nothing
    · exact nothing
  · exact nothing

theorem contains_compile (inhabited : pattern ≠ "") (line : '\n' ∉ pattern.toList)
    (out : keepsOut pattern.toList originParts = true) (named : contains origin pattern = false)
    {events : List Json} (free : ∀ code ∈ authored events, contains code pattern = false) :
    contains (compile origin forRuntime events).code pattern = false := by
  rw [compile_code]
  refine contains_join_lines inhabited line ?_ ?_ <;> simp only [List.forall_mem_map]
  · exact fun event _ => endsLine_contribution event
  · exact fun event listed => contains_contribution inhabited line out named fun code written =>
      free code (List.mem_filterMap.mpr ⟨event, listed, written⟩)

theorem prefix_trimmed (code : String) : (trimmed code).toList <+: code.toList := by
  rw [trimmed, String.toList_ofList]
  exact Text.prefix_trimEndBy _ _

end GameBundle.InlineEvents
