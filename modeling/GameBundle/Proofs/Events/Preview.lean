import GameBundle.Proofs.Events.Inline
import GameBundle.Proofs.Script.Line

/-!
# Comments in a preview

A preview has the code and the scripts of a release, with a text before the code of each event
that tells where it is from. The text is one comment as long as the name of the origin stays on
its line. Nothing is done about a name that does not: what it has after its first line is code.
-/

namespace GameBundle.InlineEvents

open Script (isLineEnd lines lines_append lines_append_lineFeed lines_ne_nil)
open Text (EndsLine)

variable {origin : String} {forRuntime : Bool}

def IsComment (line : List Char) : Prop := ['/', '/'] <+: line

instance : DecidablePred IsComment := fun _ => inferInstanceAs (Decidable (_ <+: _))

def codeLines (code : String) : List (List Char) :=
  (lines code.toList).filter (¬IsComment ·)

def inlined (events : List Json) (paths : List (List Nat)) : List Json :=
  (paths.filterMap (eventAt? events)).filter (IsInline ·)

theorem join_piece (visited : List Json) :
    ScriptCode.join (visited.map (piece origin forRuntime)) =
      ⟨String.join ((visited.filter (IsInline ·)).map fun event =>
        originComment origin forRuntime ++ inlineText event),
        (visited.filter (IsInline ·)).flatMap scripts⟩ := by
  induction visited with
  | nil => rfl
  | cons event rest ih =>
    rw [List.map_cons, ScriptCode.join_cons, ih, piece]
    by_cases inline : IsInline event
    · rw [if_pos inline, List.filter_cons_of_pos (by simpa using inline)]
      simp [ScriptCode.append, originComment]
    · rw [if_neg inline, List.filter_cons_of_neg (by simpa using inline), ScriptCode.empty_append]

/-- The first line of the name stands in the comment, and the others follow as they are. -/
theorem lines_originComment {first : List Char} {more : List (List Char)}
    (named : lines (origin ++ "\n").toList = first :: more) :
    lines (originComment origin false).toList =
      ("// Inline code from ".toList ++ first) :: more := by
  have apart : (originComment origin false).toList =
      "// Inline code from ".toList ++ (origin ++ "\n").toList := by
    simp [originComment]
  have free : ("// Inline code from ".toList.all fun c => !isLineEnd c) = true := by decide
  rw [apart]
  exact lines_append (fun c listed => by simpa using List.all_eq_true.mp free c listed) named

theorem lines_originComment_of_free (free : ∀ c ∈ origin.toList, isLineEnd c = false) :
    lines (originComment origin false).toList =
      ["// Inline code from ".toList ++ origin.toList] := by
  have named : lines (origin ++ "\n").toList = [origin.toList] := by
    rw [String.toList_append, lines_append free (show lines "\n".toList = [[]] from rfl),
      List.append_nil]
  rw [lines_originComment named]

theorem isComment_origin (named : List Char) : IsComment ("// Inline code from ".toList ++ named) :=
  ⟨_, rfl⟩

theorem forall_isComment_iff :
    (∀ line ∈ lines (originComment origin false).toList, IsComment line) ↔
      ∀ line ∈ (lines (origin ++ "\n").toList).tail, IsComment line := by
  obtain ⟨first, more, named⟩ := List.exists_cons_of_ne_nil
    (lines_ne_nil (show (origin ++ "\n").toList ≠ [] by simp))
  rw [lines_originComment named, named, List.tail_cons, List.forall_mem_cons]
  exact and_iff_right (isComment_origin first)

theorem endsLine_inlineText (event : Json) : EndsLine (inlineText event) := by
  cases event with
  | object members => exact inlineCode_eq members ▸ endsLine_inlineCode members
  | _ => exact .inl rfl

theorem codeLines_append {one : String} (ends : EndsLine one) (other : String) :
    codeLines (one ++ other) = codeLines one ++ codeLines other := by
  rcases ends with rfl | ⟨body, rfl⟩
  · simp [codeLines, lines]
  · have parted : (body ++ "\n" ++ other).toList = body.toList ++ '\n' :: other.toList := by simp
    have ended : (body ++ "\n").toList = body.toList ++ ['\n'] := by simp
    rw [codeLines, parted, lines_append_lineFeed, List.filter_append, codeLines, codeLines, ended]

theorem codeLines_originComment (free : ∀ c ∈ origin.toList, isLineEnd c = false) :
    codeLines (originComment origin forRuntime) = [] := by
  cases forRuntime with
  | true => rfl
  | false =>
    rw [codeLines, lines_originComment_of_free free, List.filter_eq_nil_iff,
      List.forall_mem_singleton, decide_eq_true_eq, not_not]
    exact isComment_origin origin.toList

theorem codeLines_join (free : ∀ c ∈ origin.toList, isLineEnd c = false) (visited : List Json) :
    codeLines (String.join (visited.map fun event =>
      originComment origin forRuntime ++ inlineText event)) =
      visited.flatMap fun event => codeLines (inlineText event) := by
  induction visited with
  | nil => rfl
  | cons event rest ih =>
    rw [List.map_cons, String.join_cons, List.flatMap_cons, ← ih,
      codeLines_append (endsLine_originComment.append (endsLine_inlineText event)),
      codeLines_append endsLine_originComment, codeLines_originComment free, List.nil_append]

/-- A preview asks for the scripts of a release, and has the code of a release with one text before
the code of each event. All lines of this text are comments exactly if all lines of the name after
its first are. With a name on one line, preview and release differ in nothing but comments. -/
theorem preview_comments (origin : String) (events : List Json) :
    (∃ paths, InOrder events paths ∧ ∀ compiled,
      (addEvents origin false compiled events).includes =
        (addEvents origin true compiled events).includes ∧
      (addEvents origin true compiled events).code =
        compiled.code ++ String.join ((inlined events paths).map inlineText) ∧
      (addEvents origin false compiled events).code =
        compiled.code ++ String.join ((inlined events paths).map fun event =>
          originComment origin false ++ inlineText event)) ∧
    ((∀ line ∈ lines (originComment origin false).toList, IsComment line) ↔
      ∀ line ∈ (lines (origin ++ "\n").toList).tail, IsComment line) ∧
    ((∀ c ∈ origin.toList, isLineEnd c = false) →
      codeLines (compile origin false events).code =
        codeLines (compile origin true events).code) := by
  obtain ⟨paths, inOrder, added⟩ := exists_inOrder events
  have release : originComment origin true = "" := rfl
  refine ⟨⟨paths, inOrder, fun compiled => ?_⟩, forall_isComment_iff, fun free => ?_⟩
  · simp only [added, join_piece, ScriptCode.append, release, String.empty_append, true_and]
    exact ⟨rfl, rfl⟩
  · simp only [compile, added, join_piece, ScriptCode.empty_append, codeLines_join free]

example : lines (originComment "Menu\nalert(1);" false).toList =
    ["// Inline code from Menu".toList, "alert(1);".toList] := rfl

end GameBundle.InlineEvents
