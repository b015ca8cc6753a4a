import GameBundle.Proofs.Behavior.Method
import GameBundle.Proofs.Script.Escaped

/-!
# The comment in front of a behavior

A module begins with the comment on its class, in which the full name of the behavior stands.
The full name is made safe for that, so what ends the comment is the terminator of the skeleton.
-/

namespace GameBundle

open Text (contains contains_iff contains_false_iff)

namespace Script

/-- A text without its terminators falls into pieces that have none; blanks in the terminators
are all that makes the text safe. -/
theorem exists_pieces (text : List Char) : ∃ first others,
    (∀ piece ∈ first :: others, contains piece "*/" = false) ∧
      text = ("*/".intercalate (first :: others)).toList ∧
      commentSafeChars text = ("* /".intercalate (first :: others)).toList := by
  induction text using comment_induction with
  | nil =>
    refine ⟨"", [], ?_, by simp, by simp [commentSafeChars, Text.replaceAll]⟩
    simp only [List.mem_singleton, forall_eq]
    decide
  | terminator rest ih =>
    obtain ⟨first, others, free, whole, safe⟩ := ih
    refine ⟨"", first :: others, List.forall_mem_cons.mpr ⟨by decide, free⟩, ?_, ?_⟩
    · rw [String.intercalate_cons_cons, String.toList_append, ← whole]
      rfl
    · rw [String.intercalate_cons_cons, String.toList_append, ← safe, commentSafeChars_terminator]
      rfl
  | cons c rest apart ih =>
    obtain ⟨first, others, free, whole, safe⟩ := ih
    rw [List.forall_mem_cons] at free
    have start : first.toList <+: rest := by
      rw [whole]
      cases others with
      | nil => simp
      | cons next others => simp [String.intercalate_cons_cons, String.toList_append]
    refine ⟨String.singleton c ++ first, others, List.forall_mem_cons.mpr ⟨?_, free.2⟩, ?_, ?_⟩
    · rw [contains_false_iff, String.toList_append, String.toList_singleton,
        List.singleton_append, List.infix_cons_iff, not_or]
      exact ⟨fun starts => apart (starts.trans (List.cons_prefix_cons.mpr ⟨rfl, start⟩)),
        contains_false_iff.mp free.1⟩
    · rw [String.intercalate_cons_append, String.toList_append, ← whole, String.toList_singleton,
        List.singleton_append]
    · rw [String.intercalate_cons_append, String.toList_append, ← safe, String.toList_singleton,
        List.singleton_append, commentSafeChars_cons apart]

/-- What stands before a terminator begins with all that has none. -/
theorem prefix_of_terminator {opening rest front back : List Char}
    (free : ¬['*', '/'] <:+: opening)
    (cut : opening ++ '*' :: '/' :: rest = front ++ '*' :: '/' :: back) : opening <+: front := by
  rcases List.append_eq_append_iff.mp cut with ⟨between, rfl, -⟩ | ⟨between, whole, later⟩
  · exact List.prefix_append _ _
  · -- a terminator that began in the opening would lie in it, or a star would be a slash
    rcases between with _ | ⟨star, _ | ⟨slash, between⟩⟩
    · rw [whole, List.append_nil]
    · obtain ⟨-, tail⟩ := List.cons.inj later
      exact absurd (List.cons.inj tail).1 (by decide)
    · obtain ⟨rfl, tail⟩ := List.cons.inj later
      obtain ⟨rfl, -⟩ := List.cons.inj tail
      exact absurd ⟨front, between, by rw [whole]; simp⟩ free

end Script

namespace BehaviorModule

open Template (Part)

def commentText (codeNamespace className fullName : String) : String :=
  codeNamespace ++ " = " ++ codeNamespace ++ " || \x7b\x7d;\n\n" ++
  "/**\n" ++
  " * Behavior generated from " ++ fullName ++ "\n" ++
  " * @class " ++ className ++ "\n" ++
  " * @extends kiln.RuntimeBehavior\n" ++
  " * @constructor\n" ++
  " "

def commentParts : List Part := moduleParts.take 13 ++ [.literal " "]

def commentValues (codeNamespace className fullName : String) : List (String × String) :=
  [("CODE_NAMESPACE", codeNamespace), ("RUNTIME_BEHAVIOR_CLASSNAME", className),
    ("BEHAVIOR_FULL_NAME", fullName)]

variable {codeNamespace className fullName : String}

theorem comment_filled (others : List (String × String)) :
    String.join (commentParts.map
        (Part.filled (commentValues codeNamespace className fullName ++ others))) =
      commentText codeNamespace className fullName := by
  unfold commentText
  simp only [commentParts, moduleParts, commentValues, List.take, List.cons_append, List.nil_append,
    List.map_cons, List.map_nil, Part.filled_literal, Part.filled_hole_self, Part.filled_hole_of_ne,
    ne_eq, String.reduceEq, not_false_eq_true, String.join_cons, String.join_nil,
    String.append_empty, String.append_assoc]

/-- No terminator arises in the comment from texts that have none. -/
theorem contains_commentText (namespaceFree : contains codeNamespace "*/" = false)
    (classFree : contains className "*/" = false) (nameFree : contains fullName "*/" = false) :
    contains (commentText codeNamespace className fullName) "*/" = false := by
  rw [← comment_filled []]
  refine Template.contains_filled (by decide) rfl ?_
  simp only [commentValues, List.append_nil, List.forall_mem_cons, List.not_mem_nil,
    false_implies, implies_true, and_true]
  exact ⟨namespaceFree, classFree, nameFree⟩

theorem exists_behind (others : List (String × String)) : ∃ rest,
    String.join (moduleParts.map
        (Part.filled (commentValues codeNamespace className fullName ++ others))) =
      commentText codeNamespace className fullName ++ "*/" ++ rest := by
  have cut : moduleParts = moduleParts.take 13 ++ .literal " */\n" :: moduleParts.drop 14 := rfl
  refine ⟨"\n" ++ String.join ((moduleParts.drop 14).map (Part.filled
    (commentValues codeNamespace className fullName ++ others))), ?_⟩
  rw [← comment_filled others, commentParts]
  nth_rewrite 1 [cut]
  have terminator : " */\n" = " " ++ "*/" ++ "\n" := by decide
  simp only [List.map_append, List.map_cons, List.map_nil, String.join_append, String.join_cons,
    String.join_nil, String.append_empty, Part.filled_literal, terminator, String.append_assoc]

end BehaviorModule

/-- A text made safe for a comment has no terminator, and has changed in nothing but a blank in
each of its own. In a module whose namespace and class have no terminator, the first one is that
of the skeleton, whatever the behavior is called in full and consists of. -/
theorem BehaviorGenerator.comment_ends_itself :
    (∀ text, contains (Script.commentSafe text) "*/" = false ∧
      ∃ first others, (∀ piece ∈ first :: others, contains piece "*/" = false) ∧
        text = "*/".intercalate (first :: others) ∧
        Script.commentSafe text = "* /".intercalate (first :: others)) ∧
    ∀ (generator : BehaviorGenerator) (extension codeNamespace : String) (behavior : Behavior)
      (names : Dictionary String) (includes : IncludeList) (forRuntime : Bool),
      contains codeNamespace "*/" = false → contains behavior.name "*/" = false →
      let code := (generator.generate extension behavior codeNamespace names includes
        forRuntime).1.code
      let comment := BehaviorModule.commentText codeNamespace behavior.name
        (Script.commentSafe behavior.fullName)
      (∃ rest, code = comment ++ "*/" ++ rest) ∧
        ∀ front back, code = front ++ "*/" ++ back → comment.toList <+: front.toList := by
  have safe (text : String) : contains (Script.commentSafe text) "*/" = false := by
    have chars : (Script.commentSafe text).toList = Script.commentSafeChars text.toList :=
      String.toList_ofList
    rw [contains_false_iff, chars]
    exact Script.no_terminator text.toList
  refine ⟨fun text => ⟨safe text, ?_⟩, ?_⟩
  · obtain ⟨first, others, free, whole, made⟩ := Script.exists_pieces text.toList
    refine ⟨first, others, free, String.toList_inj.mp whole, ?_⟩
    rw [Script.commentSafe, made, String.ofList_toList]
  · intro generator extension codeNamespace behavior names includes forRuntime namespaceFree
      classFree code comment
    obtain ⟨rest, whole⟩ : ∃ rest, code = comment ++ "*/" ++ rest := by
      simp only [code, BehaviorGenerator.generate_filled]
      exact BehaviorModule.exists_behind _
    refine ⟨⟨rest, whole⟩, fun front back cut => ?_⟩
    have free :=
      BehaviorModule.contains_commentText namespaceFree classFree (safe behavior.fullName)
    have same : comment.toList ++ '*' :: '/' :: rest.toList =
        front.toList ++ '*' :: '/' :: back.toList := by
      simpa using congrArg String.toList (whole.symm.trans cut)
    exact Script.prefix_of_terminator (contains_false_iff.mp free) same

/-- A behavior that is called by terminators and by parts of them. -/
def starred : Behavior := ⟨"Starred", "**//*/ of the sky */", "", [], []⟩

/-- The terminators in the full name do not end the comment. -/
theorem starred_comment_ends_itself :
    let code := ((BehaviorGenerator.ofInline (.blank "Village")).generate "Lights" starred
      "kiln.lights" [] .empty false).1.code
    let comment := BehaviorModule.commentText "kiln.lights" "Starred" "** //* / of the sky * /"
    contains "kiln.lights" "*/" = false ∧ contains starred.name "*/" = false ∧
      (∃ rest, code = comment ++ "*/" ++ rest) ∧
      ∀ front back, code = front ++ "*/" ++ back → comment.toList <+: front.toList := by
  have safe : Script.commentSafe starred.fullName = "** //* / of the sky * /" := by decide +kernel
  have free : contains "kiln.lights" "*/" = false ∧ contains starred.name "*/" = false := by decide
  have ends := BehaviorGenerator.comment_ends_itself.2 (.ofInline (.blank "Village")) "Lights"
    "kiln.lights" starred [] .empty false free.1 free.2
  rw [safe] at ends
  exact ⟨free.1, free.2, ends⟩

end GameBundle
