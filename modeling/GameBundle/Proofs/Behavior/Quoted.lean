import GameBundle.Proofs.Behavior.Method
import GameBundle.Proofs.Script.Literal

/-!
# Texts of authors in the modules of behaviors

Default values and the name under which a behavior is registered stand in its module as quoted
literals. Both are read back as they were written, whatever characters they have.
-/

namespace GameBundle

open Script (IsLiteral isLiteral_quote)
open Template (Part)
open Text (contains contains_iff)

namespace Template

theorem infix_filled {inner parts : List Part} (within : inner <:+: parts)
    (values : List (String × String)) : (String.join (inner.map (Part.filled values))).toList <:+:
      (String.join (parts.map (Part.filled values))).toList := by
  obtain ⟨front, back, rfl⟩ := within
  refine ⟨(String.join (front.map (Part.filled values))).toList,
    (String.join (back.map (Part.filled values))).toList, ?_⟩
  simp [String.join_append]

end Template

theorem Text.infix_join {text : String} {texts : List String} (listed : text ∈ texts) :
    text.toList <:+: (String.join texts).toList := by
  obtain ⟨front, back, rfl⟩ := List.append_of_mem listed
  refine ⟨(String.join front).toList, (String.join back).toList, ?_⟩
  simp [String.join_append]

namespace BehaviorModule

def registrationText (codeNamespace className type : String) : String :=
  "kiln.registerBehavior(" ++ type ++ ", " ++ codeNamespace ++ "." ++ className ++ ");\n\n"

def registrationParts : List Part := [
  .literal "kiln.registerBehavior(", .hole "BEHAVIOR_TYPE", .literal ", ",
  .hole "CODE_NAMESPACE", .literal ".", .hole "RUNTIME_BEHAVIOR_CLASSNAME", .literal ");\n\n"]

theorem registrationParts_infix : registrationParts <:+: moduleParts :=
  ⟨moduleParts.take 28, moduleParts.drop 35, rfl⟩

theorem registration_filled (codeNamespace className fullName type : String)
    (others : List (String × String)) :
    String.join (registrationParts.map (Part.filled (("CODE_NAMESPACE", codeNamespace) ::
      ("RUNTIME_BEHAVIOR_CLASSNAME", className) :: ("BEHAVIOR_FULL_NAME", fullName) ::
      ("BEHAVIOR_TYPE", type) :: others))) =
    registrationText codeNamespace className type := by
  unfold registrationText
  simp [registrationParts, Part.filled_literal, Part.filled_hole_self, Part.filled_hole_of_ne,
    String.append_assoc]

end BehaviorModule

namespace BehaviorGenerator

open BehaviorModule (moduleParts registrationText registrationParts_infix registration_filled)

variable (generator : BehaviorGenerator) (extension codeNamespace : String) (behavior : Behavior)
  (names : Dictionary String) (includes : IncludeList) (forRuntime : Bool)

theorem contains_registration :
    contains (generator.generate extension behavior codeNamespace names includes forRuntime).1.code
      (registrationText codeNamespace behavior.name
        (Script.quote (extension ++ "::" ++ behavior.name))) = true := by
  have within := Template.infix_filled registrationParts_infix
    (generator.moduleValues extension codeNamespace behavior names forRuntime)
  rw [← generate_filled generator extension codeNamespace behavior names includes, moduleValues,
    registration_filled] at within
  exact contains_iff.mpr within

theorem contains_fragment {hole fragment : String} {fragments : List String}
    (filled : (Part.hole hole).filled (generator.moduleValues extension codeNamespace behavior names
      forRuntime) = String.join fragments)
    (placed : .hole hole ∈ moduleParts) (listed : fragment ∈ fragments) :
    contains (generator.generate extension behavior codeNamespace names includes
      forRuntime).1.code fragment = true := by
  rw [contains_iff, generate_filled]
  refine (Text.infix_join listed).trans ?_
  rw [← filled]
  exact Text.infix_join (List.mem_map_of_mem placed)

variable {property : Property}

theorem contains_initialization (declared : property ∈ behavior.properties) :
    contains (generator.generate extension behavior codeNamespace names includes forRuntime).1.code
      (PropertyCode.initializationText property) = true := by
  rw [← PropertyCode.initialization_eq]
  refine generator.contains_fragment extension codeNamespace behavior names includes forRuntime
    (show (Part.hole "INITIALIZE_PROPERTIES_CODE").filled _ = _ from ?_)
    (List.mem_of_getElem? (show moduleParts[22]? = _ from rfl)) (List.mem_map_of_mem declared)
  simp only [moduleValues, Part.filled_hole_self, Part.filled_hole_of_ne, ne_eq, String.reduceEq,
    not_false_eq_true]

theorem contains_accessors (declared : property ∈ behavior.properties) :
    contains (generator.generate extension behavior codeNamespace names includes forRuntime).1.code
      (PropertyCode.accessorsText codeNamespace behavior.name property) = true := by
  rw [← PropertyCode.accessors_eq]
  refine generator.contains_fragment extension codeNamespace behavior names includes forRuntime
    (show (Part.hole "PROPERTIES_CODE").filled _ = _ from ?_)
    (by simp [moduleParts]) (List.mem_map_of_mem declared)
  simp only [moduleValues, Part.filled_hole_self, Part.filled_hole_of_ne, ne_eq, String.reduceEq,
    not_false_eq_true]

end BehaviorGenerator

/-- Quoted texts are single literals that are read back as they were, so different texts are
quoted differently. The default value of a property with a text, a choice or a number, and the
name under which a behavior is registered, get into the module of the behavior in this way. -/
theorem quoted_texts_arrive :
    (∀ text, IsLiteral (Script.quote text) text) ∧ Function.Injective Script.quote ∧
    (∀ property : Property,
      (property.type = .string ∨ property.type = .choice →
        IsLiteral (PropertyCode.defaultValue property) property.value) ∧
      (property.type = .number → ∃ literal, IsLiteral literal property.value ∧
        PropertyCode.defaultValue property = "Number(" ++ literal ++ ") || 0")) ∧
    ∀ (generator : BehaviorGenerator) (extension codeNamespace : String) (behavior : Behavior)
      (names : Dictionary String) (includes : IncludeList) (forRuntime : Bool),
      let code :=
        (generator.generate extension behavior codeNamespace names includes forRuntime).1.code
      (∃ literal, IsLiteral literal (extension ++ "::" ++ behavior.name) ∧
        contains code (BehaviorModule.registrationText codeNamespace behavior.name literal)) ∧
      ∀ property ∈ behavior.properties,
        contains code (PropertyCode.initializationText property) ∧
        contains code (PropertyCode.accessorsText codeNamespace behavior.name property) := by
  refine ⟨isLiteral_quote, Script.quote_injective, fun property => ⟨?_, fun number => ?_⟩, ?_⟩
  · rintro (string | choice)
    · rw [PropertyCode.defaultValue, string]
      exact isLiteral_quote _
    · rw [PropertyCode.defaultValue, choice]
      exact isLiteral_quote _
  · refine ⟨_, isLiteral_quote _, ?_⟩
    rw [PropertyCode.defaultValue, number]
  · intro generator extension codeNamespace behavior names includes forRuntime code
    refine ⟨⟨_, isLiteral_quote _, ?_⟩, fun property declared => ⟨?_, ?_⟩⟩
    · exact generator.contains_registration _ _ _ _ _ _
    · exact generator.contains_initialization _ _ _ _ _ _ declared
    · exact generator.contains_accessors _ _ _ _ _ _ declared

end GameBundle
