import GameBundle.Lint
import GameBundle.Proofs.Behavior.Method
import GameBundle.Proofs.Events.Inline
import GameBundle.Proofs.Script.Escaped
import GameBundle.Proofs.Text.Count

/-!
# Degraded code

Where generation was lenient it says so twice: in its diagnostics, and with telling texts in the
code, which a check of the code finds again. The check misses nothing that was reported. It
finds nothing else either, as long as no text that goes into the module has such a text itself:
none arises where texts meet, from escapes or from cutting off what ends a text.
-/

namespace GameBundle

open Text (EndsLine contains contains_of_within contains_append_of_endsLine contains_join_lines)
open Template (Part keepsOut contains_filled)

namespace BehaviorModule

open PropertyCode (defaultValue unrecognizedMarker)

def typeParts : List Part := [.hole "EXTENSION", .literal "::", .hole "BEHAVIOR"]

def getterParts : List Part := [.literal "_get", .hole "PROPERTY"]

def setterParts : List Part := [.literal "_set", .hole "PROPERTY"]

def numberParts : List Part := [.literal "Number(", .hole "VALUE", .literal ") || 0"]

def qualifiedParts : List Part :=
  [.hole "NAMESPACE", .literal ".", .hole "CLASS", .literal ".prototype.", .hole "METHOD"]

def contextParts : List Part := qualifiedParts ++ [.literal "Context"]

def allParts : List (List Part) := [
  moduleParts, PropertyCode.visibleParts, PropertyCode.hiddenParts, PropertyCode.accessorsParts,
  PropertyCode.reloadParts, InlineEvents.methodParts, InlineEvents.originParts,
  Shim.destroyParts, typeParts, getterParts, setterParts, numberParts, qualifiedParts,
  contextParts]

/-- A text on one line that generation does not make of anything else. -/
structure IsTelling (pattern : String) : Prop where
  inhabited : pattern ≠ ""
  line : '\n' ∉ pattern.toList
  unescaped : Script.isUnescaped pattern.toList = true
  commentFree : Script.isCommentFree pattern.toList = true
  boolean : ∀ word ∈ ["true", "false"], contains word pattern = false
  out : ∀ parts ∈ allParts, keepsOut pattern.toList parts = true

/-- The comment in the default value of a property of an unknown type. -/
def unrecognizedComment : String := "/* Error: property was of an unrecognized type */"

theorem isTelling {pattern : String}
    (listed : pattern ∈ [unknownMethod, unrecognizedComment, "\x7b\x7b"]) : IsTelling pattern where
  inhabited := by
    revert listed pattern
    decide +kernel
  line := by
    revert listed pattern
    decide +kernel
  unescaped := by
    revert listed pattern
    decide +kernel
  commentFree := by
    revert listed pattern
    decide +kernel
  boolean := by
    revert listed pattern
    decide +kernel
  out := by
    revert listed pattern
    decide +kernel

/-- Every text that an author or a caller brings in. -/
def inputs (extension codeNamespace : String) (behavior : Behavior) (names : Dictionary String) :
    List String :=
  [extension, behavior.name, behavior.fullName, codeNamespace] ++
  (behavior.properties.flatMap fun property => [property.name, property.value]) ++
  behavior.functions.flatMap fun function =>
    function.name :: ((Dictionary.find? function.name names).toList ++
      InlineEvents.authored function.events)

variable {pattern extension codeNamespace : String} {behavior : Behavior}
  {names : Dictionary String}

structure AllFree (pattern extension codeNamespace : String) (behavior : Behavior)
    (names : Dictionary String) : Prop where
  extension : contains extension pattern = false
  name : contains behavior.name pattern = false
  fullName : contains behavior.fullName pattern = false
  codeNamespace : contains codeNamespace pattern = false
  property : ∀ property ∈ behavior.properties,
    contains property.name pattern = false ∧ contains property.value pattern = false
  function : ∀ function ∈ behavior.functions, contains function.name pattern = false
  method : ∀ function ∈ behavior.functions, ∀ method ∈ Dictionary.find? function.name names,
    contains method pattern = false
  authored : ∀ function ∈ behavior.functions, ∀ code ∈ InlineEvents.authored function.events,
    contains code pattern = false

theorem allFree_of_inputs (free : ∀ text ∈ inputs extension codeNamespace behavior names,
    contains text pattern = false) : AllFree pattern extension codeNamespace behavior names := by
  have properties (property : Property) (declared : property ∈ behavior.properties)
      (text : String) (listed : text ∈ [property.name, property.value]) :
      contains text pattern = false :=
    free text (List.mem_append_left _ (List.mem_append_right _
      (List.mem_flatMap.mpr ⟨property, declared, listed⟩)))
  have functions (function : EventsFunction) (declared : function ∈ behavior.functions)
      (text : String) (listed : text ∈ function.name ::
        ((Dictionary.find? function.name names).toList ++
          InlineEvents.authored function.events)) : contains text pattern = false :=
    free text (List.mem_append_right _ (List.mem_flatMap.mpr ⟨function, declared, listed⟩))
  exact {
    extension := free _ (by simp [inputs])
    name := free _ (by simp [inputs])
    fullName := free _ (by simp [inputs])
    codeNamespace := free _ (by simp [inputs])
    property := fun property declared => ⟨properties property declared _ (by simp),
      properties property declared _ (by simp)⟩
    function := fun function declared => functions function declared _ (by simp)
    method := fun function declared method mapped =>
      functions function declared method (by simp_all)
    authored := fun function declared code written =>
      functions function declared code (by simp [written]) }

theorem IsTelling.contains_parts (telling : IsTelling pattern) (parts : List Part)
    (values : List (String × String)) (listed : parts ∈ allParts)
    (free : ∀ entry ∈ values, contains entry.2 pattern = false) :
    contains (String.join (parts.map (Part.filled values))) pattern = false :=
  contains_filled telling.inhabited (telling.out parts listed) free

theorem contains_defaultValue (telling : IsTelling pattern) {property : Property}
    (own : contains property.value pattern = false)
    (known : property.type.isKnown = true ∨ contains unrecognizedMarker pattern = false) :
    contains (defaultValue property) pattern = false := by
  have quoted := Script.contains_quote telling.inhabited telling.unescaped own
  unfold defaultValue
  cases type : property.type with
  | string => exact quoted
  | choice => exact quoted
  | number =>
    have free := telling.contains_parts numberParts [("VALUE", Script.quote property.value)]
      (by simp [allParts]) (by simp [quoted])
    simpa [numberParts, Part.filled_literal, Part.filled_hole_self,
      Part.filled_hole_of_ne, String.append_assoc] using free
  | boolean =>
    dsimp only
    split
    · exact telling.boolean _ (by simp)
    · exact telling.boolean _ (by simp)
  | unrecognized name =>
    rw [type] at known
    exact known.resolve_left (by simp [PropertyType.isKnown])

theorem contains_initialization (telling : IsTelling pattern) {property : Property}
    (named : contains property.name pattern = false)
    (default : contains (defaultValue property) pattern = false) :
    contains (PropertyCode.initialization property) pattern = false := by
  rw [PropertyCode.initialization_filled]
  refine telling.contains_parts _ _ ?_ (by simp [named, default])
  split <;> simp [allParts]

theorem contains_accessors (telling : IsTelling pattern) {property : Property} {className : String}
    (space : contains codeNamespace pattern = false) (class_free : contains className pattern = false)
    (named : contains property.name pattern = false)
    (default : contains (defaultValue property) pattern = false) :
    contains (PropertyCode.accessors codeNamespace className property) pattern = false := by
  have getter : contains (Script.getterName property.name) pattern = false := by
    have free := telling.contains_parts getterParts [("PROPERTY", property.name)]
      (by simp [allParts]) (by simp [named])
    simpa [getterParts, Part.filled_literal, Part.filled_hole_self, Script.getterName] using free
  have setter : contains (Script.setterName property.name) pattern = false := by
    have free := telling.contains_parts setterParts [("PROPERTY", property.name)]
      (by simp [allParts]) (by simp [named])
    simpa [setterParts, Part.filled_literal, Part.filled_hole_self, Script.setterName] using free
  rw [PropertyCode.accessors_filled]
  refine telling.contains_parts _ _ (by simp [allParts]) ?_
  simp [PropertyCode.accessorsValues, space, class_free, getter, setter, named, default]

theorem contains_hotReload (telling : IsTelling pattern) {property : Property}
    (named : contains property.name pattern = false) :
    contains (PropertyCode.hotReload property) pattern = false := by
  rw [PropertyCode.hotReload_filled]
  exact telling.contains_parts _ _ (by simp [allParts]) (by simp [named])

theorem contains_methodName (free : AllFree pattern extension codeNamespace behavior names)
    {function : EventsFunction} (declared : function ∈ behavior.functions)
    (mapped : (Dictionary.find? function.name names).isSome = true ∨
      contains unknownMethod pattern = false) :
    contains (methodName names function) pattern = false := by
  unfold methodName
  cases found : Dictionary.find? function.name names with
  | none =>
    rw [found] at mapped
    exact mapped.resolve_left (by simp)
  | some method => exact free.method function declared method found

theorem contains_shims (telling : IsTelling pattern) {className : String}
    (space : contains codeNamespace pattern = false) (class_free : contains className pattern = false)
    (method : String) :
    contains (shimCode Shim.standard codeNamespace className method) pattern = false := by
  rw [shimCode_standard, ← Shim.destroy_code, Shim.destroy_filled]
  split
  · exact telling.contains_parts _ _ (by simp [allParts]) (by simp [space, class_free])
  · simp [contains, Text.occurs, telling.inhabited]

theorem contains_method (telling : IsTelling pattern) (project : Project) (forRuntime : Bool)
    (free : AllFree pattern extension codeNamespace behavior names) {function : EventsFunction}
    (declared : function ∈ behavior.functions)
    (named : contains (methodName names function) pattern = false) :
    contains ((BehaviorGenerator.ofInline project).method behavior codeNamespace names forRuntime
      function).code pattern = false := by
  have values : ∀ entry ∈ [("NAMESPACE", codeNamespace), ("CLASS", behavior.name),
      ("METHOD", methodName names function)], contains entry.2 pattern = false := by
    simp [free.codeNamespace, free.name, named]
  have qualified : contains (codeNamespace ++ "." ++ behavior.name ++ ".prototype." ++
      methodName names function) pattern = false := by
    have free := telling.contains_parts qualifiedParts _ (by simp [allParts]) values
    simpa [qualifiedParts, Part.filled_literal, Part.filled_hole_self,
      Part.filled_hole_of_ne, String.append_assoc] using free
  have context : contains (codeNamespace ++ "." ++ behavior.name ++ ".prototype." ++
      methodName names function ++ "Context") pattern = false := by
    have free := telling.contains_parts contextParts _ (by simp [allParts]) values
    simpa [contextParts, qualifiedParts, Part.filled_literal, Part.filled_hole_self,
      Part.filled_hole_of_ne, String.append_assoc] using free
  have written : contains (InlineEvents.body forRuntime function) pattern = false :=
    contains_of_within (InlineEvents.prefix_trimmed _).isInfix
      (InlineEvents.contains_compile telling.inhabited telling.line
        (telling.out _ (by simp [allParts])) (free.function function declared)
        (free.authored function declared))
  have own : contains (InlineEvents.method
      (methodRequest behavior codeNamespace names forRuntime function)).code pattern = false := by
    rw [InlineEvents.method_filled]
    refine telling.contains_parts _ _ (by simp [allParts]) ?_
    simp only [InlineEvents.methodValues, methodRequest, List.forall_mem_cons]
    exact ⟨context, qualified, written, List.forall_mem_nil _⟩
  have ends : EndsLine (InlineEvents.method
      (methodRequest behavior codeNamespace names forRuntime function)).code := by
    rw [InlineEvents.method_code]
    exact .behind (.inr ⟨"\n\x7d;", by simp⟩) (by decide) _
  exact contains_append_of_endsLine ends telling.line own
    (contains_shims telling free.codeNamespace free.name _)

theorem endsLine_method (project : Project) (codeNamespace : String) (behavior : Behavior)
    (names : Dictionary String) (forRuntime : Bool) (function : EventsFunction) :
    EndsLine ((BehaviorGenerator.ofInline project).method behavior codeNamespace names forRuntime
      function).code := by
  rw [BehaviorGenerator.ofInline_method_code]
  refine .append (.behind (.inr ⟨"\n\x7d;", by simp⟩) (by decide) _) ?_
  split
  · exact .behind (.inr ⟨"\x7d;", by simp⟩) (by decide) _
  · exact .inl rfl

theorem endsLine_initialization (property : Property) :
    EndsLine (PropertyCode.initialization property) := by
  rw [PropertyCode.initialization_eq, PropertyCode.initializationText]
  split <;> exact .behind (.inr ⟨";", by simp⟩) (by decide) _

theorem endsLine_accessors (codeNamespace className : String) (property : Property) :
    EndsLine (PropertyCode.accessors codeNamespace className property) := by
  rw [PropertyCode.accessors_eq]
  exact .behind (.inr ⟨" = newValue;\n\x7d;", by simp⟩) (by decide) _

theorem endsLine_hotReload (property : Property) : EndsLine (PropertyCode.hotReload property) := by
  rw [PropertyCode.hotReload_eq]
  exact .behind (.inr ⟨";", by simp⟩) (by decide) _

/-- A telling text that neither an author nor leniency brings in is not in the module. -/
theorem contains_generate (telling : IsTelling pattern) (project : Project) (includes : IncludeList)
    (forRuntime : Bool) (free : AllFree pattern extension codeNamespace behavior names)
    (mapped : (∀ function ∈ behavior.functions,
        (Dictionary.find? function.name names).isSome = true) ∨
      contains unknownMethod pattern = false)
    (known : (∀ property ∈ behavior.properties, property.type.isKnown = true) ∨
      contains unrecognizedMarker pattern = false) :
    contains ((BehaviorGenerator.ofInline project).generate extension behavior codeNamespace names
      includes forRuntime).1.code pattern = false := by
  have default (property : Property) (declared : property ∈ behavior.properties) :=
    contains_defaultValue telling (free.property property declared).2
      (known.imp_left fun known => known property declared)
  have named (function : EventsFunction) (declared : function ∈ behavior.functions) :=
    contains_methodName free declared (mapped.imp_left fun mapped => mapped function declared)
  have full := Script.contains_commentSafe telling.inhabited telling.commentFree free.fullName
  have type : contains (Script.quote (extension ++ "::" ++ behavior.name)) pattern = false := by
    have free := telling.contains_parts typeParts
      [("EXTENSION", extension), ("BEHAVIOR", behavior.name)] (by simp [allParts])
      (by simp [free.extension, free.name])
    refine Script.contains_quote telling.inhabited telling.unescaped ?_
    simpa [typeParts, Part.filled_literal, Part.filled_hole_self,
      Part.filled_hole_of_ne, String.append_assoc] using free
  have lines {α : Type} (items : List α) (text : α → String) (ends : ∀ item, EndsLine (text item))
      (free : ∀ item ∈ items, contains (text item) pattern = false) :
      contains (String.join (items.map text)) pattern = false := by
    refine contains_join_lines telling.inhabited telling.line ?_ ?_ <;>
      simp only [List.forall_mem_map]
    · exact fun item _ => ends item
    · exact free
  have initializations := lines behavior.properties _ endsLine_initialization
    fun property declared => contains_initialization telling (free.property property declared).1
      (default property declared)
  have accessors := lines behavior.properties _ (endsLine_accessors codeNamespace behavior.name)
    fun property declared => contains_accessors telling free.codeNamespace free.name
      (free.property property declared).1 (default property declared)
  have reloads := lines behavior.properties _ endsLine_hotReload fun property declared =>
    contains_hotReload telling (free.property property declared).1
  have methods := lines behavior.functions _
    (endsLine_method project codeNamespace behavior names forRuntime)
    fun function declared => contains_method telling project forRuntime free declared
      (named function declared)
  rw [BehaviorGenerator.generate_filled]
  refine telling.contains_parts _ _ (by simp [allParts]) ?_
  simp only [BehaviorGenerator.moduleValues, List.forall_mem_cons, List.map_map]
  refine ⟨free.codeNamespace, free.name, full, type, initializations, ?_, accessors, methods,
    List.forall_mem_nil _⟩
  refine contains_of_within ?_ reloads
  rw [String.toList_ofList]
  exact (Text.prefix_trimEndBy _ _).isInfix

theorem contains_of_part {parts : List Part} {values : List (String × String)} {part : Part}
    (member : part ∈ parts) (holds : contains (part.filled values) pattern = true) :
    contains (String.join (parts.map (Part.filled values))) pattern = true := by
  obtain ⟨front, back, around⟩ := Template.exists_around member
  rw [around, Text.contains_iff]
  refine (Text.contains_iff.mp holds).trans ⟨front.toList, back.toList, ?_⟩
  simp

theorem marker_of_unrecognized {property : Property} (unknown : property.type.isKnown = false) :
    contains (PropertyCode.initialization property) unrecognizedMarker = true := by
  have default : defaultValue property = unrecognizedMarker := by
    unfold defaultValue
    cases type : property.type with
    | unrecognized name => rfl
    | _ =>
      rw [type] at unknown
      cases unknown
  have member : Part.hole "DEFAULT_VALUE" ∈
      if property.hidden then PropertyCode.hiddenParts else PropertyCode.visibleParts := by
    split <;> simp [PropertyCode.hiddenParts, PropertyCode.visibleParts]
  rw [PropertyCode.initialization_filled]
  refine contains_of_part member ?_
  rw [Part.filled_hole_of_ne (by decide), Part.filled_hole_self, default, Text.contains_iff]

theorem name_of_unmapped (project : Project) (codeNamespace : String) (behavior : Behavior)
    (forRuntime : Bool) {function : EventsFunction}
    (unmapped : (Dictionary.find? function.name names).isNone = true) :
    contains ((BehaviorGenerator.ofInline project).method behavior codeNamespace names forRuntime
      function).code unknownMethod = true := by
  have named : methodName names function = unknownMethod := by
    rw [methodName, Option.isNone_iff_eq_none.mp unmapped, Option.getD_none]
  have own : contains (InlineEvents.method
      (methodRequest behavior codeNamespace names forRuntime function)).code unknownMethod =
        true := by
    rw [InlineEvents.method_filled]
    have member : Part.hole "FUNCTION_QUALIFIED_NAME" ∈ InlineEvents.methodParts := by
      simp [InlineEvents.methodParts]
    refine contains_of_part member ?_
    rw [InlineEvents.methodValues, Part.filled_hole_of_ne (by decide), Part.filled_hole_self,
      methodRequest, named, Text.contains_iff, String.toList_append]
    exact (List.suffix_append _ _).isInfix
  rw [Text.contains_iff] at own ⊢
  have whole : ((BehaviorGenerator.ofInline project).method behavior codeNamespace names forRuntime
      function).code = (InlineEvents.method (methodRequest behavior codeNamespace names forRuntime
        function)).code ++ shimCode Shim.standard codeNamespace behavior.name
          (methodName names function) := rfl
  rw [whole, String.toList_append]
  exact own.trans (List.prefix_append _ _).isInfix

end BehaviorModule

namespace BehaviorGenerator

open BehaviorModule
open PropertyCode (unrecognizedMarker)

variable (project : Project) (extension codeNamespace : String) (behavior : Behavior)
  (names : Dictionary String) (includes : IncludeList) (forRuntime : Bool)

theorem unmapped_le_count :
    (behavior.functions.countP fun function => (Dictionary.find? function.name names).isNone) ≤
      Text.count unknownMethod ((ofInline project).generate extension behavior codeNamespace names
        includes forRuntime).1.code := by
  have member : Part.hole "METHODS_CODE" ∈ moduleParts := by simp [moduleParts]
  obtain ⟨front, back, around⟩ := Template.exists_around member
  have filled : Part.filled ((ofInline project).moduleValues extension codeNamespace behavior names
      forRuntime) (.hole "METHODS_CODE") = String.join (behavior.functions.map fun function =>
        ((ofInline project).method behavior codeNamespace names forRuntime function).code) := by
    simp [moduleValues, Part.filled_hole_of_ne, Part.filled_hole_self, Function.comp_def]
  rw [generate_filled, around, filled]
  refine le_trans ?_ (Text.countP_contains_le_count (by decide) front back _)
  rw [List.countP_map]
  exact List.countP_mono_left fun function _ unmapped =>
    name_of_unmapped project codeNamespace behavior forRuntime unmapped

theorem unrecognized_le_count :
    (behavior.properties.countP (!·.type.isKnown)) ≤
      Text.count unrecognizedMarker ((ofInline project).generate extension behavior codeNamespace
        names includes forRuntime).1.code := by
  have member : Part.hole "INITIALIZE_PROPERTIES_CODE" ∈ moduleParts := by simp [moduleParts]
  obtain ⟨front, back, around⟩ := Template.exists_around member
  have filled : Part.filled ((ofInline project).moduleValues extension codeNamespace behavior names
      forRuntime) (.hole "INITIALIZE_PROPERTIES_CODE") =
        String.join (behavior.properties.map PropertyCode.initialization) := by
    simp [moduleValues, Part.filled_hole_of_ne, Part.filled_hole_self]
  rw [generate_filled, around, filled]
  refine le_trans ?_ (Text.countP_contains_le_count (by decide) front back _)
  rw [List.countP_map]
  exact List.countP_mono_left fun property _ unknown =>
    marker_of_unrecognized (by simpa using unknown)

theorem countP_code {items : List Diagnostic} {own : Code}
    (same : ∀ diagnostic ∈ items, diagnostic.code = own) (code : Code) :
    items.countP (·.code == code) = if own = code then items.length else 0 := by
  split
  · rename_i asked
    exact List.countP_eq_length.mpr fun diagnostic listed => by simp [same diagnostic listed, asked]
  · rename_i other
    exact List.countP_eq_zero.mpr fun diagnostic listed => by simp [same diagnostic listed, other]

theorem diagnostics_count (code : Code) :
    ((ofInline project).generate extension behavior codeNamespace names includes
        forRuntime).1.diagnostics.count code =
      (if .unrecognizedPropertyType = code then behavior.properties.countP (!·.type.isKnown)
        else 0) +
      if .unmappedFunctionName = code then
        behavior.functions.countP fun function => (Dictionary.find? function.name names).isNone
      else 0 := by
  have items : ((ofInline project).generate extension behavior codeNamespace names includes
      forRuntime).1.diagnostics.items = typeWarnings behavior ++ nameWarnings behavior names := by
    rw [← filterMap_propertyDiagnostic, ← filterMap_methodDiagnostic]
    rfl
  have types : ∀ diagnostic ∈ typeWarnings behavior,
      diagnostic.code = .unrecognizedPropertyType := by
    simp only [typeWarnings, List.forall_mem_map]
    exact fun _ _ => rfl
  have named : ∀ diagnostic ∈ nameWarnings behavior names,
      diagnostic.code = .unmappedFunctionName := by
    simp only [nameWarnings, List.forall_mem_map]
    exact fun _ _ => rfl
  rw [Diagnostics.count, items, List.countP_append, countP_code types, countP_code named,
    typeWarnings, nameWarnings, List.length_map, List.length_map,
    ← List.countP_eq_length_filter, ← List.countP_eq_length_filter]

end BehaviorGenerator

theorem count_countedWarning (own code : Code) (number : Nat) (message subject : String) :
    (countedWarning own number message subject).countP (·.code == code) =
      if own = code ∧ 0 < number then 1 else 0 := by
  by_cases none : number = 0
  · simp [countedWarning, none]
  · have some : 0 < number := Nat.pos_of_ne_zero none
    by_cases asked : own = code <;> simp [countedWarning, Diagnostic.warning, none, some, asked]

theorem lint_count (code : Code) (text subject : String) : (lint text subject).count code =
    (if .unmappedFunctionName = code ∧ 0 < Text.count BehaviorModule.unknownMethod text then 1
      else 0) +
    (if .unrecognizedPropertyType = code ∧ 0 < Text.count PropertyCode.unrecognizedMarker text then 1
      else 0) +
    if .unresolvedPlaceholder = code then (Template.unresolved text).length else 0 := by
  have unresolved : ∀ diagnostic ∈ (Template.unresolved text).map fun placeholder =>
      Diagnostic.warning .unresolvedPlaceholder
        ("placeholder " ++ placeholder ++ " was never substituted") (some subject),
      diagnostic.code = .unresolvedPlaceholder := by
    simp [Diagnostic.warning]
  rw [Diagnostics.count, lint, List.countP_append, List.countP_append, count_countedWarning,
    count_countedWarning, BehaviorGenerator.countP_code unresolved, List.length_map]

theorem Template.placeholderNames_of_free {text : List Char} (free : ¬['{', '{'] <:+: text) :
    placeholderNames text = [] := by
  fun_induction placeholderNames text with
  | case1 rest name behind found ih => exact absurd (List.prefix_append _ rest).isInfix free
  | case2 rest name behind missing ih => exact absurd (List.prefix_append _ rest).isInfix free
  | case3 c rest _ ih => exact ih fun holds => free (List.infix_cons holds)
  | case4 => rfl

theorem mem_countedWarning {code : Code} {count : Nat} (counted : 0 < count)
    (message subject : String) : .warning code (Decimal.text count ++ message) (some subject) ∈
      countedWarning code count message subject := by
  rw [countedWarning, if_neg (Nat.ne_of_gt counted)]
  exact List.mem_cons_self

/-- A check says how often it has found the name of a function without one. -/
theorem mem_lint_unmapped {text : String}
    (counted : 0 < Text.count BehaviorModule.unknownMethod text) (subject : String) :
    .warning .unmappedFunctionName (Decimal.text (Text.count BehaviorModule.unknownMethod text) ++
      " method(s) generated without a mangled name") (some subject) ∈ (lint text subject).items :=
  List.mem_append_left _ (List.mem_append_left _ (mem_countedWarning counted _ _))

theorem mem_lint_unrecognized {text : String}
    (counted : 0 < Text.count PropertyCode.unrecognizedMarker text) (subject : String) :
    .warning .unrecognizedPropertyType
      (Decimal.text (Text.count PropertyCode.unrecognizedMarker text) ++
        " value(s) of an unrecognized property type") (some subject) ∈
          (lint text subject).items :=
  List.mem_append_left _ (List.mem_append_right _ (mem_countedWarning counted _ _))

theorem lint_unmapped_iff {text subject : String} :
    0 < (lint text subject).count .unmappedFunctionName ↔
      contains text BehaviorModule.unknownMethod = true := by
  rw [← Text.count_pos_iff (by decide)]
  by_cases counted : 0 < Text.count BehaviorModule.unknownMethod text <;>
    simp [lint_count, counted, Code.unmappedFunctionName, Code.unrecognizedPropertyType,
      Code.unresolvedPlaceholder]

theorem lint_unrecognized_iff {text subject : String} :
    0 < (lint text subject).count .unrecognizedPropertyType ↔
      contains text PropertyCode.unrecognizedMarker = true := by
  rw [← Text.count_pos_iff (by decide)]
  by_cases counted : 0 < Text.count PropertyCode.unrecognizedMarker text <;>
    simp [lint_count, counted, Code.unmappedFunctionName, Code.unrecognizedPropertyType,
      Code.unresolvedPlaceholder]

theorem lint_unresolved {text : String} (free : contains text "\x7b\x7b" = false)
    (subject : String) : (lint text subject).count .unresolvedPlaceholder = 0 := by
  have none := Template.placeholderNames_of_free (Text.contains_false_iff.mp free)
  simp [lint_count, Template.unresolved, none, Code.unmappedFunctionName,
    Code.unrecognizedPropertyType, Code.unresolvedPlaceholder]

/-- The texts that no input may have for the check to find what was reported and nothing else. -/
def BehaviorModule.tellingTexts : List String := ["\x7b", unknownMethod, unrecognizedComment]

namespace BehaviorGenerator

open BehaviorModule

variable {extension codeNamespace : String} {behavior : Behavior} {names : Dictionary String}

theorem allFree_of_plain (plain : ∀ text ∈ inputs extension codeNamespace behavior names,
      ∀ telling ∈ tellingTexts, contains text telling = false) {pattern : String}
    (listed : pattern ∈ [unknownMethod, unrecognizedComment, "\x7b\x7b"]) :
    AllFree pattern extension codeNamespace behavior names := by
  refine allFree_of_inputs fun text given => ?_
  have free := plain text given
  simp only [List.mem_cons, List.not_mem_nil, or_false] at listed
  rcases listed with rfl | rfl | rfl
  · exact free _ (by simp [tellingTexts])
  · exact free _ (by simp [tellingTexts])
  · have brace := Text.contains_false_iff.mp (free "\x7b" (by simp [tellingTexts]))
    refine Text.contains_false_iff.mpr fun holds => brace (List.IsInfix.trans ?_ holds)
    exact ⟨[], ['{'], by decide⟩

/-- Where no input has a telling text, only leniency brings one into the module. -/
theorem contains_generate_of_plain (project : Project) (includes : IncludeList) (forRuntime : Bool)
    (plain : ∀ text ∈ inputs extension codeNamespace behavior names,
      ∀ telling ∈ tellingTexts, contains text telling = false) :
    let code := ((ofInline project).generate extension behavior codeNamespace names includes
      forRuntime).1.code
    ((behavior.functions.countP fun function =>
        (Dictionary.find? function.name names).isNone) = 0 →
      contains code unknownMethod = false) ∧
    (behavior.properties.countP (!·.type.isKnown) = 0 →
      contains code unrecognizedComment = false) ∧
    contains code "\x7b\x7b" = false := by
  intro code
  have apart : contains PropertyCode.unrecognizedMarker unknownMethod = false ∧
      contains unknownMethod unrecognizedComment = false ∧
      contains unknownMethod "\x7b\x7b" = false ∧
      contains PropertyCode.unrecognizedMarker "\x7b\x7b" = false := by
    decide +kernel
  obtain ⟨marker, method, method_brace, marker_brace⟩ := apart
  refine ⟨fun mapped => ?_, fun known => ?_, ?_⟩
  · refine contains_generate (isTelling (by simp)) project includes forRuntime
      (allFree_of_plain plain (by simp)) (.inl fun function declared => ?_) (.inr marker)
    simpa [Option.isSome_iff_ne_none] using List.countP_eq_zero.mp mapped function declared
  · refine contains_generate (isTelling (by simp)) project includes forRuntime
      (allFree_of_plain plain (by simp)) (.inr method) (.inl fun property declared => ?_)
    simpa using List.countP_eq_zero.mp known property declared
  · exact contains_generate (isTelling (by simp)) project includes forRuntime
      (allFree_of_plain plain (by simp)) (.inr method_brace) (.inr marker_brace)

/-- For a behavior with inline code and the usual shims, a check of the module finds every kind
of degradation that generation has reported, and counts at least what was degraded. Where no
input has a telling text, it finds nothing else. -/
theorem lint_agrees (project : Project) (extension codeNamespace : String)
    (behavior : Behavior) (names : Dictionary String) (includes : IncludeList)
    (forRuntime : Bool) (subject : String) :
    let result := ((ofInline project).generate extension behavior codeNamespace names includes
      forRuntime).1
    let found := lint result.code subject
    let unmapped := behavior.functions.countP fun function =>
      (Dictionary.find? function.name names).isNone
    let unrecognized := behavior.properties.countP (!·.type.isKnown)
    result.diagnostics.count .unmappedFunctionName = unmapped ∧
    result.diagnostics.count .unrecognizedPropertyType = unrecognized ∧
    (0 < result.diagnostics.count .unmappedFunctionName → ∃ number, unmapped ≤ number ∧
      .warning .unmappedFunctionName
        (Decimal.text number ++ " method(s) generated without a mangled name") (some subject) ∈
          found.items) ∧
    (0 < result.diagnostics.count .unrecognizedPropertyType → ∃ number, unrecognized ≤ number ∧
      .warning .unrecognizedPropertyType
        (Decimal.text number ++ " value(s) of an unrecognized property type") (some subject) ∈
          found.items) ∧
    ((∀ text ∈ inputs extension codeNamespace behavior names, ∀ telling ∈ tellingTexts,
        Text.contains text telling = false) →
      (0 < found.count .unmappedFunctionName ↔
        0 < result.diagnostics.count .unmappedFunctionName) ∧
      (0 < found.count .unrecognizedPropertyType ↔
        0 < result.diagnostics.count .unrecognizedPropertyType) ∧
      found.count .unresolvedPlaceholder = 0) := by
  intro result found unmapped unrecognized
  have names_reported : result.diagnostics.count .unmappedFunctionName = unmapped := by
    rw [diagnostics_count]
    exact Nat.zero_add _
  have types_reported : result.diagnostics.count .unrecognizedPropertyType = unrecognized := by
    rw [diagnostics_count]
    rfl
  have names_counted : unmapped ≤ Text.count unknownMethod result.code :=
    unmapped_le_count project extension codeNamespace behavior names includes forRuntime
  have types_counted : unrecognized ≤ Text.count PropertyCode.unrecognizedMarker result.code :=
    unrecognized_le_count project extension codeNamespace behavior names includes forRuntime
  refine ⟨names_reported, types_reported, fun reported => ⟨_, names_counted, ?_⟩,
    fun reported => ⟨_, types_counted, ?_⟩, fun plain => ?_⟩
  · rw [names_reported] at reported
    exact mem_lint_unmapped (reported.trans_le names_counted) subject
  · rw [types_reported] at reported
    exact mem_lint_unrecognized (reported.trans_le types_counted) subject
  · obtain ⟨no_name, no_type, no_brace⟩ :=
      contains_generate_of_plain project includes forRuntime plain
    refine ⟨?_, ?_, lint_unresolved no_brace subject⟩
    · rw [lint_unmapped_iff, names_reported]
      refine ⟨fun holds => Nat.pos_of_ne_zero fun none => ?_, fun some => ?_⟩
      · rw [no_name none] at holds
        cases holds
      · exact (Text.count_pos_iff (by decide)).mp (some.trans_le names_counted)
    · rw [lint_unrecognized_iff, types_reported]
      refine ⟨fun holds => Nat.pos_of_ne_zero fun none => ?_, fun some => ?_⟩
      · have within : unrecognizedComment.toList <:+: PropertyCode.unrecognizedMarker.toList := by
          decide +kernel
        have comment := Text.contains_iff.mpr (within.trans (Text.contains_iff.mp holds))
        rw [no_type none] at comment
        cases comment
      · exact (Text.count_pos_iff (by decide)).mp (some.trans_le types_counted)

/-- A behavior with a property of an unknown type and a function that may have no name. -/
def dimmer : Behavior :=
  ⟨"Dimmer", "Dims a lantern", "", [⟨"Shade", .unrecognized "Color", "gray", false⟩],
    [⟨"dim", "", [.object [("type", .string "JsCode"), ("inlineCode", .string "this.dim();")]]⟩]⟩

/-- Without names both degradations are found, and no placeholder is. -/
theorem dimmer_degradations_found :
    let found := lint ((ofInline (.blank "Village")).generate "Lights" dimmer "kiln.lights" []
      .empty false).1.code "dimmer.js"
    (∃ number, 1 ≤ number ∧ .warning .unmappedFunctionName
      (Decimal.text number ++ " method(s) generated without a mangled name") (some "dimmer.js") ∈
        found.items) ∧
    (∃ number, 1 ≤ number ∧ .warning .unrecognizedPropertyType
      (Decimal.text number ++ " value(s) of an unrecognized property type") (some "dimmer.js") ∈
        found.items) ∧
    0 < found.count .unmappedFunctionName ∧ 0 < found.count .unrecognizedPropertyType ∧
    found.count .unresolvedPlaceholder = 0 := by
  obtain ⟨names_reported, types_reported, names_found, types_found, agree⟩ :=
    lint_agrees (.blank "Village") "Lights" "kiln.lights" dimmer [] .empty false "dimmer.js"
  have reported : 0 < dimmer.functions.countP (fun function =>
        (Dictionary.find? function.name ([] : Dictionary String)).isNone) ∧
      0 < dimmer.properties.countP (!·.type.isKnown) := by decide
  rw [← names_reported, ← types_reported] at reported
  obtain ⟨names_agree, types_agree, none⟩ := agree (by decide +kernel)
  exact ⟨names_found reported.1, types_found reported.2, names_agree.mpr reported.1,
    types_agree.mpr reported.2, none⟩

end BehaviorGenerator

end GameBundle
