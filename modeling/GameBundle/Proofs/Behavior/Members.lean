import GameBundle.Proofs.Behavior.Method
import GameBundle.Proofs.Dictionary
import GameBundle.Proofs.Script.Identifier
import Mathlib.Data.List.Nodup

/-!
# Members of the prototype

The module of a behavior assigns to members of the prototype of its class one after the other:
the update after a reload, a getter and a setter for each property, a context and a method for
each function, and methods added by shims. Accessors never meet other members. The functions
of an author can meet each other's contexts, the update after a reload and the method of a
shim; here it is determined when no member is assigned twice.
-/

namespace GameBundle

namespace BehaviorModule

inductive Piece where
  | plain (text : String)
  | member (name value : String)

namespace Piece

def written (className : String) : Piece → String
  | .plain text => text
  | .member name value => className ++ ".prototype." ++ name ++ " = " ++ value

def assigned? : Piece → Option String
  | .plain _ => none
  | .member name _ => some name

end Piece

/-- What stands before the first assignment to a member: the class and its registration. -/
def openingText (codeNamespace className fullName type initialization : String) : String :=
  codeNamespace ++ " = " ++ codeNamespace ++ " || \x7b\x7d;\n\n" ++
  "/**\n" ++
  " * Behavior generated from " ++ fullName ++ "\n" ++
  " * @class " ++ className ++ "\n" ++
  " * @extends kiln.RuntimeBehavior\n" ++
  " * @constructor\n" ++
  " */\n" ++
  codeNamespace ++ "." ++ className ++ " = function(runtimeScene, behaviorData, owner)\n" ++
  "\x7b\n" ++
  "    kiln.RuntimeBehavior.call(this, runtimeScene, behaviorData, owner);\n" ++
  "    this._runtimeScene = runtimeScene;\n\n" ++
  "    this._behaviorData = \x7b\x7d;\n" ++
  initialization ++ "\x7d;\n\n" ++
  codeNamespace ++ "." ++ className ++
    ".prototype = Object.create( kiln.RuntimeBehavior.prototype );\n" ++
  "kiln.registerBehavior(" ++ type ++ ", " ++ codeNamespace ++ "." ++ className ++ ");\n\n" ++
  "// Hot-reload:\n"

def accessorPieces (property : Property) : List Piece := [
  .member (Script.getterName property.name)
    ("function() \x7b\n    return this._behaviorData." ++ property.name ++
      " !== undefined ? this._behaviorData." ++ property.name ++ " : " ++
      PropertyCode.defaultValue property ++ ";\n\x7d;\n"),
  .member (Script.setterName property.name)
    ("function(newValue) \x7b\n    this._behaviorData." ++ property.name ++
      " = newValue;\n\x7d;\n")]

def methodPieces (method body : String) : List Piece :=
  [.plain "\n", .member (method ++ "Context") "\x7b\x7d;\n\n",
    .member method ("function() \x7b\n" ++ "var that = this;\n" ++
      "var runtimeScene = this._runtimeScene;\n" ++ body ++ "\n\x7d;\n")] ++
  if method = "onOwnerRemovedFromScene" then
    [.plain "\n", .member "onDestroy" ("function() \x7b\n" ++
      "  // Redirect call to onOwnerRemovedFromScene (the old name of onDestroy)\n" ++
      "  if (this.onOwnerRemovedFromScene) this.onOwnerRemovedFromScene();\n" ++ "\x7d;\n")]
  else []

def pieces (extension codeNamespace : String) (behavior : Behavior) (names : Dictionary String)
    (forRuntime : Bool) : List Piece :=
  let reload := String.join (behavior.properties.map PropertyCode.reloadText)
  [.plain (openingText codeNamespace behavior.name (Script.commentSafe behavior.fullName)
      (Script.quote (extension ++ "::" ++ behavior.name))
      (String.join (behavior.properties.map PropertyCode.initializationText))),
    .member "updateFromBehaviorData" ("function(oldBehaviorData, newBehaviorData) \x7b\n" ++
      String.ofList reload.toList.dropLast ++ "\n    return true;\n\x7d;\n\n"),
    .plain "// Properties:\n"] ++
  behavior.properties.flatMap accessorPieces ++
  [.plain "\n// Methods:\n"] ++
  behavior.functions.flatMap fun function =>
    methodPieces (methodName names function) (InlineEvents.body forRuntime function)

theorem join_flatMap {α : Type} (items : List α) (parts : α → List String) :
    String.join (items.flatMap parts) = String.join (items.map fun item => String.join (parts item)) := by
  induction items with
  | nil => rfl
  | cons item items ih => simp [ih]

theorem written_accessorPieces (codeNamespace className : String) (property : Property) :
    String.join ((accessorPieces property).map (Piece.written (codeNamespace ++ "." ++ className))) =
      PropertyCode.accessorsText codeNamespace className property := by
  have getter : " = function() \x7b\n    return this._behaviorData." =
      " = " ++ "function() \x7b\n    return this._behaviorData." := by simp
  have setter : " = function(newValue) \x7b\n    this._behaviorData." =
      " = " ++ "function(newValue) \x7b\n    this._behaviorData." := by simp
  unfold accessorPieces PropertyCode.accessorsText
  simp only [Piece.written, List.map_cons, List.map_nil, String.join_cons, String.join_nil,
    String.append_empty, String.append_assoc, getter, setter, Script.getterName,
    Script.setterName, PropertyCode.defaultValue_eq]

theorem written_methodPieces (codeNamespace className method body : String) :
    String.join ((methodPieces method body).map (Piece.written (codeNamespace ++ "." ++ className))) =
      InlineEvents.methodText (codeNamespace ++ "." ++ className ++ ".prototype." ++ method ++ "Context")
          (codeNamespace ++ "." ++ className ++ ".prototype." ++ method) body ++
        if method = "onOwnerRemovedFromScene" then Shim.destroyText codeNamespace className
        else "" := by
  have context : " = \x7b\x7d;\n\n" = " = " ++ "\x7b\x7d;\n\n" := by simp
  have function : " = function() \x7b\n" = " = " ++ "function() \x7b\n" := by simp
  have destroy : ".prototype.onDestroy = function() \x7b\n" =
      ".prototype." ++ ("onDestroy" ++ (" = " ++ "function() \x7b\n")) := by simp
  by_cases triggers : method = "onOwnerRemovedFromScene" <;>
    simp only [methodPieces, triggers, if_true, if_false, InlineEvents.methodText,
      Shim.destroyText, Piece.written, List.cons_append, List.nil_append, List.map_cons,
      List.map_nil, String.join_cons, String.join_nil, String.append_empty, String.append_assoc,
      context, function, destroy]

theorem generate_code_pieces (project : Project) (extension codeNamespace : String)
    (behavior : Behavior) (names : Dictionary String) (includes : IncludeList)
    (forRuntime : Bool) :
    ((BehaviorGenerator.ofInline project).generate extension behavior codeNamespace names includes
        forRuntime).1.code =
      String.join ((pieces extension codeNamespace behavior names forRuntime).map
        (Piece.written (codeNamespace ++ "." ++ behavior.name))) := by
  have update : ".prototype.updateFromBehaviorData = " =
      ".prototype." ++ ("updateFromBehaviorData" ++ " = ") := by simp
  have reloaded : "\n    return true;\n\x7d;\n\n" = "\n" ++ ("    return true;\n" ++ "\x7d;\n\n") := by
    simp
  have methods : "\n// Methods:\n" = "\n" ++ "// Methods:\n" := by simp
  rw [BehaviorGenerator.generate_code]
  unfold moduleText pieces openingText
  simp only [List.map_append, List.map_cons, List.map_nil, List.map_flatMap, String.join_append,
    join_flatMap, written_accessorPieces, written_methodPieces,
    BehaviorGenerator.ofInline_method_code]
  simp only [Piece.written, String.join_cons, String.join_nil, String.append_empty,
    String.append_assoc, update, reloaded, methods]

def accessorMembers (property : String) : List String :=
  [Script.getterName property, Script.setterName property]

def methodMembers (method : String) : List String :=
  [method ++ "Context", method] ++
    if method = "onOwnerRemovedFromScene" then ["onDestroy"] else []

/-- The members that a module assigns to, in order. -/
def members (behavior : Behavior) : List String :=
  "updateFromBehaviorData" ::
    (behavior.properties.map Property.name).flatMap accessorMembers ++
    (behavior.functions.map (Script.mangle ·.name)).flatMap methodMembers

theorem methodName_methodNames {behavior : Behavior} {function : EventsFunction}
    (declared : function ∈ behavior.functions) :
    methodName behavior.methodNames function = Script.mangle function.name := by
  have entries : behavior.functions.map (fun function =>
        (function.name, Behavior.methodName function.name)) =
      (behavior.functions.map EventsFunction.name).map fun name =>
        (name, Behavior.methodName name) := by simp
  rw [methodName, Behavior.methodNames, entries,
    Dictionary.find?_ofEntries, if_pos (List.mem_map_of_mem declared), Option.getD_some,
    Behavior.methodName_eq_mangle]

theorem assigned_methodPieces (method body : String) :
    (methodPieces method body).filterMap Piece.assigned? = methodMembers method := by
  by_cases triggers : method = "onOwnerRemovedFromScene" <;>
    simp [methodPieces, methodMembers, triggers, Piece.assigned?, List.filterMap_cons]

theorem assigned_pieces (extension codeNamespace : String) (behavior : Behavior)
    (forRuntime : Bool) :
    (pieces extension codeNamespace behavior behavior.methodNames forRuntime).filterMap
      Piece.assigned? = members behavior := by
  have methods : behavior.functions.flatMap (fun function =>
        methodMembers (methodName behavior.methodNames function)) =
      behavior.functions.flatMap fun function => methodMembers (Script.mangle function.name) :=
    List.flatMap_congr fun function declared => by rw [methodName_methodNames declared]
  unfold pieces members
  simp only [List.filterMap_append, List.filterMap_cons, List.filterMap_nil, Piece.assigned?,
    List.filterMap_flatMap, accessorPieces, accessorMembers, assigned_methodPieces, methods,
    List.flatMap_map, List.append_nil, List.cons_append, List.nil_append]

variable {method other : String} {methods : List String}

theorem append_ne_of_not_suffix {front ending whole : String}
    (differs : ¬ending.toList <:+ whole.toList) : front ++ ending ≠ whole := by
  rintro rfl
  exact differs (by simp)

theorem mem_methodMembers {member : String} : member ∈ methodMembers method ↔
    member = method ++ "Context" ∨ member = method ∨
      (member = "onDestroy" ∧ method = "onOwnerRemovedFromScene") := by
  by_cases triggers : method = "onOwnerRemovedFromScene" <;> simp [methodMembers, triggers]

theorem nodup_methodMembers (method : String) : (methodMembers method).Nodup := by
  have context : method ++ "Context" ≠ method := by
    intro same
    have sizes := congrArg String.length same
    simp at sizes
  by_cases triggers : method = "onOwnerRemovedFromScene"
  · subst triggers
    decide +kernel
  · simp [methodMembers, triggers, context]

/-- Two methods meet when one is called like the context of the other, or when one is called
on destruction and the other is its old name. -/
theorem disjoint_methodMembers (apart : method ≠ other) :
    (methodMembers method).Disjoint (methodMembers other) ↔
      other ≠ method ++ "Context" ∧ method ≠ other ++ "Context" ∧
        ¬(method = "onDestroy" ∧ other = "onOwnerRemovedFromScene") ∧
        ¬(other = "onDestroy" ∧ method = "onOwnerRemovedFromScene") := by
  have context (front : String) : front ++ "Context" ≠ "onDestroy" :=
    append_ne_of_not_suffix (by decide +kernel)
  constructor
  · intro disjoint
    simp only [List.disjoint_left, mem_methodMembers] at disjoint
    refine ⟨fun same => ?_, fun same => ?_, ?_, ?_⟩
    · exact disjoint (.inl rfl) (.inr (.inl same.symm))
    · exact disjoint (.inr (.inl rfl)) (.inl same)
    · rintro ⟨rfl, rfl⟩
      exact disjoint (.inr (.inl rfl)) (.inr (.inr ⟨rfl, rfl⟩))
    · rintro ⟨rfl, rfl⟩
      exact disjoint (.inr (.inr ⟨rfl, rfl⟩)) (.inr (.inl rfl))
  · rintro ⟨first, second, third, fourth⟩
    simp only [List.disjoint_left, mem_methodMembers]
    rintro member (rfl | rfl | ⟨rfl, triggers⟩) (same | same | ⟨same, triggered⟩)
    · exact apart ((String.append_left_inj _).mp same)
    · exact first same.symm
    · exact context _ same
    · exact second same
    · exact apart same
    · exact third ⟨same, triggered⟩
    · exact context _ same.symm
    · exact fourth ⟨same.symm, triggers⟩
    · exact apart (triggers.trans triggered.symm)

theorem nodup_flatMap_methodMembers (distinct : methods.Nodup) :
    (methods.flatMap methodMembers).Nodup ↔
      ¬("onDestroy" ∈ methods ∧ "onOwnerRemovedFromScene" ∈ methods) ∧
        ∀ method ∈ methods, ∀ other ∈ methods, other ≠ method ++ "Context" := by
  rw [List.nodup_flatMap, and_iff_right fun method _ => nodup_methodMembers method]
  constructor
  · intro pairwise
    have symmetric : Std.Symm (Function.onFun List.Disjoint methodMembers) :=
      ⟨fun _ _ => List.disjoint_comm.mp⟩
    constructor
    · rintro ⟨destroys, removes⟩
      have disjoint := pairwise.forall destroys removes (by decide)
      exact ((disjoint_methodMembers (by decide)).mp disjoint).2.2.1 ⟨rfl, rfl⟩
    · intro method listed other also same
      have apart : method ≠ other := by
        rintro rfl
        have sizes := congrArg String.length same
        simp at sizes
      exact ((disjoint_methodMembers apart).mp (pairwise.forall listed also apart)).1 same
  · rintro ⟨destroys, contexts⟩
    refine distinct.pairwise_of_forall_ne fun method listed other also apart => ?_
    refine (disjoint_methodMembers apart).mpr ⟨contexts method listed other also,
      contexts other also method listed, ?_, ?_⟩
    · rintro ⟨rfl, rfl⟩
      exact destroys ⟨listed, also⟩
    · rintro ⟨rfl, rfl⟩
      exact destroys ⟨also, listed⟩

/-! Accessors start with an underscore and a letter, and other members do not. -/

theorem mem_accessorMembers {property member : String} : member ∈ accessorMembers property ↔
    member = "_get" ++ property ∨ member = "_set" ++ property := by
  simp [accessorMembers, Script.getterName, Script.setterName]

theorem nodup_flatMap_accessorMembers {properties : List String} (distinct : properties.Nodup) :
    (properties.flatMap accessorMembers).Nodup := by
  have kinds (first second : String) : "_get" ++ first ≠ "_set" ++ second := by
    intro same
    simp [← String.toList_inj] at same
  refine List.nodup_flatMap.mpr ⟨fun property _ => ?_, ?_⟩
  · simp [accessorMembers, Script.getterName, Script.setterName, kinds]
  · refine distinct.pairwise_of_forall_ne fun first _ second _ apart => ?_
    simp only [Function.onFun, List.disjoint_left, mem_accessorMembers]
    rintro member (rfl | rfl) (same | same)
    · exact apart ((String.append_right_inj _).mp same)
    · exact kinds _ _ same
    · exact kinds _ _ same.symm
    · exact apart ((String.append_right_inj _).mp same)

/-- Behind an underscore that a mangled name starts with stands a digit. -/
theorem isDigit_of_mangle_append {name ending : String} {c : Char} {rest : List Char}
    (same : (Script.mangle name ++ ending).toList = '_' :: c :: rest)
    (ends : ending.toList.head? ≠ some '_') : Decimal.isDigit c = true := by
  rw [String.toList_append, Script.mangle, String.toList_ofList] at same
  cases mangled : Script.mangleChars name.toList with
  | nil =>
    rw [mangled, List.nil_append] at same
    simp [same] at ends
  | cons mark tail =>
    rw [mangled] at same
    obtain ⟨rfl, behind⟩ := List.cons.inj same
    rw [← List.nil_append ('_' :: tail)] at mangled
    obtain ⟨digit, more, rfl, isDigit⟩ := Script.exists_digit_of_mangleChars mangled
    exact (List.cons.inj behind).1 ▸ isDigit

theorem disjoint_accessorMembers (properties functions : List String) :
    (properties.flatMap accessorMembers).Disjoint
      ("updateFromBehaviorData" :: (functions.map Script.mangle).flatMap methodMembers) := by
  -- how an accessor starts, and what that would make of another member
  have start {member : String} (accessor : member ∈ properties.flatMap accessorMembers) :
      ∃ c rest, member.toList = '_' :: c :: rest ∧ Decimal.isDigit c = false := by
    obtain ⟨property, -, accesses⟩ := List.mem_flatMap.mp accessor
    rcases mem_accessorMembers.mp accesses with rfl | rfl
    · exact ⟨'g', _, String.toList_append, by decide⟩
    · exact ⟨'s', _, String.toList_append, by decide⟩
  rw [List.disjoint_left]
  intro member accessor other
  obtain ⟨c, rest, shape, letter⟩ := start accessor
  have absurd_digit {name ending : String} (same : member = Script.mangle name ++ ending)
      (ends : ending.toList.head? ≠ some '_') : False := by
    rw [isDigit_of_mangle_append (same ▸ shape) ends] at letter
    cases letter
  simp only [List.mem_cons, List.mem_flatMap, List.mem_map, mem_methodMembers] at other
  rcases other with rfl | ⟨_, ⟨function, -, rfl⟩, context | own | ⟨rfl, -⟩⟩
  · cases shape
  · exact absurd_digit context (by decide)
  · exact absurd_digit (own.trans String.append_empty.symm) (by decide)
  · cases shape

/-- Letters and digits are the mangled form of a function exactly when it is called so. -/
theorem mem_map_mangle {functions : List String} {text : String}
    (plain : text.toList.all Script.isPlain = true) :
    text ∈ functions.map Script.mangle ↔ text ∈ functions := by
  simp [Script.mangle_eq_iff_of_plain (List.all_eq_true.mp plain)]

theorem update_mem_methodMembers {methods : List String} :
    "updateFromBehaviorData" ∈ methods.flatMap methodMembers ↔
      "updateFromBehaviorData" ∈ methods := by
  have context (front : String) : "updateFromBehaviorData" ≠ front ++ "Context" :=
    (append_ne_of_not_suffix (by decide +kernel)).symm
  simp [mem_methodMembers, context]

/-- The module of a behavior with inline code and the usual method names is put together from
pieces that assign to its members in order. For distinct properties and functions that mangling
keeps apart no member is assigned twice, unless a function is called like the update after a
reload, both names of the method called on destruction are taken, or a function is called like
the context of another. -/
theorem members_nodup_iff (project : Project) (extension codeNamespace : String)
    (behavior : Behavior) (includes : IncludeList) (forRuntime : Bool)
    (properties_distinct : (behavior.properties.map Property.name).Nodup)
    (functions_apart : (behavior.functions.map (Script.mangle ·.name)).Nodup) :
    let parts := pieces extension codeNamespace behavior behavior.methodNames forRuntime
    let functions := behavior.functions.map EventsFunction.name
    ((BehaviorGenerator.ofInline project).generate extension behavior codeNamespace
        behavior.methodNames includes forRuntime).1.code =
      String.join (parts.map (Piece.written (codeNamespace ++ "." ++ behavior.name))) ∧
    parts.filterMap Piece.assigned? = members behavior ∧
    ((members behavior).Nodup ↔
      "updateFromBehaviorData" ∉ functions ∧
      ¬("onDestroy" ∈ functions ∧ "onOwnerRemovedFromScene" ∈ functions) ∧
      ∀ function ∈ functions, ∀ other ∈ functions,
        Script.mangle other ≠ Script.mangle function ++ "Context") := by
  intro parts functions
  refine ⟨generate_code_pieces _ _ _ _ _ _ _, assigned_pieces _ _ _ _, ?_⟩
  have named : behavior.functions.map (Script.mangle ·.name) = functions.map Script.mangle := by
    rw [List.map_map]
    rfl
  rw [named] at functions_apart
  have accessors := nodup_flatMap_accessorMembers properties_distinct
  have disjoint := disjoint_accessorMembers (behavior.properties.map Property.name) functions
  rw [List.disjoint_cons_right] at disjoint
  rw [members, named, List.cons_append, List.nodup_cons, List.nodup_append', List.mem_append,
    or_iff_right disjoint.1, update_mem_methodMembers, and_iff_right accessors,
    and_iff_left disjoint.2, nodup_flatMap_methodMembers functions_apart,
    mem_map_mangle rfl, mem_map_mangle rfl, mem_map_mangle rfl]
  simp

/-- A behavior with both names of the method called on destruction. -/
def lantern : Behavior :=
  ⟨"Lantern", "A lantern", "", [⟨"Lit", .boolean, "true", false⟩],
    [⟨"onDestroy", "", []⟩, ⟨"onOwnerRemovedFromScene", "", []⟩]⟩

/-- What the author does on destruction is lost. -/
theorem lantern_members_meet : ¬(members lantern).Nodup := by
  have condition := (members_nodup_iff (.blank "Village") "Lights" "kiln.lights" lantern .empty true
    (by decide) (by decide +kernel)).2.2
  exact fun distinct => (condition.mp distinct).2.1 (by decide)

end BehaviorModule

end GameBundle
