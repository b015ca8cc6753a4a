import GameBundle.Events.Compiler
import GameBundle.Script.Identifier
import GameBundle.Template
import GameBundle.Text.Blank

/-!
# Inline code events

This compiler knows one kind of event: code written by the author, with the scripts
it needs. Events of other kinds give nothing themselves, but the events nested in
them are compiled in their place. A preview tells where each piece of code is from.
-/

namespace GameBundle.InlineEvents

/-- The author's code, ended by a line break. -/
def inlineCode (members : List (String × Json)) : String :=
  match (Json.object members).member? "inlineCode" with
  | some (.string code) => if code.endsWith "\n" then code else code ++ "\n"
  | _ => ""

def includeFiles (members : List (String × Json)) : List String :=
  match (Json.object members).member? "includeFiles" with
  | some (.array files) => files.filterMap Json.text?
  | _ => []

/-- The comment that a preview puts before a piece of code. -/
def originComment (origin : String) (forRuntime : Bool) : String :=
  if forRuntime then "" else "// Inline code from " ++ origin ++ "\n"

def isInlineCode (members : List (String × Json)) : Bool :=
  (Json.object members).member? "type" == some (.string "JsCode")

def contribution (origin : String) (forRuntime : Bool) : Json → ScriptCode
  | .object members =>
    if isInlineCode members then
      ⟨originComment origin forRuntime ++ inlineCode members, includeFiles members⟩
    else .empty
  | _ => .empty

mutual

def addEvent (origin : String) (forRuntime : Bool) (compiled : ScriptCode) : Json → ScriptCode
  | .object members =>
    addNested origin forRuntime
      (compiled.append (contribution origin forRuntime (.object members))) members
  | _ => compiled

def addNested (origin : String) (forRuntime : Bool) (compiled : ScriptCode) :
    List (String × Json) → ScriptCode
  | [] => compiled
  | (key, .array events) :: rest =>
    if "events" = key then addEvents origin forRuntime compiled events
    else addNested origin forRuntime compiled rest
  | (key, _) :: rest =>
    if "events" = key then compiled else addNested origin forRuntime compiled rest

def addEvents (origin : String) (forRuntime : Bool) (compiled : ScriptCode) :
    List Json → ScriptCode
  | [] => compiled
  | event :: rest =>
    addEvents origin forRuntime (addEvent origin forRuntime compiled event) rest

end

def compile (origin : String) (forRuntime : Bool) (events : List Json) : ScriptCode :=
  addEvents origin forRuntime .empty events

open Template (placeholder)

def methodTemplate : String :=
  "\n" ++ placeholder "FUNCTION_CODE_NAMESPACE" ++ " = \x7b\x7d;\n\n" ++
  placeholder "FUNCTION_QUALIFIED_NAME" ++ " = function() \x7b\n" ++
  "var that = this;\n" ++
  "var runtimeScene = this._runtimeScene;\n" ++
  placeholder "EVENTS_CODE" ++ "\n\x7d;\n"

def layoutTemplate : String :=
  placeholder "LAYOUT_CODE_NAMESPACE" ++ " = \x7b\x7d;\n\n" ++
  placeholder "LAYOUT_CODE_NAMESPACE" ++ ".func = function(runtimeScene) \x7b\n" ++
  "runtimeScene.getOnceTriggers().startNewFrame();\n" ++
  placeholder "EVENTS_CODE" ++ "\nreturn;\n\x7d\n"

def trimmed (code : String) : String := String.ofList (Text.trimEnd code.toList)

def method (request : MethodRequest) : ScriptCode :=
  let body := compile request.function.name request.forRuntime request.function.events
  { code := Template.fill methodTemplate [
      (placeholder "FUNCTION_CODE_NAMESPACE", request.contextNamespace),
      (placeholder "FUNCTION_QUALIFIED_NAME", request.qualifiedName),
      (placeholder "EVENTS_CODE", trimmed body.code)]
    includes := body.includes }

def layout (layout : Layout) (forRuntime : Bool) : ScriptCode :=
  let body := compile layout.name forRuntime layout.events
  { code := Template.fill layoutTemplate [
      (placeholder "LAYOUT_CODE_NAMESPACE", Script.layoutNamespace layout.name),
      (placeholder "EVENTS_CODE", trimmed body.code)]
    includes := body.includes }

end GameBundle.InlineEvents

namespace GameBundle.EventsCompiler

def inline : EventsCompiler where
  method _ request := InlineEvents.method request
  layout _ scene forRuntime := InlineEvents.layout scene forRuntime

end GameBundle.EventsCompiler
