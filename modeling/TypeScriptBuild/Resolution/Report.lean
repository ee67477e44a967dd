import TypeScriptBuild.Project
import TypeScriptBuild.Setting.Compiler

/-!
# Reports

What a resolution answers: the compiler settings, the files to compile, and details of the project
and of how the settings came about. A report is handed on as a JSON value.

* `Json`: the values.
* `Json.quoted`: a string between quotes.
* `Json.compact`: the text of a value.
* `Details`, `Report`: the answer.
* `Value.toJson`, `Assignment.toJson`, `CompilerSettings.fields`, `Report.toJson`: its JSON value.
-/

namespace TypeScriptBuild

/-!
## JSON values

The values in which results are handed on, and their compact text: no space between tokens, the
fields of an object in the order in which they are given, and in a string only the quote, the
backslash and the control characters escaped.
-/

/-- A JSON value. An object keeps its fields in order. -/
inductive Json where
  | null
  | bool (b : Bool)
  | number (n : Int)
  | text (s : String)
  | list (items : List Json)
  | object (fields : List (String × Json))
  deriving Inhabited

namespace Json

/-- A string if there is one, and `null` otherwise. -/
def ofText? : Option String → Json
  | none => .null
  | some s => .text s

/-- A list of strings. -/
def ofTexts (ss : List String) : Json :=
  .list (ss.map .text)

/-- What stands for a character inside a string. -/
def escaped (c : Char) : String :=
  match c with
  | '"' => "\\\""
  | '\\' => "\\\\"
  | '\n' => "\\n"
  | '\r' => "\\r"
  | '\t' => "\\t"
  | '\x08' => "\\b"
  | '\x0c' => "\\f"
  | c =>
    if c.toNat < 0x20 then
      "\\u00" ++ String.ofList [Nat.digitChar (c.toNat / 16), Nat.digitChar (c.toNat % 16)]
    else c.toString

/-- A string between quotes. -/
def quoted (s : String) : String :=
  s.foldl (fun written c => written ++ escaped c) "\"" ++ "\""

mutual

/-- The compact text of a value. -/
def compact : Json → String
  | .null => "null"
  | .bool b => if b then "true" else "false"
  | .number n => toString n
  | .text s => quoted s
  | .list items => "[" ++ ",".intercalate (compactItems items) ++ "]"
  | .object fields => "\x7b" ++ ",".intercalate (compactFields fields) ++ "\x7d"

/-- The compact texts of the items of a list. -/
def compactItems : List Json → List String
  | [] => []
  | v :: vs => compact v :: compactItems vs

/-- The compact texts of the fields of an object. -/
def compactFields : List (String × Json) → List String
  | [] => []
  | (name, v) :: fields => (quoted name ++ ":" ++ compact v) :: compactFields fields

end

end Json

/-! ## What a resolution answers -/

/-- Details of a project and of how its settings came about. -/
structure Details where
  /-- The project's own default configuration. -/
  defaultConfiguration : String
  /-- The project's own default platform. -/
  defaultPlatform : String
  /-- The project's own default version of Visual Studio. -/
  defaultVisualStudioVersion : String
  /-- The path by which the project imports its defaults file. -/
  defaultsPath : String
  /-- The defaults file that was read, if any. -/
  foundDefaults : Option String
  /-- The configuration that was asked for. -/
  activeConfiguration : Option String
  /-- The platform that was asked for. -/
  activePlatform : Option String
  extensionsPath : String
  projectFile : String
  /-- The version of Visual Studio that was asked for. -/
  visualStudioVersion : Option String
  typeScriptVersion : String
  imports : List Import
  declared : DeclaredTargets
  /-- The defaults by which unset settings were filled. -/
  defaults : Assignment
  deriving DecidableEq

/-- The answer of a resolution. -/
structure Report where
  details : Details
  files : List String
  compiler : CompilerSettings
  deriving DecidableEq

/-- A given value as a JSON value. -/
def Value.toJson : Value → Json
  | .text s => .text s
  | .flag b => .bool b

/-- The settings that are set, by name and in order. -/
def Assignment.toJson (a : Assignment) : Json :=
  .object (a.entries.map fun e => (e.1.name, e.2.toJson))

/-- Every setting by name, in order. -/
def CompilerSettings.fields (c : CompilerSettings) : List (String × Json) :=
  c.toAssignment.entries.map fun e => (e.1.name, e.2.toJson)

/-- An import as a JSON value; it has a condition only if one is given. -/
def Import.toJson (i : Import) : Json :=
  .object (("Project", .text i.project) ::
    (i.condition.map fun condition => ("Condition", Json.text condition)).toList)

/-- The lists of declared targets as fields. -/
def DeclaredTargets.fields (t : DeclaredTargets) : List (String × Json) :=
  [("Configurations", .ofTexts t.configurations), ("Platforms", .ofTexts t.platforms)]

/-- Details as a JSON value. -/
def Details.toJson (d : Details) : Json :=
  .object <|
    [("DefaultProjectConfiguration", .text d.defaultConfiguration),
      ("DefaultProjectPlatform", .text d.defaultPlatform),
      ("DefaultVisualStudioVersion", .text d.defaultVisualStudioVersion),
      ("TypeScriptDefaultPropsFilePath", .text d.defaultsPath),
      ("NormalizedTypeScriptDefaultPropsFilePath", .ofText? d.foundDefaults),
      ("ActiveConfiguration", .ofText? d.activeConfiguration),
      ("ActivePlatform", .ofText? d.activePlatform),
      ("MSBuildExtensionsPath32", .text d.extensionsPath),
      ("ProjectFileName", .text d.projectFile),
      ("VisualStudioVersion", .ofText? d.visualStudioVersion),
      ("TypeScriptVersion", .text d.typeScriptVersion),
      ("imports", .list (d.imports.map Import.toJson))] ++
    d.declared.fields ++
    [("TypeScriptDefaultConfiguration", d.defaults.toJson)]

/-- A report as a JSON value: the details, the files, and the settings behind them. -/
def Report.toJson (r : Report) : Json :=
  .object <|
    [("VSProjectDetails", r.details.toJson), ("files", .ofTexts r.files)] ++ r.compiler.fields

end TypeScriptBuild
