import TypeScriptBuild.Condition
import TypeScriptBuild.Node
import TypeScriptBuild.Setting.Assignment

/-!
# Projects

What a project file says: the properties that its groups give for a selection, the files that it
imports and compiles, and the configurations and platforms that it knows.

* `Project.property`: the value of a property for a selection.
* `Project.settings`: the settings for a selection.
* `Project.ownDefault?`: the project's own default of a property.
* `Import`, `Project.imports`: the imports.
* `Import.bringsDefaults`, `Project.defaultsPath`: the path by which the project imports its
  defaults file.
* `Project.compileFiles`: the files to compile.
* `DeclaredTargets`: the two lists.
* `DeclaredTargets.bind`: the lists after one more binding.
* `Project.declaredTargets`: the lists of a project.
-/

namespace TypeScriptBuild

open Text

/-!
## Properties

A project gives its properties in property groups, each of which may stand under a condition. For a
selection the groups are gone through in document order, and the last one that applies and gives a
property decides, whether it has a condition or not.

A project also gives defaults of its own, by elements under the condition that their property is
still unset; of these the first one counts.
-/

/-- A project is its `Project` element. -/
abbrev Project := Node

namespace Project

/-- The property groups of a project, in document order. -/
def groups (p : Project) : List Node :=
  p.under "PropertyGroup"

/-- Whether a property group applies to a selection, as it does without a condition. -/
def applies (selection : Selection) (group : Node) : Bool :=
  match group.attribute? "Condition" with
  | some condition => selection.accepts condition
  | none => true

/-- The value of a property behind one more group, given its value in front of it. -/
def override (selection : Selection) (tag : String) (current : Option String) (group : Node) :
    Option String :=
  if applies selection group then (group.childText? tag).or current else current

/-- The value of a property for a selection, or the given value if no group that applies gives
one. -/
def property (p : Project) (tag : String) (selection : Selection) (otherwise : Option String) :
    Option String :=
  p.groups.foldl (override selection tag) otherwise

/-- The settings that a project gives for a selection. -/
def settings (p : Project) (selection : Selection) : Assignment :=
  ⟨fun s => (p.property s.tag selection none).map .text⟩

/-- Whether an element stands under the condition that the property `name` is still unset. -/
def isGuarded (name : String) (element : Node) : Bool :=
  match (element.attribute? "Condition").map Comparison.read with
  | some (.ok comparison) => comparison.isUnsetCheck name
  | _ => false

/-- The project's own default of a property. Of each group only the first element of that name is
looked at. -/
def ownDefault? (p : Project) (name : String) : Option String :=
  ((p.groups.filterMap fun group => group.child? name).find? (isGuarded name)).map
    Node.textOrEmpty

/-- The project's own default of a property, or the empty text. -/
def ownDefault (p : Project) (name : String) : String :=
  (p.ownDefault? name).getD ""

end Project

/-!
## Imports and items

The files that a project refers to: those it imports and those it compiles, in document order.
-/

/-- An import of another project file. -/
structure Import where
  project : String
  condition : Option String
  deriving DecidableEq, Repr, Inhabited

/-- Whether what is imported is the defaults file that comes with the compiler. -/
def Import.bringsDefaults (i : Import) : Bool :=
  occursIn "Microsoft.TypeScript.Default.props" i.project

namespace Project

/-- The imports of a project. An element without any attribute imports nothing. -/
def imports (p : Project) : List Import :=
  (p.under "Import").filterMap fun element =>
    if element.attributes.isEmpty then none
    else some ⟨(element.attribute? "Project").getD "", element.attribute? "Condition"⟩

/-- The path by which a project imports its defaults file: the last one if there are several, and
empty if there is none. -/
def defaultsPath (p : Project) : String :=
  ((p.imports.reverse.find? Import.bringsDefaults).map (·.project)).getD ""

/-- The files that a project compiles, with slashes. -/
def compileFiles (p : Project) : List String :=
  (p.under "ItemGroup").flatMap fun group =>
    (group.under "TypeScriptCompile").filterMap fun item =>
      (item.attribute? "Include").map withSlashes

end Project

/-!
## Declared targets

The configurations and platforms that a project knows are those which the conditions of its
property groups bind. They are listed in the order in which they first occur.
-/

/-- Configurations and platforms. -/
structure DeclaredTargets where
  configurations : List String
  platforms : List String
  deriving DecidableEq, Repr, Inhabited

/-- A list with one more value, unless the value is empty or already there. -/
def DeclaredTargets.note (values : List String) (value : String) : List String :=
  if value = "" ∨ value ∈ values then values else values ++ [value]

/-- The lists after a variable is bound to a value; other variables than the two change nothing. -/
def DeclaredTargets.bind (t : DeclaredTargets) (binding : String × String) : DeclaredTargets :=
  if binding.1 = "Configuration" then
    { t with configurations := note t.configurations binding.2 }
  else if binding.1 = "Platform" then
    { t with platforms := note t.platforms binding.2 }
  else t

namespace Project

/-- What the condition of a property group binds, in order; nothing if it has none that binds. -/
def groupBindings (group : Node) : List (String × String) :=
  match (group.attribute? "Condition").map Comparison.read with
  | some (.ok comparison) => comparison.bindings?.getD []
  | _ => []

/-- The configurations and platforms that a project declares. -/
def declaredTargets (p : Project) : DeclaredTargets :=
  (p.groups.flatMap groupBindings).foldl DeclaredTargets.bind ⟨[], []⟩

end Project

end TypeScriptBuild
