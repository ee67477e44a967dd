import TypeScriptBuild.Defaults
import TypeScriptBuild.Files.Store
import TypeScriptBuild.Resolution.Report
import TypeScriptBuild.Search
import TypeScriptBuild.Version

/-!
# Resolution

From a request to the settings of a project. The project file is read; what the request leaves open
is settled by the project's own defaults and by the environment; the defaults file is looked for and
read; and what the project gives for the selection is completed from the defaults. Only the project
file has to be there: without a defaults file that can be used, the table of defaults stands in.

* `Environment`: variables and their values.
* `Environment.programFiles`: the directory of programs.
* `Environment.extensionsPath`: the directory of extensions in it.
* `Request`: what is asked for.
* `Resolver`: what a resolution may ask of its surroundings.
* `Choices`, `Resolver.choose`: what is settled before the search for the defaults file.
* `Resolver.toolDefaults`: the defaults and the file they are from.
* `Resolver.resolve`: the report on a request; `Resolver.resolveChecked`: the same where arithmetic
  is checked.
* `Resolver.trace`: the paths that are looked at on the way.
-/

namespace TypeScriptBuild

/-!
## The environment

Build extensions are installed in the directory of 32-bit programs, which the environment names.
-/

/-- Environment variables and their values. -/
abbrev Environment := List (String × String)

namespace Environment

/-- The variables that name the directory of programs, the preferred one first. -/
def programFilesVariables : List String :=
  ["ProgramFiles(x86)", "ProgramFiles"]

/-- The directory of programs: the first of its variables that is not empty, or nothing. -/
def programFiles (env : Environment) : String :=
  ((programFilesVariables.filterMap fun name => env.lookup name).find? (· ≠ "")).getD ""

/-- The path `name` in the directory `root`, between which there is one slash. -/
def join (root name : String) : String :=
  if root.toList.getLast? = some '/' then root ++ name else root ++ "/" ++ name

/-- The directory of extensions, with a slash behind it; without a directory of programs it is in
the root directory. -/
def extensionsPath (env : Environment) : String :=
  let root := env.programFiles
  join (if root = "" then "/" else root) "MSBuild" ++ "/"

/-- The environment with more variables, which replace those of the same names. -/
def extend (env : Environment) (vars : List (String × String)) : Environment :=
  vars.foldl (fun env v => Dictionary.insert v.1 v.2 env) env

end Environment

/-! ## Requests and their answers -/

/-- What is asked for: a project file, and choices that override those of the project. An empty
choice is none. -/
structure Request where
  projectFile : String
  configuration : Option String := none
  platform : Option String := none
  typeScriptVersion : Option String := none
  visualStudioVersion : Option String := none
  extensionsPath : Option String := none
  deriving DecidableEq, Repr, Inhabited

/-- A choice, unless it is empty. -/
def supplied (choice : Option String) : Option String :=
  choice.filter (· ≠ "")

/-- What a resolution may ask of its surroundings. -/
structure Resolver where
  read : Reader
  present : Probe
  environment : Environment := []
  bounds : Bounds := {}

/-- What a request and a project settle: the selection, the compiler's version, and where to look
for the defaults file. -/
structure Choices where
  selection : Selection
  version : Version
  template : Template
  vars : Variables
  deriving DecidableEq, Repr

/-- The paths that a resolution looks at: those whose existence it asks for and those it reads,
each in order. -/
structure Trace where
  probed : List String
  reads : List String
  deriving DecidableEq, Repr

namespace Resolver

/-- The project of a request. -/
def readProject (r : Resolver) (q : Request) : Except Error Project :=
  match r.read q.projectFile with
  | .error (.io path cause) => .error (.projectNotFound path cause)
  | .error e => .error e
  | .ok file =>
    match file.child? "Project" with
    | none => .error (.projectMalformed q.projectFile .noProject)
    | some project => .ok project

/-- What a request settles for a project. -/
def choose (r : Resolver) (q : Request) (p : Project) : Choices :=
  let selection : Selection :=
    { configuration := (supplied q.configuration).getD (p.ownDefault "Configuration")
      platform := (supplied q.platform).getD (p.ownDefault "Platform") }
  { selection
    version := Version.normalize <|
      (supplied q.typeScriptVersion).or (p.property "TypeScriptToolsVersion" selection none)
    template := ⟨p.defaultsPath⟩
    vars :=
      { visualStudioVersion :=
          (supplied q.visualStudioVersion).getD (p.ownDefault "VisualStudioVersion")
        extensionsPath := (supplied q.extensionsPath).getD r.environment.extensionsPath } }

/-- The defaults file that is found. -/
def locateDefaults (r : Resolver) (c : Choices) : Except Error String :=
  c.template.locate c.vars r.bounds r.present

/-- The defaults out of the defaults file that a search has found, with its path. -/
def fileDefaults (r : Resolver) (c : Choices) (located : Except Error String) :
    Except Error (Assignment × String) := do
  let path ← located
  let file ← r.read path
  let defaults ← Defaults.ofFile file path c.version
  return (defaults, path)

/-- The defaults after a search, with the path of the file they are from if they are from one. -/
def defaultsAfter (r : Resolver) (c : Choices) (located : Except Error String) :
    Assignment × Option String :=
  match r.fileDefaults c located with
  | .ok (defaults, path) => (defaults, some path)
  | .error _ => (Defaults.baseline c.version, none)

/-- The defaults, with the path of the file they are from if they are from one. -/
def toolDefaults (r : Resolver) (c : Choices) : Assignment × Option String :=
  r.defaultsAfter c (r.locateDefaults c)

/-- The report on a request, given its project and the defaults. -/
def reportWith (r : Resolver) (q : Request) (p : Project) (tool : Assignment × Option String) :
    Report :=
  let c := r.choose q p
  let (defaults, found) := tool
  { details :=
      { defaultConfiguration := p.ownDefault "Configuration"
        defaultPlatform := p.ownDefault "Platform"
        defaultVisualStudioVersion := p.ownDefault "VisualStudioVersion"
        defaultsPath := c.template.raw
        foundDefaults := found
        activeConfiguration := q.configuration
        activePlatform := q.platform
        extensionsPath := c.vars.extensionsPath
        projectFile := q.projectFile
        visualStudioVersion := q.visualStudioVersion
        typeScriptVersion := c.version.toText
        imports := p.imports
        declared := p.declaredTargets
        defaults := defaults }
    files := p.compileFiles
    compiler := .merge (p.settings c.selection) defaults }

/-- The report on a request, given its project. -/
def report (r : Resolver) (q : Request) (p : Project) : Report :=
  r.reportWith q p (r.toolDefaults (r.choose q p))

/-- The report on a request, or why there is none. -/
def resolve (r : Resolver) (q : Request) : Except Error Report :=
  (r.readProject q).map (r.report q)

/-- The report on a request, or why there is none, where arithmetic is checked: there is no answer
if the search for the defaults file stops without one. -/
def resolveChecked (r : Resolver) (q : Request) : Option (Except Error Report) :=
  match r.readProject q with
  | .error e => some (.error e)
  | .ok p =>
    let c := r.choose q p
    (c.template.locateChecked c.vars r.bounds r.present).map fun located =>
      .ok (r.reportWith q p (r.defaultsAfter c located))

/-- The paths that are looked at on the way to the report. -/
def trace (r : Resolver) (q : Request) : Trace :=
  match r.readProject q with
  | .error _ => ⟨[], [q.projectFile]⟩
  | .ok p =>
    let c := r.choose q p
    { probed := c.template.probed c.vars r.bounds r.present
      reads := q.projectFile :: match r.locateDefaults c with
        | .ok path => [path]
        | .error _ => [] }

end Resolver

end TypeScriptBuild
