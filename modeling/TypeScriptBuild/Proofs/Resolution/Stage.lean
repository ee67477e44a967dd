import TypeScriptBuild.Proofs.Project.LastGroup
import TypeScriptBuild.Proofs.Search.FirstPlace
import TypeScriptBuild.Resolution.Session

/-!
# The stages of a resolution

A resolution reads the project file, settles its choices, looks for a defaults file, reads it, and
puts the report together. Each stage has one statement here that says all it does; the results on
whole resolutions are put together from these.

* `Resolver.readProject_eq_ok_iff`, `Resolver.resolve_eq_ok_iff`: when there is a report.
* `Resolver.Accepts`: the defaults file at a path is found, can be read, and gives defaults;
  `Resolver.fileDefaults_eq_ok_iff` says that the search for defaults succeeds with it and only
  with it.
* `Resolver.choose_congr`, `Resolver.toolDefaults_congr`, `Resolver.report_congr`: beside its
  request and its project, a report depends on the choices and on the defaults alone, and these on
  five values and on the file that is accepted.
* `trialSession`, `trialRequest`: a small resolution on which statements are tried.
-/

namespace TypeScriptBuild

theorem supplied_some_of_ne {value : String} (h : value ≠ "") :
    supplied (some value) = some value := by
  simp [supplied, h]

namespace Resolver

variable {r : Resolver} {q : Request} {p : Project} {c : Choices}

/-! ## The project file -/

theorem readProject_eq_ok_iff :
    r.readProject q = .ok p ↔
      ∃ file, r.read q.projectFile = .ok file ∧ file.child? "Project" = some p := by
  rw [readProject]
  cases hr : r.read q.projectFile with
  | error e => cases e <;> simp
  | ok file => cases hc : file.child? "Project" <;> simp [hc]

theorem resolve_of_readProject (h : r.readProject q = .ok p) : r.resolve q = .ok (r.report q p) := by
  rw [resolve, h]
  rfl

theorem resolve_of_readProject_error {e : Error} (h : r.readProject q = .error e) :
    r.resolve q = .error e := by
  rw [resolve, h]
  rfl

theorem resolve_eq_ok_iff {report : Report} :
    r.resolve q = .ok report ↔ ∃ p, r.readProject q = .ok p ∧ report = r.report q p := by
  cases h : r.readProject q with
  | error e => simp [resolve_of_readProject_error h]
  | ok p => simp [resolve_of_readProject h, eq_comm]

theorem resolve_eq_error_iff {e : Error} :
    r.resolve q = .error e ↔ r.readProject q = .error e := by
  cases h : r.readProject q with
  | error e => simp [resolve_of_readProject_error h]
  | ok p => simp [resolve_of_readProject h]

/-! ## The choices -/

attribute [ext] Selection Variables Choices

/-- Beside the template, which is the project's, there are five choices to settle. -/
theorem choose_congr {r' : Resolver} {q' : Request}
    (hconfiguration : (supplied q'.configuration).getD (p.ownDefault "Configuration") =
      (supplied q.configuration).getD (p.ownDefault "Configuration"))
    (hplatform : (supplied q'.platform).getD (p.ownDefault "Platform") =
      (supplied q.platform).getD (p.ownDefault "Platform"))
    (hversion : (r'.choose q' p).version = (r.choose q p).version)
    (hstudio : (supplied q'.visualStudioVersion).getD (p.ownDefault "VisualStudioVersion") =
      (supplied q.visualStudioVersion).getD (p.ownDefault "VisualStudioVersion"))
    (hextensions : (supplied q'.extensionsPath).getD r'.environment.extensionsPath =
      (supplied q.extensionsPath).getD r.environment.extensionsPath) :
    r'.choose q' p = r.choose q p :=
  Choices.ext (Selection.ext hconfiguration hplatform) hversion rfl
    (Variables.ext hstudio hextensions)

/-! ## The defaults file -/

theorem locateDefaults_eq_ok_iff {path : String} :
    r.locateDefaults c = .ok path ↔
      (c.template.places c.vars r.bounds).find? r.present = some path :=
  Template.locate_eq_ok_iff c.template c.vars r.bounds r.present

theorem locateDefaults_of_places {places : List String} {path : String}
    (h : c.template.places c.vars r.bounds = places) (hf : places.find? r.present = some path) :
    r.locateDefaults c = .ok path := by
  rw [locateDefaults_eq_ok_iff, h, hf]

/-- The file at a path is where the search ends, can be read, and gives these defaults. -/
structure Accepts (r : Resolver) (c : Choices) (path : String) (defaults : Assignment) : Prop where
  located : r.locateDefaults c = .ok path
  gives : ∃ file, r.read path = .ok file ∧ Defaults.ofFile file path c.version = .ok defaults

theorem fileDefaults_eq_ok_iff {defaults : Assignment} {path : String} :
    r.fileDefaults c (r.locateDefaults c) = .ok (defaults, path) ↔
      r.Accepts c path defaults := by
  rw [fileDefaults]
  constructor
  · intro h
    obtain ⟨found, hl, h⟩ := bind_eq_ok_iff.1 h
    obtain ⟨file, hr, h⟩ := bind_eq_ok_iff.1 h
    obtain ⟨a, hd, h⟩ := bind_eq_ok_iff.1 h
    cases h
    exact ⟨hl, file, hr, hd⟩
  · rintro ⟨hl, file, hr, hd⟩
    refine bind_eq_ok_iff.2 ⟨path, hl, bind_eq_ok_iff.2 ⟨file, hr, ?_⟩⟩
    exact bind_eq_ok_iff.2 ⟨defaults, hd, rfl⟩

theorem toolDefaults_of_accepts {path : String} {defaults : Assignment}
    (h : r.Accepts c path defaults) : r.toolDefaults c = (defaults, some path) := by
  rw [toolDefaults, defaultsAfter, fileDefaults_eq_ok_iff.2 h]

/-- Without a file that is accepted, whatever the reason, the table stands in. -/
theorem toolDefaults_of_not_accepts (h : ∀ path defaults, ¬ r.Accepts c path defaults) :
    r.toolDefaults c = (Defaults.baseline c.version, none) := by
  rw [toolDefaults, defaultsAfter]
  cases hf : r.fileDefaults c (r.locateDefaults c) with
  | error e => rfl
  | ok found => exact absurd (fileDefaults_eq_ok_iff.1 hf) (h found.2 found.1)

/-- A file is named exactly if it is accepted. -/
theorem toolDefaults_snd_eq_some_iff {path : String} :
    (r.toolDefaults c).2 = some path ↔ ∃ defaults, r.Accepts c path defaults := by
  constructor
  · intro h
    rw [toolDefaults, defaultsAfter] at h
    cases hf : r.fileDefaults c (r.locateDefaults c) with
    | error e =>
      rw [hf] at h
      cases h
    | ok found =>
      rw [hf] at h
      cases h
      exact ⟨found.1, fileDefaults_eq_ok_iff.1 hf⟩
  · rintro ⟨defaults, ha⟩
    rw [toolDefaults_of_accepts ha]

/-- What is accepted decides the defaults. -/
theorem toolDefaults_congr {r' : Resolver}
    (h : ∀ path defaults, r'.Accepts c path defaults ↔ r.Accepts c path defaults) :
    r'.toolDefaults c = r.toolDefaults c := by
  by_cases ha : ∃ path defaults, r.Accepts c path defaults
  · obtain ⟨path, defaults, ha⟩ := ha
    rw [toolDefaults_of_accepts ha, toolDefaults_of_accepts ((h path defaults).2 ha)]
  · have hn : ∀ path defaults, ¬ r.Accepts c path defaults :=
      fun path defaults hp => ha ⟨path, defaults, hp⟩
    rw [toolDefaults_of_not_accepts hn,
      toolDefaults_of_not_accepts fun path defaults hp => hn path defaults ((h path defaults).1 hp)]

/-! ## The report -/

theorem defaults_report (r : Resolver) (q : Request) (p : Project) :
    (r.report q p).details.defaults = (r.toolDefaults (r.choose q p)).1 :=
  rfl

theorem foundDefaults_report (r : Resolver) (q : Request) (p : Project) :
    (r.report q p).details.foundDefaults = (r.toolDefaults (r.choose q p)).2 :=
  rfl

theorem compiler_report (r : Resolver) (q : Request) (p : Project) :
    (r.report q p).compiler =
      .merge (p.settings (r.choose q p).selection) (r.toolDefaults (r.choose q p)).1 :=
  rfl

/-- A report depends on the choices and on the defaults alone. -/
theorem report_congr {r' : Resolver} (hc : r'.choose q p = r.choose q p)
    (hd : r'.toolDefaults (r.choose q p) = r.toolDefaults (r.choose q p)) :
    r'.report q p = r.report q p := by
  rw [report, report, hc, hd, reportWith, reportWith, hc]

end Resolver

/-! ## A trial -/

/-- An element that holds a text. -/
def textNode (text : String) : Node := ({} : Node).setText text

/-- A project with a default configuration of its own, a group for that configuration, an empty
setting, and an import of a defaults file. -/
def trialProject : Node :=
  let own := (textNode "Debug").setAttribute "Condition" "'$(Configuration)' == ''"
  let always := ((({} : Node).push "Configuration" own).push "TypeScriptToolsVersion"
    (textNode "1.4")).push "TypeScriptOutDir" (textNode "bin\\js")
  let debug := ((({} : Node).setAttribute "Condition" " '$(Configuration)' == 'Debug' ").push
    "TypeScriptSourceMap" (textNode "True")).push "TypeScriptModuleKind" {}
  let brought := ({} : Node).setAttribute "Project"
    "$(MSBuildExtensionsPath32)v$(VisualStudioVersion)/Microsoft.TypeScript.Default.props"
  ((({} : Node).push "Import" brought).push "PropertyGroup" always).push "PropertyGroup" debug

/-- A defaults file, by which nothing is put out on errors. -/
def trialDefaults : Node :=
  ({} : Node).push "PropertyGroup" ((((({} : Node).push "TypeScriptTarget" (textNode "ES6")).push
    "TypeScriptSourceMap" (textNode "false")).push "TypeScriptNoEmitOnError" (textNode "TRUE")).push
    "TypeScriptModuleKind" (textNode "amd"))

/-- The place of the defaults file, which only the search through the major versions finds. -/
def trialPlace : String := "/pf/MSBuild/v14.0/Microsoft.TypeScript.Default.props"

/-- The two files and a directory of programs. -/
def trialSession : Session where
  store := [(trialPlace, .parsed (({} : Node).push "Project" trialDefaults)),
    ("a.csproj", .parsed (({} : Node).push "Project" trialProject))]
  environment := [("ProgramFiles", "/pf")]
  bounds := { year := 2010 }

/-- A request that leaves everything open. -/
def trialRequest : Request where
  projectFile := "a.csproj"

theorem readProject_trial : trialSession.resolver.readProject trialRequest = .ok trialProject := by
  rfl

/-- Where the defaults file may be: no version is declared, and there are six major ones. -/
def trialPlaces : List String :=
  ["", "15.0", "14.0", "13.0", "12.0", "11.0", "10.0"].map fun version =>
    "/pf/MSBuild/v" ++ version ++ "/Microsoft.TypeScript.Default.props"

theorem places_trial :
    let c := trialSession.resolver.choose trialRequest trialProject
    c.template.places c.vars trialSession.bounds = trialPlaces := by
  decide +kernel

end TypeScriptBuild
