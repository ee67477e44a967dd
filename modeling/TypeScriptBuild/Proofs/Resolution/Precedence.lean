import TypeScriptBuild.Proofs.Resolution.Stage
import TypeScriptBuild.Proofs.Setting

/-!
# Which value of a setting counts

Three sources may give a setting: the project, by the last of its groups that applies and has the
element; the first group of the defaults file, where one is found, can be read and has a group;
and the table for the version of the compiler. The last two give only the settings that have a
default. `Resolver.sources` lists what they give, the strongest first, and
`Resolver.value_standsFor_first_source` says that the compiler setting of a report is the right
value for the first that gives anything, however the stages in between hold it.
-/

namespace TypeScriptBuild

namespace Resolver

variable {r : Resolver} {c : Choices}

/-- The group of the defaults file that counts, if a file is found, can be read, and has one. -/
def defaultsGroup? (r : Resolver) (c : Choices) : Option Node :=
  match r.locateDefaults c with
  | .error _ => none
  | .ok path =>
    match r.read path with
    | .error _ => none
    | .ok file => Defaults.group? file

/-- What may decide a setting, the strongest first: the text of the project, that of the defaults
file, and the value of the table. An element without text gives the empty text, which counts. -/
def sources (r : Resolver) (c : Choices) (p : Project) (s : Setting) : List (Option Value) :=
  (p.given? c.selection s.tag).map .text ::
    if s ∈ Defaults.settings then
      [((r.defaultsGroup? c).bind fun group => group.childText? s.tag).map .text,
        some (Defaults.baselineValue c.version s)]
    else []

theorem defaultsGroup?_eq_some_iff {group : Node} :
    r.defaultsGroup? c = some group ↔ ∃ path file, r.locateDefaults c = .ok path ∧
      r.read path = .ok file ∧ Defaults.group? file = some group := by
  rw [defaultsGroup?]
  cases hl : r.locateDefaults c with
  | error e => simp
  | ok path => cases hr : r.read path <;> simp [hr]

/-- The defaults are those of the group, or the table if there is none. -/
theorem toolDefaults_fst (r : Resolver) (c : Choices) :
    (r.toolDefaults c).1 =
      match r.defaultsGroup? c with
      | some group => Defaults.ofGroup group c.version
      | none => Defaults.baseline c.version := by
  cases hg : r.defaultsGroup? c with
  | some group =>
    obtain ⟨path, file, hl, hr, hf⟩ := defaultsGroup?_eq_some_iff.1 hg
    have ha : r.Accepts c path (Defaults.ofGroup group c.version) :=
      ⟨hl, file, hr, Defaults.ofFile_eq_ok_iff.2 ⟨group, hf, rfl⟩⟩
    rw [toolDefaults_of_accepts ha]
  | none =>
    have hn : ∀ path defaults, ¬ r.Accepts c path defaults := by
      rintro path defaults ⟨hl, file, hr, hd⟩
      obtain ⟨group, hf, -⟩ := Defaults.ofFile_eq_ok_iff.1 hd
      have := defaultsGroup?_eq_some_iff.2 ⟨path, file, hl, hr, hf⟩
      rw [hg] at this
      cases this
    rw [toolDefaults_of_not_accepts hn]

/-- What the defaults hold for a setting that has one. -/
theorem value?_toolDefaults {s : Setting} (hs : s ∈ Defaults.settings) :
    (r.toolDefaults c).1.value? s =
      (((r.defaultsGroup? c).bind fun group => group.childText? s.tag).map (Defaults.given s)).or
        (some (Defaults.baselineValue c.version s)) := by
  rw [toolDefaults_fst]
  cases r.defaultsGroup? c with
  | none => exact Defaults.value?_baseline c.version hs
  | some group =>
    rw [Option.bind_some, ← Defaults.value?_baseline c.version hs]
    exact Defaults.value?_ofGroup group c.version hs

theorem value?_toolDefaults_of_not_mem {s : Setting} (hs : s ∉ Defaults.settings) :
    (r.toolDefaults c).1.value? s = none := by
  rw [toolDefaults_fst]
  cases r.defaultsGroup? c with
  | none => exact Defaults.value?_baseline_of_not_mem c.version hs
  | some group => exact Defaults.value?_ofGroup_of_not_mem group c.version hs

/-- The value that counts in a merge is right exactly if it is right for the first source. The two
differ only in a flag of the defaults file, which is a truth value in the one and a text in the
other. -/
theorem standsFor_first_source_iff (p : Project) (s : Setting) (x : s.kind.Carrier) :
    s.kind.StandsFor x (((p.settings c.selection).value? s).or ((r.toolDefaults c).1.value? s)) ↔
      s.kind.StandsFor x ((r.sources c p s).findSome? id) := by
  rw [Project.value?_settings, sources]
  cases p.given? c.selection s.tag with
  | some text => exact Iff.rfl
  | none =>
    by_cases hs : s ∈ Defaults.settings
    · rw [value?_toolDefaults hs, if_pos hs]
      cases (r.defaultsGroup? c).bind fun group => group.childText? s.tag with
      | none => exact Iff.rfl
      | some text => exact Defaults.standsFor_given s text x
    · rw [value?_toolDefaults_of_not_mem hs, if_neg hs]
      exact Iff.rfl

/-- **The first source that gives a setting decides it.** The selection is what is asked for or
else the project's own default, and the version is what is asked for or else the project's property,
normalized. -/
theorem value_standsFor_first_source (r : Resolver) (q : Request) (report : Report)
    (h : r.resolve q = .ok report) :
    ∃ (file : Node) (p : Project) (c : Choices),
      r.read q.projectFile = .ok file ∧ file.child? "Project" = some p ∧ c = r.choose q p ∧
      c.selection.configuration =
        (supplied q.configuration).getD (p.ownDefault "Configuration") ∧
      c.selection.platform = (supplied q.platform).getD (p.ownDefault "Platform") ∧
      c.version = Version.normalize
        ((supplied q.typeScriptVersion).or (p.given? c.selection "TypeScriptToolsVersion")) ∧
      ∀ s : Setting,
        s.kind.StandsFor (report.compiler.value s) ((r.sources c p s).findSome? id) := by
  obtain ⟨p, hp, rfl⟩ := resolve_eq_ok_iff.1 h
  obtain ⟨file, hread, hroot⟩ := readProject_eq_ok_iff.1 hp
  refine ⟨file, p, r.choose q p, hread, hroot, rfl, rfl, rfl, ?_, fun s => ?_⟩
  · have hv : p.property "TypeScriptToolsVersion" (r.choose q p).selection none =
        p.given? (r.choose q p).selection "TypeScriptToolsVersion" := by
      rw [Project.property_eq, Option.or_none]
    rw [← hv]
    rfl
  · rw [compiler_report]
    exact (standsFor_first_source_iff p s _).1 (CompilerSettings.standsFor_merge _ _ s)

/-- What decides some settings on the trial: the project's texts, one of them empty and one against
the defaults file; the file's, a text and a flag; the table's value; and nothing. -/
def trialSources : List (Setting × Option Value) :=
  [(.outDir, some (.text "bin\\js")), (.moduleKind, some (.text "")),
    (.sourceMap, some (.text "True")), (.target, some (.text "ES6")),
    (.noEmitOnError, some (.text "TRUE")), (.removeComments, some (.flag false)), (.noLib, none)]

/-- A request that names a configuration, a version of the compiler and a directory of
extensions. -/
def chosenRequest : Request where
  projectFile := "a.csproj"
  configuration := some "Release"
  typeScriptVersion := some "v1.8"
  extensionsPath := some "/ext/"

/-- The trial with another defaults file in that directory. -/
def chosenSession : Session :=
  let group := ({} : Node).push "TypeScriptModuleKind" (textNode "system")
  let file := ({} : Node).push "Project" (({} : Node).push "PropertyGroup" group)
  { trialSession with
    store := trialSession.store.write "/ext/v14.0/Microsoft.TypeScript.Default.props" (.parsed file) }

/-- What decides some settings there: the project's text; the table's value, where the group for
another configuration is silent; the file's text; the value for the version that is named; and
nothing. -/
def chosenSources : List (Setting × Option Value) :=
  [(.outDir, some (.text "bin\\js")), (.sourceMap, some (.flag false)),
    (.moduleKind, some (.text "system")), (.target, some (.text "ES5")), (.noLib, none)]

/-- A request that leaves everything open, and one that settles what it can. -/
theorem value_standsFor_first_source_trial :
    (∃ report, trialSession.resolver.resolve trialRequest = .ok report ∧
      ∀ e ∈ trialSources, e.1.kind.StandsFor (report.compiler.value e.1) e.2) ∧
    ∃ report, chosenSession.resolver.resolve chosenRequest = .ok report ∧
      ∀ e ∈ chosenSources, e.1.kind.StandsFor (report.compiler.value e.1) e.2 := by
  have decided : ∀ (r : Resolver) (q : Request) (decisions : List (Setting × Option Value)),
      r.readProject q = .ok trialProject →
      (∀ e ∈ decisions, (r.sources (r.choose q trialProject) trialProject e.1).findSome? id = e.2) →
      ∃ report, r.resolve q = .ok report ∧
        ∀ e ∈ decisions, e.1.kind.StandsFor (report.compiler.value e.1) e.2 := by
    intro r q decisions hproject hsources
    have hok := resolve_of_readProject hproject
    refine ⟨_, hok, fun e he => ?_⟩
    obtain ⟨file, p, c, hread, hroot, rfl, -, -, -, hs⟩ := value_standsFor_first_source r q _ hok
    obtain rfl : trialProject = p :=
      Except.ok.inj (hproject.symm.trans (readProject_eq_ok_iff.2 ⟨file, hread, hroot⟩))
    rw [← hsources e he]
    exact hs e.1
  exact ⟨decided _ _ _ readProject_trial (by decide +kernel),
    decided _ _ _ rfl (by decide +kernel)⟩

end Resolver

end TypeScriptBuild
