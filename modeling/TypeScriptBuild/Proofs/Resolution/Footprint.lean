import Mathlib.Data.List.Basic
import TypeScriptBuild.Proofs.Resolution.Stage

/-!
# What a resolution depends on

A resolution reads the project file, asks for one place of the defaults file after another until it
is told of one that exists, and reads that file. Of its surroundings nothing else counts: two
resolvers that agree on these questions (`Resolver.Alike`) answer a request alike, whatever lies in
the places behind the first that exists and in any other file.

* `Resolver.tried`, `Resolver.found?`: the places that are asked for and the one that is read;
  `Resolver.trace_eq` says that they are those of the trace.
* `Resolver.resolve_eq_of_alike`: what is not asked for does not count.
* `Resolver.DifferAt`: two resolvers between which one file was written, changed or deleted;
  `Resolver.alike_of_differAt` and `Resolver.alike_of_lookup` say which changes of the files and of
  the environment do not count.
* `Resolver.resolve_footprint`: these results together.
-/

namespace TypeScriptBuild

/-! ## The environment -/

namespace Environment

variable {env env' : Environment}

/-- Only the two variables that name it decide the directory of programs. -/
theorem programFiles_congr (h : ∀ name ∈ programFilesVariables, env'.lookup name = env.lookup name) :
    env'.programFiles = env.programFiles := by
  rw [programFiles, programFiles, List.filterMap_congr h]

theorem extensionsPath_congr (h : env'.programFiles = env.programFiles) :
    env'.extensionsPath = env.extensionsPath := by
  rw [extensionsPath, extensionsPath, h]

end Environment

namespace Resolver

variable {r r' : Resolver} {q : Request} {p : Project}

/-! ## What is asked for -/

/-- The places of the defaults file for a request, in order: that of the declared version and those
of the major versions. Without a project there is none. -/
def places (r : Resolver) (q : Request) : List String :=
  match r.readProject q with
  | .ok p => (r.choose q p).template.places (r.choose q p).vars r.bounds
  | .error _ => []

/-- The places that are asked for: those up to the first that exists. -/
def tried (r : Resolver) (q : Request) : List String :=
  untilFirst r.present (r.places q)

/-- The first place that exists. -/
def found? (r : Resolver) (q : Request) : Option String :=
  (r.places q).find? r.present

theorem places_of_readProject (h : r.readProject q = .ok p) :
    r.places q = (r.choose q p).template.places (r.choose q p).vars r.bounds := by
  rw [places, h]

theorem locateDefaults_choose_eq_ok_iff (h : r.readProject q = .ok p) {path : String} :
    r.locateDefaults (r.choose q p) = .ok path ↔ r.found? q = some path := by
  rw [locateDefaults_eq_ok_iff, ← places_of_readProject h, found?]

theorem mem_tried_of_found? {path : String} (h : r.found? q = some path) : path ∈ r.tried q :=
  mem_untilFirst_of_find? h

/-- **The trace** holds the places that are asked for, and the project file with the place that is
read. -/
theorem trace_eq (r : Resolver) (q : Request) :
    r.trace q = ⟨r.tried q, q.projectFile :: (r.found? q).toList⟩ := by
  rw [trace, tried, found?, places]
  cases hp : r.readProject q with
  | error e => rfl
  | ok p =>
    dsimp only
    rw [Template.probed_eq_untilFirst, locateDefaults, Template.locate_eq]
    cases ((r.choose q p).template.places (r.choose q p).vars r.bounds).find? r.present <;> rfl

/-! ## Resolvers that agree on it -/

/-- Two resolvers that answer what the first of them asks on the way to a request alike. -/
structure Alike (r r' : Resolver) (q : Request) : Prop where
  bounds : r'.bounds = r.bounds
  /-- The project file is the same. -/
  project : r'.read q.projectFile = r.read q.projectFile
  /-- The directory of extensions is given, or that of programs is the same. -/
  programs : (∃ value, q.extensionsPath = some value ∧ value ≠ "") ∨
    r'.environment.programFiles = r.environment.programFiles
  /-- The same of the places that are asked for exist. -/
  probes : ∀ path ∈ r.tried q, r.present path = r'.present path
  /-- The file that is found is the same. -/
  defaults : ∀ path, r.found? q = some path → r'.read path = r.read path

namespace Alike

theorem readProject_eq (h : Alike r r' q) : r'.readProject q = r.readProject q := by
  rw [readProject, readProject, h.project]

theorem choose_eq (h : Alike r r' q) (p : Project) : r'.choose q p = r.choose q p := by
  refine choose_congr rfl rfl rfl rfl ?_
  rcases h.programs with ⟨value, hvalue, hne⟩ | hprograms
  · rw [hvalue, supplied_some_of_ne hne, Option.getD_some, Option.getD_some]
  · rw [Environment.extensionsPath_congr hprograms]

theorem places_eq (h : Alike r r' q) : r'.places q = r.places q := by
  cases hp : r.readProject q with
  | error e => rw [places, places, h.readProject_eq, hp]
  | ok p =>
    have hp' : r'.readProject q = .ok p := h.readProject_eq.trans hp
    rw [places_of_readProject hp, places_of_readProject hp', h.choose_eq, h.bounds]

/-- The search ends in the same place, because it looks no further. -/
theorem found?_eq (h : Alike r r' q) : r'.found? q = r.found? q := by
  rw [found?, found?, h.places_eq, find?_congr_untilFirst h.probes]

theorem accepts_iff (h : Alike r r' q) (hp : r.readProject q = .ok p) (path : String)
    (defaults : Assignment) :
    r'.Accepts (r.choose q p) path defaults ↔ r.Accepts (r.choose q p) path defaults := by
  have hp' : r'.readProject q = .ok p := h.readProject_eq.trans hp
  have hlocate : r'.locateDefaults (r.choose q p) = .ok path ↔ r.found? q = some path := by
    rw [← h.choose_eq, locateDefaults_choose_eq_ok_iff hp', h.found?_eq]
  constructor
  · rintro ⟨hl, hgives⟩
    have hf := hlocate.1 hl
    rw [h.defaults path hf] at hgives
    exact ⟨(locateDefaults_choose_eq_ok_iff hp).2 hf, hgives⟩
  · rintro ⟨hl, hgives⟩
    have hf := (locateDefaults_choose_eq_ok_iff hp).1 hl
    rw [← h.defaults path hf] at hgives
    exact ⟨hlocate.2 hf, hgives⟩

end Alike

/-- **What is not asked for does not count**: resolvers that are alike resolve a request alike, into
the same report or the same error. -/
theorem resolve_eq_of_alike (h : Alike r r' q) : r'.resolve q = r.resolve q := by
  cases hp : r.readProject q with
  | error e =>
    have hp' : r'.readProject q = .error e := h.readProject_eq.trans hp
    rw [resolve_of_readProject_error hp, resolve_of_readProject_error hp']
  | ok p =>
    have hp' : r'.readProject q = .ok p := h.readProject_eq.trans hp
    have hreport : r'.report q p = r.report q p :=
      report_congr (h.choose_eq p) (toolDefaults_congr (h.accepts_iff hp))
    rw [resolve_of_readProject hp, resolve_of_readProject hp', hreport]

/-! ## Changes that do not count -/

/-- Two resolvers that differ in the file at a path and nowhere else. -/
structure DifferAt (r r' : Resolver) (path : String) : Prop where
  bounds : r'.bounds = r.bounds
  environment : r'.environment = r.environment
  read : ∀ other, other ≠ path → r'.read other = r.read other
  present : ∀ other, other ≠ path → r'.present other = r.present other

/-- A file that is neither the project file nor in a place that is asked for does not count. -/
theorem alike_of_differAt {path : String} (h : DifferAt r r' path) (hproject : path ≠ q.projectFile)
    (htried : path ∉ r.tried q) : Alike r r' q where
  bounds := h.bounds
  project := h.read q.projectFile (Ne.symm hproject)
  programs := by
    rw [h.environment]
    exact Or.inr rfl
  probes other hother := by
    have hne : other ≠ path := fun e => htried (e ▸ hother)
    exact (h.present other hne).symm
  defaults other hother := by
    have hne : other ≠ path := fun e => htried (e ▸ mem_tried_of_found? hother)
    exact h.read other hne

/-- A variable that does not name the directory of programs does not count. -/
theorem alike_of_lookup {env : Environment}
    (h : ∀ name ∈ Environment.programFilesVariables,
      env.lookup name = r.environment.lookup name) :
    Alike r { r with environment := env } q where
  bounds := rfl
  project := rfl
  programs := Or.inr (Environment.programFiles_congr h)
  probes _ _ := rfl
  defaults _ _ := rfl

end Resolver

namespace Session

/-- Stores that agree but for one path differ there at most, whatever is said to exist. -/
theorem differAt_withStore {s : Session} {store : Store} {path : String}
    (h : ∀ other, other ≠ path → store.lookup other = s.store.lookup other) :
    Resolver.DifferAt s.resolver (s.withStore store).resolver path where
  bounds := rfl
  environment := rfl
  read other hne := Store.read_congr (h other hne)
  present other hne := present_congr rfl (Store.holds_congr (h other hne))

theorem differAt_write (s : Session) (path : String) (content : Content) :
    Resolver.DifferAt s.resolver (s.withStore (s.store.write path content)).resolver path :=
  differAt_withStore fun _ hne => Dictionary.lookup_insert_of_ne hne content s.store

theorem differAt_delete (s : Session) (path : String) :
    Resolver.DifferAt s.resolver (s.withStore (s.store.delete path)).resolver path :=
  differAt_withStore fun _ hne => Store.lookup_delete_of_ne hne s.store

end Session

/-! ## What counts -/

namespace Resolver

/-- **A resolution depends on what it asks for**, which its trace holds. Two resolvers that answer
its questions alike resolve a request alike. So it changes nothing to write, change or delete a file
that is neither the project file nor in one of the places that are asked for, or to change a
variable of the environment that does not name the directory of programs. -/
theorem resolve_footprint (r : Resolver) (q : Request) :
    r.trace q = ⟨r.tried q, q.projectFile :: (r.found? q).toList⟩ ∧
    (∀ r', Alike r r' q → r'.resolve q = r.resolve q) ∧
    (∀ r' path, DifferAt r r' path → path ≠ q.projectFile → path ∉ r.tried q →
      r'.resolve q = r.resolve q) ∧
    (∀ s : Session, s.resolver = r → ∀ path, path ≠ q.projectFile → path ∉ r.tried q →
      (∀ content, (s.withStore (s.store.write path content)).resolver.resolve q = r.resolve q) ∧
        (s.withStore (s.store.delete path)).resolver.resolve q = r.resolve q) ∧
    ∀ env name, name ∉ Environment.programFilesVariables →
      (∀ other, other ≠ name → env.lookup other = r.environment.lookup other) →
      ({ r with environment := env } : Resolver).resolve q = r.resolve q := by
  have hdiffer : ∀ r' path, DifferAt r r' path → path ≠ q.projectFile → path ∉ r.tried q →
      r'.resolve q = r.resolve q := fun r' path h hproject htried =>
    resolve_eq_of_alike (alike_of_differAt h hproject htried)
  refine ⟨trace_eq r q, fun r' h => resolve_eq_of_alike h, hdiffer, ?_, fun env name hname h => ?_⟩
  · rintro s rfl path hproject htried
    exact ⟨fun content => hdiffer _ path (s.differAt_write path content) hproject htried,
      hdiffer _ path (s.differAt_delete path) hproject htried⟩
  · refine resolve_eq_of_alike (alike_of_lookup fun other hother => ?_)
    have hne : other ≠ name := fun e => hname (e ▸ hother)
    exact h other hne

/-- The place behind that of the defaults file in the trial. -/
def trialBehind : String := "/pf/MSBuild/v13.0/Microsoft.TypeScript.Default.props"

/-- In the trial a file behind the one that is found and a search path for programs do not count,
alone or together, and neither does it count if the file is deleted. -/
theorem resolve_footprint_trial :
    let r := trialSession.resolver
    let store := trialSession.store.write trialBehind (.blocked .permissionDenied)
    let env := Dictionary.insert "PATH" "/bin" trialSession.environment
    trialBehind ∈ r.places trialRequest ∧
      (r.trace trialRequest).reads = ["a.csproj", trialPlace] ∧
      ({ (trialSession.withStore store) with environment := env } : Session).resolver.resolve
        trialRequest = r.resolve trialRequest ∧
      (trialSession.withStore store).resolver.resolve trialRequest = r.resolve trialRequest ∧
      (trialSession.withStore (trialSession.store.delete trialBehind)).resolver.resolve
        trialRequest = r.resolve trialRequest ∧
      ({ r with environment := env } : Resolver).resolve trialRequest = r.resolve trialRequest := by
  intro r store env
  have hplaces : r.places trialRequest = trialPlaces :=
    (places_of_readProject readProject_trial).trans places_trial
  have hfound : r.found? trialRequest = some trialPlace := by
    rw [found?, hplaces]
    decide +kernel
  have htried : r.tried trialRequest = trialPlaces.take 3 := by
    rw [tried, hplaces]
    decide +kernel
  have hbehind : trialBehind ∉ r.tried trialRequest := by
    rw [htried]
    decide +kernel
  have hproject : trialBehind ≠ trialRequest.projectFile := by decide
  have hdiffer : DifferAt r (trialSession.withStore store).resolver trialBehind :=
    Session.differAt_write trialSession trialBehind (.blocked .permissionDenied)
  obtain ⟨htrace, halike, hdifferent, hstore, henvironment⟩ := resolve_footprint r trialRequest
  refine ⟨?_, ?_, ?_, hdifferent _ trialBehind hdiffer hproject hbehind,
    (hstore trialSession rfl trialBehind hproject hbehind).2, ?_⟩
  · rw [hplaces]
    decide +kernel
  · rw [htrace, hfound]
    rfl
  · refine halike _ ⟨rfl, rfl, Or.inr (by decide), ?_, ?_⟩
    · rw [htried]
      decide +kernel
    · intro path hpath
      cases hfound.symm.trans hpath
      rfl
  · exact henvironment env "PATH" (by decide)
      fun other hne => Dictionary.lookup_insert_of_ne hne "/bin" trialSession.environment

end Resolver

end TypeScriptBuild
