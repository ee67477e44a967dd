import TypeScriptBuild.Proofs.Resolution.Stage

/-!
# Which failures reach the caller

A resolution fails over its project file only. A defaults file is wanted but not needed: it may not
be imported, not be found, not be readable, or lack what a defaults file has, and each time the
report is the very one that is made where no file exists.

* `Resolver.Refuses`: the errors of a request, each with its reason.
* `Resolver.Misses`: the ways in which there is no defaults file to use, and
  `Resolver.misses_iff`: there is no other.
* `Resolver.Overruns`: the search needs a newest major version whose number does not fit;
  `Resolver.resolveChecked_eq_some_iff`: there checked arithmetic has no result, elsewhere the same.
* `Resolver.resolve_outcome`: the result of a request in each of the cases.
-/

namespace TypeScriptBuild

namespace Resolver

variable {r : Resolver} {q : Request} {p : Project} {c : Choices}

/-! ## The project file -/

/-- The errors with which a request is refused. -/
inductive Refuses (r : Resolver) (q : Request) : Error → Prop
  /-- The project file cannot be reached; path and cause are those of the reader. -/
  | notFound {path cause : String} (h : r.read q.projectFile = .error (.io path cause)) :
    Refuses r q (.projectNotFound path cause)
  /-- The reader has another objection, which is passed on. -/
  | objection {e : Error} (h : r.read q.projectFile = .error e)
    (hio : ∀ path cause, e ≠ .io path cause) : Refuses r q e
  /-- The file has no project. -/
  | noProject {file : Node} (h : r.read q.projectFile = .ok file)
    (hroot : file.child? "Project" = none) :
    Refuses r q (.projectMalformed q.projectFile .noProject)

theorem refuses_of_readProject {e : Error} (h : r.readProject q = .error e) : r.Refuses q e := by
  rw [readProject] at h
  cases hr : r.read q.projectFile with
  | ok file =>
    rw [hr] at h
    dsimp only at h
    cases hc : file.child? "Project" with
    | none =>
      rw [hc] at h
      cases h
      exact .noProject hr hc
    | some p =>
      rw [hc] at h
      cases h
  | error e' =>
    rw [hr] at h
    cases e' with
    | io path cause =>
      cases h
      exact .notFound hr
    | _ =>
      cases h
      exact .objection hr (fun _ _ => by simp)

theorem readProject_of_refuses {e : Error} (h : r.Refuses q e) : r.readProject q = .error e := by
  rw [readProject]
  cases h with
  | notFound h => rw [h]
  | objection h hio =>
    rw [h]
    cases e with
    | io path cause => exact absurd rfl (hio path cause)
    | _ => rfl
  | noProject h hroot =>
    rw [h]
    dsimp only
    rw [hroot]

/-- **A request is refused for its project file only.** -/
theorem resolve_eq_error_iff_refuses {e : Error} : r.resolve q = .error e ↔ r.Refuses q e :=
  resolve_eq_error_iff.trans ⟨refuses_of_readProject, readProject_of_refuses⟩

/-! ## The defaults file -/

/-- The ways in which there is no defaults file to use. -/
inductive Misses (r : Resolver) (c : Choices) : Prop
  /-- The project imports none. -/
  | notImported (h : c.template.isEmpty = true)
  /-- There is none in any of its places. -/
  | notFound (h : ∀ path ∈ c.template.places c.vars r.bounds, r.present path = false)
  /-- It cannot be read, as a file or as a document. -/
  | unreadable {path : String} {e : Error} (hl : r.locateDefaults c = .ok path)
    (hr : r.read path = .error e)
  /-- It has no project. -/
  | noProject {path : String} {file : Node} (hl : r.locateDefaults c = .ok path)
    (hr : r.read path = .ok file) (hp : file.child? "Project" = none)
  /-- Its project has no property group. -/
  | noGroup {path : String} {file project : Node} (hl : r.locateDefaults c = .ok path)
    (hr : r.read path = .ok file) (hp : file.child? "Project" = some project)
    (hg : project.child? "PropertyGroup" = none)

/-- What is missed is not accepted. -/
theorem Misses.not_accepts (h : r.Misses c) (path : String) (defaults : Assignment) :
    ¬ r.Accepts c path defaults := by
  rintro ⟨hl, file, hr, hd⟩
  obtain ⟨group, hgroup, -⟩ := Defaults.ofFile_eq_ok_iff.1 hd
  cases h with
  | notImported h =>
    have hplaces := Template.places_of_isEmpty c.template c.vars r.bounds h
    rw [locateDefaults_eq_ok_iff, hplaces] at hl
    cases hl
  | notFound h =>
    rw [locateDefaults_eq_ok_iff] at hl
    have habsent := h path (List.mem_of_find?_eq_some hl)
    rw [List.find?_some hl] at habsent
    cases habsent
  | unreadable hl' hr' =>
    cases hl.symm.trans hl'
    cases hr.symm.trans hr'
  | noProject hl' hr' hp =>
    cases hl.symm.trans hl'
    cases hr.symm.trans hr'
    rw [Defaults.group?, hp] at hgroup
    cases hgroup
  | noGroup hl' hr' hp hg =>
    cases hl.symm.trans hl'
    cases hr.symm.trans hr'
    rw [Defaults.group?, hp, Option.bind_some, hg] at hgroup
    cases hgroup

/-- Where nothing is accepted, one of the ways applies. -/
theorem misses_of_not_accepts (h : ∀ path defaults, ¬ r.Accepts c path defaults) : r.Misses c := by
  cases hf : (c.template.places c.vars r.bounds).find? r.present with
  | none =>
    refine .notFound fun path hmem => ?_
    simpa using List.find?_eq_none.1 hf path hmem
  | some path =>
    have hl := locateDefaults_eq_ok_iff.2 hf
    cases hr : r.read path with
    | error e => exact .unreadable hl hr
    | ok file =>
      cases hp : file.child? "Project" with
      | none => exact .noProject hl hr hp
      | some project =>
        cases hg : project.child? "PropertyGroup" with
        | none => exact .noGroup hl hr hp hg
        | some group =>
          have hgroup : Defaults.group? file = some group := by
            rw [Defaults.group?, hp, Option.bind_some, hg]
          exact absurd ⟨hl, file, hr, Defaults.ofFile_eq_ok_iff.2 ⟨group, hgroup, rfl⟩⟩
            (h path _)

/-- **No other way**: a defaults file is missed exactly if none is accepted. -/
theorem misses_iff : r.Misses c ↔ ¬ ∃ path defaults, r.Accepts c path defaults := by
  constructor
  · rintro h ⟨path, defaults, ha⟩
    exact h.not_accepts path defaults ha
  · intro h
    exact misses_of_not_accepts fun path defaults ha => h ⟨path, defaults, ha⟩

/-! ## Checked arithmetic -/

/-- The search for the defaults file gets to the newest major version, and the year less the epoch
does not fit. -/
inductive Overruns (r : Resolver) (q : Request) : Prop
  | intro {file : Node} {p : Project} (hread : r.read q.projectFile = .ok file)
    (hroot : file.child? "Project" = some p) (htemplate : (r.choose q p).template.raw ≠ "")
    (hdeclared : r.present ((r.choose q p).template.render (r.choose q p).vars) = false)
    (hfits : ¬ r.bounds.Fits)

theorem not_overruns_of_readProject_error {e : Error} (h : r.readProject q = .error e) :
    ¬ r.Overruns q := by
  rintro ⟨hread, hroot, -, -, -⟩
  rw [readProject_eq_ok_iff.2 ⟨_, hread, hroot⟩] at h
  cases h

theorem not_overruns_iff (hp : r.readProject q = .ok p) :
    ¬ r.Overruns q ↔ (r.choose q p).template.isEmpty = true ∨
      r.present ((r.choose q p).template.render (r.choose q p).vars) = true ∨ r.bounds.Fits := by
  rw [Template.isEmpty_iff]
  constructor
  · intro h
    by_contra hnone
    rw [not_or, not_or, Bool.not_eq_true] at hnone
    obtain ⟨file, hread, hroot⟩ := readProject_eq_ok_iff.1 hp
    exact h (.intro hread hroot hnone.1 hnone.2.1 hnone.2.2)
  · rintro h ⟨hread, hroot, htemplate, hdeclared, hfits⟩
    cases hp.symm.trans (readProject_eq_ok_iff.2 ⟨_, hread, hroot⟩)
    rw [hdeclared] at h
    rcases h with h | h | h
    · exact htemplate h
    · cases h
    · exact hfits h

/-- **Where arithmetic is checked** a request has the same result, or none if it overruns. -/
theorem resolveChecked_eq_some_iff {result : Except Error Report} :
    r.resolveChecked q = some result ↔ ¬ r.Overruns q ∧ r.resolve q = result := by
  rw [resolveChecked]
  cases hp : r.readProject q with
  | error e =>
    rw [resolve_of_readProject_error hp]
    simp [not_overruns_of_readProject_error hp]
  | ok p =>
    rw [resolve_of_readProject hp, not_overruns_iff hp, Option.map_eq_some_iff]
    simp only [Template.locateChecked_eq_some_iff]
    constructor
    · rintro ⟨located, ⟨hsearch, rfl⟩, rfl⟩
      exact ⟨hsearch, rfl⟩
    · rintro ⟨hsearch, rfl⟩
      exact ⟨_, ⟨hsearch, rfl⟩, rfl⟩

/-! ## The result of a request -/

/-- The same surroundings, in which no file is said to exist. -/
def blind (r : Resolver) : Resolver :=
  { r with present := fun _ => false }

theorem misses_blind (r : Resolver) (c : Choices) : r.blind.Misses c :=
  .notFound fun _ _ => rfl

theorem toolDefaults_of_misses (h : r.Misses c) :
    r.toolDefaults c = (Defaults.baseline c.version, none) :=
  toolDefaults_of_not_accepts h.not_accepts

/-- **A defaults file that is missed leaves no trace**: the report is that of the blind. -/
theorem report_blind (h : r.Misses (r.choose q p)) : r.blind.report q p = r.report q p := by
  refine report_congr rfl ?_
  rw [toolDefaults_of_misses h, toolDefaults_of_misses (misses_blind r _)]

/-- **The outcome of a request.** It is refused for its project file or else answered. The answer
names a defaults file exactly if one is found, readable and accepted, and then holds its defaults;
otherwise it is the answer of the blind, which holds the table. Where arithmetic is checked, the
outcome is the same, but for the requests that overrun, which have none. -/
theorem resolve_outcome (r : Resolver) (q : Request) :
    (∀ e, r.resolve q = .error e ↔ r.Refuses q e) ∧
    (∀ file p, r.read q.projectFile = .ok file → file.child? "Project" = some p →
      ∃ c report, c = r.choose q p ∧ r.resolve q = .ok report ∧
        (∀ path, report.details.foundDefaults = some path ↔
          ∃ defaults, r.Accepts c path defaults) ∧
        (∀ path defaults, r.Accepts c path defaults → report.details.defaults = defaults) ∧
        (r.Misses c ↔ ¬ ∃ path defaults, r.Accepts c path defaults) ∧
        (r.Misses c → r.blind.resolve q = .ok report ∧ report.details.foundDefaults = none ∧
          report.details.defaults = Defaults.baseline c.version)) ∧
    ∀ result, r.resolveChecked q = some result ↔ ¬ r.Overruns q ∧ r.resolve q = result := by
  refine ⟨fun e => resolve_eq_error_iff_refuses, fun file p hread hroot => ?_,
    fun _ => resolveChecked_eq_some_iff⟩
  have hp : r.readProject q = .ok p := readProject_eq_ok_iff.2 ⟨file, hread, hroot⟩
  refine ⟨r.choose q p, r.report q p, rfl, resolve_of_readProject hp,
    fun _ => toolDefaults_snd_eq_some_iff, fun path defaults ha => ?_, misses_iff,
    fun hm => ⟨?_, ?_, ?_⟩⟩
  · rw [defaults_report, toolDefaults_of_accepts ha]
  · have hp' : r.blind.readProject q = .ok p := hp
    rw [resolve_of_readProject hp', report_blind hm]
  · rw [foundDefaults_report, toolDefaults_of_misses hm]
  · rw [defaults_report, toolDefaults_of_misses hm]

/-- The trial with a defaults file that may not be read. -/
def forbiddenTrial : Session :=
  { trialSession with store := trialSession.store.write trialPlace (.blocked .permissionDenied) }

/-- The trial in the first year that takes 32 bits. -/
def earlyTrial : Session :=
  { trialSession with bounds := { year := -0x80000000 } }

/-- A project file that is missing, a defaults file that is accepted, one that is not, and a year
that is too early for checked arithmetic and for nothing else. -/
theorem resolve_outcome_trial :
    trialSession.resolver.resolve { projectFile := "b.csproj" } =
        .error (.projectNotFound "b.csproj" "entity not found") ∧
      (∃ report, trialSession.resolver.resolve trialRequest = .ok report ∧
        trialSession.resolver.resolveChecked trialRequest = some (.ok report) ∧
        report.details.foundDefaults = some trialPlace) ∧
      (∃ report, forbiddenTrial.resolver.resolve trialRequest = .ok report ∧
        forbiddenTrial.resolver.blind.resolve trialRequest = .ok report ∧
        report.details.foundDefaults = none) ∧
      ∃ report, earlyTrial.resolver.resolve trialRequest = .ok report ∧
        earlyTrial.resolver.resolveChecked trialRequest = none := by
  refine ⟨((resolve_outcome trialSession.resolver { projectFile := "b.csproj" }).1 _).2
    (.notFound rfl), ?_, ?_, ?_⟩
  · obtain ⟨-, hanswer, hchecked⟩ := resolve_outcome trialSession.resolver trialRequest
    obtain ⟨c, report, rfl, hok, hfound, -⟩ := hanswer _ trialProject rfl rfl
    have hl : trialSession.resolver.locateDefaults
        (trialSession.resolver.choose trialRequest trialProject) = .ok trialPlace :=
      locateDefaults_of_places places_trial (by decide +kernel)
    have hfits : ¬ trialSession.resolver.Overruns trialRequest := fun h => by
      obtain ⟨-, -, -, -, hfits⟩ := h
      exact hfits (by decide)
    exact ⟨report, hok, (hchecked _).2 ⟨hfits, hok⟩, (hfound trialPlace).2 ⟨_, hl, _, rfl, rfl⟩⟩
  · obtain ⟨c, report, rfl, hok, -, -, -, hmissed⟩ :=
      (resolve_outcome forbiddenTrial.resolver trialRequest).2.1 _ trialProject rfl rfl
    have hl : forbiddenTrial.resolver.locateDefaults
        (forbiddenTrial.resolver.choose trialRequest trialProject) = .ok trialPlace :=
      locateDefaults_of_places places_trial (by decide +kernel)
    obtain ⟨hblind, hnone, -⟩ := hmissed (.unreadable hl rfl)
    exact ⟨report, hok, hblind, hnone⟩
  · obtain ⟨-, hanswer, hchecked⟩ := resolve_outcome earlyTrial.resolver trialRequest
    obtain ⟨c, report, rfl, hok, -⟩ := hanswer _ trialProject rfl rfl
    have hoverruns : earlyTrial.resolver.Overruns trialRequest :=
      .intro (p := trialProject) rfl rfl (by decide +kernel) (by decide +kernel) (by decide)
    refine ⟨report, hok, Option.eq_none_iff_forall_ne_some.2 fun result h => ?_⟩
    exact ((hchecked result).1 h).1 hoverruns

end Resolver

end TypeScriptBuild
