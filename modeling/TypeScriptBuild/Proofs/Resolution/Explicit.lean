import TypeScriptBuild.Proofs.Resolution.Stage
import TypeScriptBuild.Proofs.Version.Normal

/-!
# Choices made explicit

A report says what was settled where the request left something open. Asking again with all of it
spelled out (`Request.madeExplicit`) settles the same, so that the second report is the first one
but for the three fields that repeat the request (`Resolver.resolve_madeExplicit`). A default that
is empty counts as none when it is spelled out, and the version comes back from its written form.
-/

namespace TypeScriptBuild

/-- A choice with a value in its place if it is missing or empty. -/
def filled (choice : Option String) (value : String) : Option String :=
  if choice = none ∨ choice = some "" then some value else choice

/-- The request with everything that it leaves open set to what was settled, and with the version
that was settled in any case. -/
def Request.madeExplicit (q : Request) (d : Details) : Request :=
  { q with
    configuration := filled q.configuration d.defaultConfiguration
    platform := filled q.platform d.defaultPlatform
    typeScriptVersion := some d.typeScriptVersion
    visualStudioVersion := filled q.visualStudioVersion d.defaultVisualStudioVersion
    extensionsPath := filled q.extensionsPath d.extensionsPath }

/-- The report with the fields that repeat a request taken from `q`. -/
def Report.repeating (report : Report) (q : Request) : Report :=
  { report with
    details :=
      { report.details with
        activeConfiguration := q.configuration
        activePlatform := q.platform
        visualStudioVersion := q.visualStudioVersion } }

/-! ## Choices that are filled -/

theorem supplied_some_empty : supplied (some "") = none := by
  simp [supplied]

/-- Where nothing is supplied the choice is missing or empty. -/
theorem supplied_cases (choice : Option String) :
    (choice = none ∨ choice = some "") ∧ supplied choice = none ∨
      ∃ value, value ≠ "" ∧ choice = some value := by
  match choice with
  | none => exact Or.inl ⟨Or.inl rfl, rfl⟩
  | some value =>
    by_cases h : value = ""
    · subst h
      exact Or.inl ⟨Or.inr rfl, supplied_some_empty⟩
    · exact Or.inr ⟨value, h, rfl⟩

theorem filled_of_ne {value : String} (h : value ≠ "") (other : String) :
    filled (some value) other = some value := by
  have hno : ¬ (some value = none ∨ some value = some "") := by simp [h]
  exact if_neg hno

/-- A choice filled with what stands in for it settles the same. -/
theorem getD_supplied_filled (choice : Option String) (standing : String) :
    (supplied (filled choice standing)).getD standing = (supplied choice).getD standing := by
  rcases supplied_cases choice with ⟨hopen, hnone⟩ | ⟨value, hne, rfl⟩
  · rw [filled, if_pos hopen, hnone, Option.getD_none]
    by_cases h : standing = ""
    · rw [h, supplied_some_empty, Option.getD_none]
    · rw [supplied_some_of_ne h, Option.getD_some]
  · rw [filled_of_ne hne]

/-- To fill a choice with what is settled is to fill it with what stands in for it. -/
theorem filled_getD_supplied (choice : Option String) (standing : String) :
    filled choice ((supplied choice).getD standing) = filled choice standing := by
  rcases supplied_cases choice with ⟨-, hnone⟩ | ⟨value, hne, rfl⟩
  · rw [hnone, Option.getD_none]
  · rw [filled_of_ne hne, filled_of_ne hne]

/-! ## Requests made explicit -/

namespace Resolver

/-- The version is settled by a normalization. -/
theorem version_choose (r : Resolver) (q : Request) (p : Project) :
    (r.choose q p).version = Version.normalize ((supplied q.typeScriptVersion).or
      (p.property "TypeScriptToolsVersion" (r.choose q p).selection none)) :=
  rfl

theorem release_version_choose (r : Resolver) (q : Request) (p : Project) :
    (r.choose q p).version.release = (r.choose q p).version := by
  rw [version_choose, Version.release_normalize]

/-- The version that was settled is settled again by its written form. -/
theorem version_choose_of_written {r r' : Resolver} {q q' : Request} {p p' : Project}
    (h : q'.typeScriptVersion = some (r.choose q p).version.toText) :
    (r'.choose q' p').version = (r.choose q p).version := by
  rw [version_choose, h, ← release_version_choose r q p,
    supplied_some_of_ne (Version.toText_release_ne_empty _), Option.some_or,
    Version.normalize_toText_release]

/-- A choice that is made explicit with what was settled for it is settled so again. -/
theorem settled_filled (choice : Option String) (standing : String) :
    (supplied (filled choice ((supplied choice).getD standing))).getD standing =
      (supplied choice).getD standing := by
  rw [filled_getD_supplied, getD_supplied_filled]

/-- **Nothing else is settled** for the request made explicit. -/
theorem choose_madeExplicit (r : Resolver) (q : Request) (p : Project) :
    r.choose (q.madeExplicit (r.report q p).details) p = r.choose q p := by
  refine choose_congr ?_ ?_ ?_ ?_ ?_
  · exact getD_supplied_filled q.configuration (p.ownDefault "Configuration")
  · exact getD_supplied_filled q.platform (p.ownDefault "Platform")
  · exact version_choose_of_written rfl
  · exact getD_supplied_filled q.visualStudioVersion (p.ownDefault "VisualStudioVersion")
  · exact settled_filled q.extensionsPath r.environment.extensionsPath

/-- Two requests for one project file that settle the same have the same report, but for the fields
that repeat the request. -/
theorem report_eq_repeating {r : Resolver} {q q' : Request} {p : Project}
    (hfile : q'.projectFile = q.projectFile) (hc : r.choose q' p = r.choose q p) :
    r.report q' p = (r.report q p).repeating q' := by
  rw [report, report, hc, reportWith, reportWith, hc, hfile]
  rfl

/-- **Making the choices of a request explicit changes nothing**: the report is the same but for
the fields that repeat the request. -/
theorem resolve_madeExplicit (r : Resolver) (q : Request) (report : Report)
    (h : r.resolve q = .ok report) :
    r.resolve (q.madeExplicit report.details) =
      .ok (report.repeating (q.madeExplicit report.details)) := by
  obtain ⟨p, hp, rfl⟩ := resolve_eq_ok_iff.1 h
  have hp' : r.readProject (q.madeExplicit (r.report q p).details) = .ok p := hp
  have hreport := report_eq_repeating (r := r) (p := p)
    (show (q.madeExplicit (r.report q p).details).projectFile = q.projectFile from rfl)
    (choose_madeExplicit r q p)
  rw [resolve_of_readProject hp', hreport]

/-- The trial names neither a platform nor a directory of extensions, and its configuration is
empty. -/
theorem resolve_madeExplicit_trial :
    let r := trialSession.resolver
    let q := { trialRequest with configuration := some "" }
    let q' : Request :=
      { projectFile := "a.csproj"
        configuration := some "Debug"
        platform := some ""
        typeScriptVersion := some "1.4.0"
        visualStudioVersion := some ""
        extensionsPath := some "/pf/MSBuild/" }
    r.resolve q = .ok (r.report q trialProject) ∧
      r.resolve q' = .ok ((r.report q trialProject).repeating q') := by
  intro r q q'
  have hq : r.resolve q = .ok (r.report q trialProject) :=
    resolve_of_readProject readProject_trial
  have hexplicit : q.madeExplicit (r.report q trialProject).details = q' := by decide +kernel
  have h := resolve_madeExplicit r q (r.report q trialProject) hq
  rw [hexplicit] at h
  exact ⟨hq, h⟩

end Resolver

end TypeScriptBuild
