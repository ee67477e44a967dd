import TypeScriptBuild.Proofs.Setting
import TypeScriptBuild.Proofs.Version.Order

/-!
# The table of defaults

A defaults file gives a value for some of the settings that have a default, by the elements of the
first property group of its project; for the others the table stands in. Whatever the file gives,
the settings that have a value are the same ones, and each has a value of the shape that the table
has for it. Nothing else in the file counts, and a file without such a group is refused.

Two settings of the table depend on the version, each by a release that the version has reached or
not. A pre-release of that release has not reached it, and build identifiers do not matter. What
changes at a release does not change back at a later version.

* `Defaults.Tabular`: the settings that have a value, and the shapes of their values.
* `Defaults.FirstGroup`, `Defaults.Lacks`: the property group that counts, and what a file lacks
  that has none.
* `Defaults.Offers`: the value of a setting where a table is overlaid with a group.
* `Defaults.ofFile_overlays_baseline`: what a defaults file comes to.
* `Defaults.baselineValue_target`, `Defaults.baselineValue_noEmitOnError`: the two settings.
* `Defaults.baseline_congr`: the table depends on the releases that are reached.
* `Defaults.baseline_turns_once`: the table in terms of numbers and identifiers, and along the
  order.
-/

namespace TypeScriptBuild.Defaults

/-! ## What is offered -/

/-- The settings that have a default have a value and no others do, and the value is a truth value
for a flag and a text otherwise. -/
structure Tabular (a : Assignment) : Prop where
  isSet_iff : ∀ s, a.isSet s = true ↔ s ∈ settings
  shape : ∀ s x, a.value? s = some x → ((∃ b, x = .flag b) ↔ s.kind = .flag)

/-- The first property group in the project of a file. A file has one project at its top; of several
the first would count. -/
def FirstGroup (file group : Node) : Prop :=
  ∃ project projects groups, file.under "Project" = project :: projects ∧
    project.under "PropertyGroup" = group :: groups

/-- What a file lacks that has no such group. -/
inductive Lacks (file : Node) : Defect → Prop
  | noProject (h : file.under "Project" = []) : Lacks file .noProject
  | noPropertyGroup {project : Node} {projects : List Node}
    (h : file.under "Project" = project :: projects) (hg : project.under "PropertyGroup" = []) :
    Lacks file .noPropertyGroup

/-- The value that a text gives for a setting: for a flag a truth value, on for the word `true` in
any case of its ASCII letters, and otherwise the text itself. -/
inductive GivenBy (s : Setting) (text : String) : Value → Prop
  | flag {b : Bool} (hs : s.kind = .flag) (hb : b = true ↔ text.toLower = "true") :
    GivenBy s text (.flag b)
  | text (hs : s.kind ≠ .flag) : GivenBy s text (.text text)

/-- The value for a setting where a table is overlaid with a property group: what the first element
of the group for the setting gives, be it empty, or the value of the table if there is no
element. -/
inductive Offers (group : Node) (table : Assignment) (s : Setting) : Value → Prop
  | given {element : Node} {others : List Node} {x : Value} (hs : s ∈ settings)
    (h : group.under s.tag = element :: others) (hx : GivenBy s (element.text.getD "") x) :
    Offers group table s x
  | silent {x : Value} (hs : s ∈ settings) (h : group.under s.tag = [])
    (hx : table.value? s = some x) : Offers group table s x

variable {file group group' : Node} {s : Setting} {text : String} {x : Value}

/-! ## The group that counts -/

theorem group?_eq_some_iff : group? file = some group ↔ FirstGroup file group := by
  rw [group?, Node.child?, FirstGroup]
  cases file.under "Project" with
  | nil => simp
  | cons project projects =>
    rw [List.head?_cons, Option.bind_some, Node.child?]
    cases hg : project.under "PropertyGroup" <;> simp [hg]

theorem ofFile_eq_ok_iff_firstGroup {path : String} {v : Version} {a : Assignment} :
    ofFile file path v = .ok a ↔ ∃ group, FirstGroup file group ∧ a = ofGroup group v := by
  simp only [ofFile_eq_ok_iff, group?_eq_some_iff]

/-- A file is refused for what it lacks. -/
theorem ofFile_eq_error_iff {path : String} {v : Version} {e : Error} :
    ofFile file path v = .error e ↔
      ∃ defect, Lacks file defect ∧ e = .defaultsMalformed path defect := by
  rw [ofFile, Node.child?]
  cases hp : file.under "Project" with
  | nil =>
    have hlacks (defect : Defect) : Lacks file defect ↔ defect = .noProject := by
      constructor
      · rintro (h | ⟨h, -⟩)
        · rfl
        · cases hp.symm.trans h
      · rintro rfl
        exact .noProject hp
    simp [hlacks, eq_comm]
  | cons project projects =>
    have hlacks (defect : Defect) :
        Lacks file defect ↔ defect = .noPropertyGroup ∧ project.under "PropertyGroup" = [] := by
      constructor
      · rintro (h | ⟨h, hg⟩)
        · cases hp.symm.trans h
        · cases hp.symm.trans h
          exact ⟨rfl, hg⟩
      · rintro ⟨rfl, hg⟩
        exact .noPropertyGroup hp hg
    rw [List.head?_cons]
    dsimp only
    rw [Node.child?]
    cases hg : project.under "PropertyGroup" <;> simp [hlacks, hg, eq_comm]

/-! ## The values -/

theorem given_eq_iff : given s text = x ↔ GivenBy s text x := by
  rw [given]
  by_cases hs : s.kind = .flag
  · rw [if_pos hs]
    constructor
    · rintro rfl
      exact .flag hs (Value.toFlag_text_iff text)
    · rintro (⟨-, hb⟩ | hne)
      · rw [Value.flag.injEq, Bool.eq_iff_iff, hb, Value.toFlag_text_iff]
      · exact absurd hs hne
  · rw [if_neg hs]
    constructor
    · rintro rfl
      exact .text hs
    · rintro (⟨hflag, -⟩ | -)
      · exact absurd hflag hs
      · rfl

theorem GivenBy.shape (h : GivenBy s text x) : (∃ b, x = .flag b) ↔ s.kind = .flag := by
  cases h with
  | flag hs _ => simp [hs]
  | text hs => simp [hs]

/-- **An overlaid table** has for each setting the value that is offered. -/
theorem value?_ofGroup_eq_some_iff {v : Version} :
    (ofGroup group v).value? s = some x ↔ Offers group (baseline v) s x := by
  constructor
  · intro h
    by_cases hs : s ∈ settings
    · rw [value?_ofGroup group v hs] at h
      cases hu : group.under s.tag with
      | nil =>
        rw [Node.childText?_of_under_nil hu] at h
        exact .silent hs hu h
      | cons element others =>
        rw [Node.childText?_of_under_cons hu] at h
        exact .given hs hu (given_eq_iff.1 (Option.some.inj h))
    · rw [value?_ofGroup_of_not_mem group v hs] at h
      cases h
  · rintro (⟨hs, hu, hx⟩ | ⟨hs, hu, hx⟩)
    · rw [value?_ofGroup group v hs, Node.childText?_of_under_cons hu, ← given_eq_iff.2 hx]
      rfl
    · rw [value?_ofGroup group v hs, Node.childText?_of_under_nil hu]
      exact hx

theorem shape_baselineValue (v : Version) (s : Setting) :
    (∃ b, baselineValue v s = .flag b) ↔ s.kind = .flag := by
  unfold baselineValue
  split
  · simp [Setting.kind]
  · simp [Setting.kind]
  · split <;> simp_all

theorem tabular_baseline (v : Version) : Tabular (baseline v) where
  isSet_iff s := by
    rw [Assignment.isSet]
    by_cases hs : s ∈ settings
    · simp [value?_baseline v hs, hs]
    · simp [value?_baseline_of_not_mem v hs, hs]
  shape s x h := by
    by_cases hs : s ∈ settings
    · rw [value?_baseline v hs] at h
      rw [← Option.some.inj h]
      exact shape_baselineValue v s
    · rw [value?_baseline_of_not_mem v hs] at h
      cases h

/-- **An overlay keeps the shape of the table.** -/
theorem tabular_ofGroup (group : Node) (v : Version) : Tabular (ofGroup group v) where
  isSet_iff s := by
    rw [Assignment.isSet]
    by_cases hs : s ∈ settings
    · rw [value?_ofGroup group v hs, value?_baseline v hs, Option.isSome_or]
      simp [hs]
    · simp [value?_ofGroup_of_not_mem group v hs, hs]
  shape s x h := by
    rcases value?_ofGroup_eq_some_iff.1 h with ⟨-, -, hx⟩ | ⟨-, -, hx⟩
    · exact hx.shape
    · exact (tabular_baseline v).shape s x hx

/-- A group that is silent on every setting leaves the table as it is. -/
theorem ofGroup_of_silent (h : ∀ s ∈ settings, group.under s.tag = []) (v : Version) :
    ofGroup group v = baseline v := by
  refine Assignment.ext (funext fun s => ?_)
  by_cases hs : s ∈ settings
  · rw [value?_ofGroup group v hs, Node.childText?_of_under_nil (h s hs)]
    rfl
  · rw [value?_ofGroup_of_not_mem group v hs, value?_baseline_of_not_mem v hs]

/-- Of a group only its children count. -/
theorem ofGroup_congr (h : ∀ tag, group'.under tag = group.under tag) (v : Version) :
    ofGroup group' v = ofGroup group v := by
  have htext (tag : String) : group'.childText? tag = group.childText? tag := by
    rw [Node.childText?, Node.childText?, Node.child?, Node.child?, h]
  rw [ofGroup, ofGroup]
  simp only [htext]

/-! ## The whole file -/

/-- **What a defaults file comes to.** A file is accepted exactly if its project has a property
group, and is refused for what it lacks otherwise. It gives the settings that the table gives, in the
same shapes, each with the value that its first property group offers over the table, so that a
silent group gives the table itself. Files with the same children in their first groups give the
same. -/
theorem ofFile_overlays_baseline (file : Node) (path : String) (v : Version) :
    ((∃ a, ofFile file path v = .ok a) ↔
      ∃ project projects, file.under "Project" = project :: projects ∧
        project.under "PropertyGroup" ≠ []) ∧
    (∀ e, ofFile file path v = .error e ↔
      ∃ defect, Lacks file defect ∧ e = .defaultsMalformed path defect) ∧
    Tabular (baseline v) ∧
    ∀ group, FirstGroup file group →
      (∃ a, ofFile file path v = .ok a ∧ Tabular a ∧
        (∀ s x, a.value? s = some x ↔ Offers group (baseline v) s x) ∧
        ((∀ s ∈ settings, group.under s.tag = []) → a = baseline v)) ∧
      ∀ (file' : Node) (path' : String) (group' : Node), FirstGroup file' group' →
        (∀ tag, group'.under tag = group.under tag) → ofFile file' path' v = ofFile file path v := by
  refine ⟨?_, fun e => ofFile_eq_error_iff, tabular_baseline v, fun group h => ⟨?_, ?_⟩⟩
  · simp only [ofFile_eq_ok_iff_firstGroup, FirstGroup, List.ne_nil_iff_exists_cons]
    constructor
    · rintro ⟨-, group, ⟨project, projects, groups, hp, hg⟩, -⟩
      exact ⟨project, projects, hp, group, groups, hg⟩
    · rintro ⟨project, projects, hp, group, groups, hg⟩
      exact ⟨_, group, ⟨project, projects, groups, hp, hg⟩, rfl⟩
  · exact ⟨ofGroup group v, ofFile_eq_ok_iff_firstGroup.2 ⟨group, h, rfl⟩, tabular_ofGroup group v,
      fun s x => value?_ofGroup_eq_some_iff, fun hsilent => ofGroup_of_silent hsilent v⟩
  -- both files are accepted, so that neither path comes into the result
  · intro file' path' group' h' hsame
    rw [ofFile_eq_ok_iff_firstGroup.2 ⟨group, h, rfl⟩,
      ofFile_eq_ok_iff_firstGroup.2 ⟨group', h', rfl⟩, ofGroup_congr hsame]

/-- A group with an empty element, and with two for one setting. -/
def trialGroup : Node where
  children := [("TypeScriptOutDir", .single {}),
    ("TypeScriptSourceMap", .many [{ text := some "TRUE" }, { text := some "false" }])]

/-- A defaults file with the given property groups. -/
def trialFile (groups : List Node) : Node where
  children := [("Project", .single { children := [("PropertyGroup", .many groups)] })]

/-- The empty element and the first of the two count, and the table has the target. A condition on
the group and another group behind it make no difference. -/
theorem ofFile_overlays_baseline_trial :
    FirstGroup (trialFile [trialGroup]) trialGroup ∧
    ∃ a, ofFile (trialFile [trialGroup]) "a.props" ⟨1, 4, 0, [], []⟩ = .ok a ∧
      a.value? .outDir = some (.text "") ∧ a.value? .sourceMap = some (.flag true) ∧
      a.value? .target = some (.text "ES3") ∧
      ofFile (trialFile [{ trialGroup with attributes := [("Condition", "false")] },
        { children := [("TypeScriptTarget", .single { text := some "ES6" })] }]) "b.props"
          ⟨1, 4, 0, [], []⟩ = .ok a := by
  have hfirst : FirstGroup (trialFile [trialGroup]) trialGroup := ⟨_, [], [], rfl, rfl⟩
  obtain ⟨-, -, -, hgroup⟩ :=
    ofFile_overlays_baseline (trialFile [trialGroup]) "a.props" ⟨1, 4, 0, [], []⟩
  obtain ⟨⟨a, hok, -, hvalues, -⟩, hsame⟩ := hgroup trialGroup hfirst
  refine ⟨hfirst, a, hok, (hvalues _ _).2 ?_, (hvalues _ _).2 ?_, (hvalues _ _).2 ?_, ?_⟩
  · exact .given (by decide) rfl (.text (by decide))
  · exact .given (by decide) rfl (.flag rfl (by decide +kernel))
  · exact .silent (by decide) rfl (by decide +kernel)
  · rw [← hok]
    exact hsame _ "b.props" _ ⟨_, [], _, rfl, rfl⟩ fun tag => rfl

/-! ## The table along the order of versions -/

variable {v w : Version}

theorem baselineValue_target (v : Version) :
    baselineValue v .target = .text (if v.Reaches [1, 5, 0] then "ES5" else "ES3") := by
  have h : v < ⟨1, 5, 0, [], []⟩ ↔ ¬ v.Reaches [1, 5, 0] :=
    Version.lt_release_iff (w := ⟨1, 5, 0, [], []⟩)
  rw [baselineValue]
  by_cases hv : v.Reaches [1, 5, 0]
  · rw [if_pos hv, if_neg fun hlt => h.1 hlt hv]
  · rw [if_neg hv, if_pos (h.2 hv)]

theorem baselineValue_noEmitOnError (v : Version) :
    baselineValue v .noEmitOnError = .flag (decide (v.Reaches [1, 4, 0])) := by
  have h : ⟨1, 4, 0, [], []⟩ ≤ v ↔ v.Reaches [1, 4, 0] :=
    Version.release_le_iff (w := ⟨1, 4, 0, [], []⟩)
  rw [baselineValue, decide_eq_decide.2 h]

/-- The table depends on the version by the releases that it has reached. -/
theorem baseline_congr (h : ∀ ns, v.Reaches ns ↔ w.Reaches ns) : baseline v = baseline w := by
  -- all other settings are the same for every version
  have hvalue (s : Setting) : baselineValue v s = baselineValue w s := by
    cases s with
    | target => simp only [baselineValue_target, h]
    | noEmitOnError => simp only [baselineValue_noEmitOnError, h]
    | _ => rfl
  refine Assignment.ext (funext fun s => ?_)
  simp only [baseline, hvalue]

theorem value?_baseline_target (v : Version) :
    (baseline v).value? .target = some (.text (if v.Reaches [1, 5, 0] then "ES5" else "ES3")) := by
  rw [value?_baseline v (by decide), baselineValue_target]

theorem value?_baseline_noEmitOnError (v : Version) :
    (baseline v).value? .noEmitOnError = some (.flag (decide (v.Reaches [1, 4, 0]))) := by
  rw [value?_baseline v (by decide), baselineValue_noEmitOnError]

/-- **The table turns once at each of two releases.** The target is the older one for versions whose
numbers are below those of the one release, and for pre-releases of it; output is withheld on errors
for versions whose numbers are above those of the other release, and for that release itself. Build
identifiers do not matter, and along the order of versions neither setting turns back. -/
theorem baseline_turns_once :
    (∀ v : Version,
      (baseline v).value? .target = some (.text
        (if v.numbers < [1, 5, 0] ∨ v.numbers = [1, 5, 0] ∧ v.pre ≠ [] then "ES3" else "ES5")) ∧
      (baseline v).value? .noEmitOnError = some (.flag
        (decide ([1, 4, 0] < v.numbers ∨ v.numbers = [1, 4, 0] ∧ v.pre = []))) ∧
      ∀ build : List String, baseline { v with build := build } = baseline v) ∧
    ∀ v w : Version, v ≤ w →
      ((baseline v).value? .target = some (.text "ES5") →
        (baseline w).value? .target = some (.text "ES5")) ∧
      ((baseline v).value? .noEmitOnError = some (.flag true) →
        (baseline w).value? .noEmitOnError = some (.flag true)) := by
  refine ⟨fun v => ⟨?_, ?_, fun build => ?_⟩, fun v w h => ⟨?_, ?_⟩⟩
  · rw [value?_baseline_target]
    simp only [← Version.not_reaches_iff, ite_not]
  · exact value?_baseline_noEmitOnError v
  · exact baseline_congr fun ns => Iff.rfl
  · simp only [value?_baseline_target]
    by_cases hv : v.Reaches [1, 5, 0]
    · simp [hv.mono h]
    · simp [hv]
  · simp only [value?_baseline_noEmitOnError]
    by_cases hv : v.Reaches [1, 4, 0]
    · simp [hv.mono h]
    · simp [hv]

/-- From a release with build identifiers to a pre-release of the next one. -/
theorem baseline_turns_once_trial :
    let v : Version := ⟨1, 5, 0, [], ["7"]⟩
    let w : Version := ⟨1, 5, 1, ["rc", "1"], []⟩
    v ≤ w ∧ (baseline v).value? .target = some (.text "ES5") ∧
      (baseline w).value? .target = some (.text "ES5") ∧
      (baseline w).value? .noEmitOnError = some (.flag true) := by
  intro v w
  have h : v ≤ w := by decide +kernel
  have htarget : (baseline v).value? .target = some (.text "ES5") := by decide +kernel
  have herrors : (baseline v).value? .noEmitOnError = some (.flag true) := by decide +kernel
  obtain ⟨-, hlater⟩ := baseline_turns_once
  exact ⟨h, htarget, (hlater v w h).1 htarget, (hlater v w h).2 herrors⟩

end TypeScriptBuild.Defaults
