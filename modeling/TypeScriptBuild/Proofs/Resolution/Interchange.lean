import TypeScriptBuild.Proofs.Project.Interchange
import TypeScriptBuild.Proofs.Resolution.Stage

/-!
# Resolutions over interchangeable files

How a reader holds the children of a node does not count for a resolution. Two readers that answer
every path with the same error or with interchangeable files lead to the same report or the same
error on every request.

* `Reader.Interchangeable`: two such readers.
* `Resolver.resolve_eq_of_interchangeable`: resolutions over them.
* `Node.interchangeable_not_told_apart`: this together with all that is read from a project and from
  a defaults file.
-/

namespace TypeScriptBuild

/-- Two answers of a reader: the same error, or interchangeable nodes. -/
inductive SameAnswer : Except Error Node → Except Error Node → Prop
  | error (e : Error) : SameAnswer (.error e) (.error e)
  | ok {n n' : Node} (h : Node.Interchangeable n n') : SameAnswer (.ok n) (.ok n')

/-- Two readers with the same answer for every path. -/
def Reader.Interchangeable (read read' : Reader) : Prop :=
  ∀ path, SameAnswer (read path) (read' path)

namespace Resolver

/-- The same surroundings with another reader. -/
def withReader (r : Resolver) (read : Reader) : Resolver :=
  { r with read := read }

variable {r : Resolver} {read : Reader} {q : Request} {p p' : Project} {c : Choices}

theorem readProject_withReader (h : r.read.Interchangeable read) (q : Request) :
    SameAnswer (r.readProject q) ((r.withReader read).readProject q) := by
  have hanswer := h q.projectFile
  rw [readProject, readProject, withReader]
  dsimp only
  generalize r.read q.projectFile = answer, read q.projectFile = answer' at hanswer
  cases hanswer with
  | error e => cases e <;> exact .error _
  | @ok file file' hfile =>
    have hroot := hfile.child?_rel "Project"
    dsimp only
    generalize file.child? "Project" = root, file'.child? "Project" = root' at hroot
    cases hroot with
    | none => exact .error _
    | some hp => exact .ok hp

/-- Projects that say the same settle the same. -/
theorem choose_withReader (h : p.SaysAlike p') (r : Resolver) (read : Reader) (q : Request) :
    (r.withReader read).choose q p' = r.choose q p := by
  simp only [choose, withReader, h.ownDefault, h.property, h.defaultsPath]

theorem accepts_withReader (h : r.read.Interchangeable read) (path : String)
    (defaults : Assignment) :
    (r.withReader read).Accepts c path defaults ↔ r.Accepts c path defaults := by
  have hgives : (∃ file, read path = .ok file ∧
        Defaults.ofFile file path c.version = .ok defaults) ↔
      ∃ file, r.read path = .ok file ∧ Defaults.ofFile file path c.version = .ok defaults := by
    have hanswer := h path
    generalize r.read path = answer, read path = answer' at hanswer
    cases hanswer with
    | error e => simp
    | ok hfile => simp [Defaults.ofFile_eq_of_interchangeable hfile]
  exact ⟨fun ha => ⟨ha.located, hgives.1 ha.gives⟩, fun ha => ⟨ha.located, hgives.2 ha.gives⟩⟩

theorem toolDefaults_withReader (h : r.read.Interchangeable read) (c : Choices) :
    (r.withReader read).toolDefaults c = r.toolDefaults c :=
  toolDefaults_congr (accepts_withReader h)

theorem report_withReader (h : r.read.Interchangeable read) (hp : p.SaysAlike p')
    (q : Request) : (r.withReader read).report q p' = r.report q p := by
  rw [report, report, reportWith, reportWith, choose_withReader hp, toolDefaults_withReader h]
  simp only [hp.ownDefault, hp.imports, hp.declaredTargets, hp.compileFiles, hp.settings]

/-- **How files are held does not count** for a resolution. -/
theorem resolve_eq_of_interchangeable (h : r.read.Interchangeable read) (q : Request) :
    (r.withReader read).resolve q = r.resolve q := by
  have hproject := readProject_withReader h q
  cases hr : r.readProject q with
  | error e =>
    rw [hr] at hproject
    generalize hr' : (r.withReader read).readProject q = answer at hproject
    cases hproject
    rw [resolve_of_readProject_error hr, resolve_of_readProject_error hr']
  | ok p =>
    rw [hr] at hproject
    generalize hr' : (r.withReader read).readProject q = answer at hproject
    cases hproject with
    | ok hp =>
      rw [resolve_of_readProject hr, resolve_of_readProject hr',
        report_withReader h (Project.saysAlike_of_interchangeable hp)]

end Resolver

/-- **No reader of nodes can tell a single child from a list of one**, nor a missing tag from an
empty list: interchangeable projects say the same, interchangeable defaults files give the same
defaults or the same error, and resolutions over interchangeable files have the same result. -/
theorem Node.interchangeable_not_told_apart :
    (∀ p p' : Project, Interchangeable p p' → p.SaysAlike p') ∧
    (∀ file file' : Node, Interchangeable file file' →
      Option.Rel Interchangeable (file.child? "Project") (file'.child? "Project") ∧
      ∀ path v, Defaults.ofFile file' path v = Defaults.ofFile file path v) ∧
    ∀ (r : Resolver) (read : Reader), r.read.Interchangeable read →
      ∀ q, (r.withReader read).resolve q = r.resolve q :=
  ⟨fun _ _ h => Project.saysAlike_of_interchangeable h,
    fun _ _ h => ⟨h.child?_rel "Project", Defaults.ofFile_eq_of_interchangeable h⟩,
    fun _ _ h => Resolver.resolve_eq_of_interchangeable h⟩

/-- A file in which every node is held alone: a target in a property group of a project. -/
def heldAlone : Node :=
  let group : Node := { children := [("TypeScriptTarget", .single { text := some "ES5" })] }
  let project : Node := { children := [("PropertyGroup", .single group)] }
  { children := [("Project", .single project)] }

/-- The same file with lists of one at every depth and with a tag that holds nothing. -/
def heldInLists : Node :=
  let group : Node := { children := [("TypeScriptTarget", .many [{ text := some "ES5" }])] }
  let project : Node := { children := [("PropertyGroup", .many [group])] }
  { children := [("Comment", .many []), ("Project", .many [project])] }

theorem interchangeable_trial : Node.Interchangeable heldAlone heldInLists := by
  refine .trans (.of_recast (.held [] [] "Project" (.single (.held [] [] "PropertyGroup"
    (.single (.held [] [] "TypeScriptTarget" (.lone _))))))) ?_
  refine .trans (.of_recast (.held [] [] "Project" (.single
    (.held [] [] "PropertyGroup" (.lone _))))) ?_
  refine .trans (.of_recast (.held [] [] "Project" (.lone _))) ?_
  exact .of_recast (.vacant [] _ "Comment" (by decide))

theorem interchangeable_not_told_apart_trial :
    let r : Resolver := { read := fun _ => .ok heldAlone, present := fun _ => false }
    let read : Reader := fun _ => .ok heldInLists
    let q : Request := { projectFile := "a.csproj" }
    heldInLists ≠ heldAlone ∧ (r.withReader read).resolve q = r.resolve q ∧
      (∃ report, r.resolve q = .ok report ∧ report.compiler.value .target = "ES5") ∧
      ∀ v, Defaults.ofFile heldInLists "a.props" v = Defaults.ofFile heldAlone "a.props" v := by
  intro r read q
  have hfiles := interchangeable_trial
  have h := Node.interchangeable_not_told_apart
  refine ⟨by decide, h.2.2 r read (fun _ => .ok hfiles) q, ⟨_, rfl, ?_⟩, ?_⟩
  · exact (CompilerSettings.value_merge _ _ .target).trans rfl
  · exact (h.2.1 heldAlone heldInLists hfiles).2 "a.props"

end TypeScriptBuild
