import TypeScriptBuild.Proofs.Node.Correspondence
import TypeScriptBuild.Proofs.Project.Overriding
import TypeScriptBuild.Proofs.Resolution.Stage

/-!
# Files and imports in document order

The node of a document holds its elements tag by tag. The files to compile and the imports are read
from there, and they come out in the order in which their elements stand in the document, each as
often as it stands there, whatever stands between them.

* `Xml.Document.compiledFiles`, `Xml.Document.imports`: the files and the imports of an element,
  read off its content.
* `LastBrought`: the path of the last import that brings the defaults.
* `Project.listed_in_document_order`: a project and the report on it list these.
-/

namespace TypeScriptBuild

open Xml

/-! ## What a document lists -/

/-- The files that an element compiles: the `Include` of the `TypeScriptCompile` elements in its
`ItemGroup` elements, where they have one, with a slash for each backslash. -/
def Xml.Document.compiledFiles (d : Document) : List String :=
  (Item.elementsNamed "ItemGroup" d.content).flatMap fun group =>
    (Item.elementsNamed "TypeScriptCompile" group.content).filterMap fun item =>
      (Attribute.lastValue? "Include" item.attributes).map fun path =>
        path.map fun c => if c = '\\' then '/' else c

/-- The imports of an element: one for each of its `Import` elements that has an attribute. -/
def Xml.Document.imports (d : Document) : List Import :=
  ((Item.elementsNamed "Import" d.content).filter fun e => e.attributes ≠ []).map fun e =>
    { project := (Attribute.lastValue? "Project" e.attributes).getD ""
      condition := Attribute.lastValue? "Condition" e.attributes }

/-- The name of the defaults file stands somewhere in the path of an import. -/
def Import.NamesDefaults (i : Import) : Prop :=
  "Microsoft.TypeScript.Default.props".toList <:+: i.project.toList

/-- The path of the last of some imports that names the defaults file, empty if there is none. -/
inductive LastBrought : List Import → String → Prop
  | last (front : List Import) {i : Import} (back : List Import) (h : i.NamesDefaults)
    (hback : ∀ j ∈ back, ¬ j.NamesDefaults) : LastBrought (front ++ i :: back) i.project
  | none {imports : List Import} (h : ∀ i ∈ imports, ¬ i.NamesDefaults) : LastBrought imports ""

/-- Files, imports and the path of the defaults file are those that a document lists. -/
structure ListedBy (d : Document) (files : List String) (imports : List Import)
    (defaultsPath : String) : Prop where
  files : files = d.compiledFiles
  imports : imports = d.imports
  defaultsPath : LastBrought d.imports defaultsPath

namespace Project

/-! ## What a project lists -/

theorem compileFiles_ofElement (d : Document) :
    compileFiles (Node.ofElement d) = d.compiledFiles := by
  rw [compileFiles, Node.under_ofElement, List.flatMap_map, Document.compiledFiles]
  refine List.flatMap_congr fun group _ => ?_
  rw [Node.under_ofElement, List.filterMap_map]
  refine List.filterMap_congr fun item _ => ?_
  rw [Function.comp_apply, Node.attribute?_ofElement]
  rfl

theorem imports_ofElement (d : Document) : imports (Node.ofElement d) = d.imports := by
  rw [imports, Node.under_ofElement, List.filterMap_map, Document.imports, ← List.filterMap_eq_map,
    List.filterMap_filter]
  refine List.filterMap_congr fun e _ => ?_
  -- attributes that hide each other leave one behind, so that none is lost altogether
  have hnone : (Node.ofElement e).attributes.isEmpty = true ↔ e.attributes = [] := by
    rw [List.isEmpty_iff, Node.attributes_ofElement_eq_nil_iff]
  simp only [Function.comp_apply, hnone, Node.attribute?_ofElement]
  by_cases h : e.attributes = [] <;> simp [h]

theorem bringsDefaults_iff (i : Import) : i.bringsDefaults = true ↔ i.NamesDefaults :=
  Text.occursIn_iff

/-- The path of the defaults file is that of the last import that names it. -/
theorem lastBrought_defaultsPath (p : Project) : LastBrought p.imports p.defaultsPath := by
  have hnot (i : Import) : i.bringsDefaults = false ↔ ¬ i.NamesDefaults := by
    rw [← bringsDefaults_iff, Bool.not_eq_true]
  rw [defaultsPath, ← List.getLast?_filter]
  cases hlast : (p.imports.filter Import.bringsDefaults).getLast? with
  | some i =>
    obtain ⟨hi, front, back, himports, hback⟩ := getLast?_filter_eq_some_iff.1 hlast
    rw [himports]
    exact .last front back ((bringsDefaults_iff i).1 hi) fun j hj => (hnot j).1 (hback j hj)
  | none =>
    have hnil := List.filter_eq_nil_iff.1 (List.getLast?_eq_none_iff.1 hlast)
    exact .none fun i hi => (hnot i).1 (by simpa using hnil i hi)

theorem listedBy_ofElement (d : Document) :
    ListedBy d (compileFiles (Node.ofElement d)) (imports (Node.ofElement d))
      (defaultsPath (Node.ofElement d)) where
  files := compileFiles_ofElement d
  imports := imports_ofElement d
  defaultsPath := imports_ofElement d ▸ lastBrought_defaultsPath (Node.ofElement d)

/-- **Files and imports keep document order**, from the document of a project to the report on it:
none is lost, none comes twice, and nothing that stands between them matters. -/
theorem listed_in_document_order (d : Document) (h : d.name.stem = "Project") :
    ∃ p : Project, (Node.ofDocument d).child? "Project" = some p ∧
      ListedBy d p.compileFiles p.imports p.defaultsPath ∧
      ∀ (r : Resolver) (q : Request), r.read q.projectFile = .ok (Node.ofDocument d) →
        ∃ report, r.resolve q = .ok report ∧
          ListedBy d report.files report.details.imports report.details.defaultsPath := by
  have hroot : (Node.ofDocument d).child? "Project" = some (Node.ofElement d) := by
    rw [Node.ofDocument_eq, h, Node.child?, Node.under_push_self]
    rfl
  refine ⟨Node.ofElement d, hroot, listedBy_ofElement d, fun r q hread => ?_⟩
  have hp : r.readProject q = .ok (Node.ofElement d) :=
    Resolver.readProject_eq_ok_iff.2 ⟨_, hread, hroot⟩
  exact ⟨_, Resolver.resolve_of_readProject hp, listedBy_ofElement d⟩

/-- A root element with its items in two groups, of which the second has a file of the first again
and an item without one. Between them stand other items, a comment, and an import without any
attribute and one with two. -/
def trialDocument : Document :=
  let element (stem : String) (attributes : List (String × String)) (content : List Item) : Item :=
    .element ⟨none, stem⟩ (attributes.map fun a => ⟨⟨none, a.1⟩, a.2⟩) content
  let compile (path : String) : Item := element "TypeScriptCompile" [("Include", path)] []
  { name := ⟨some "msbuild", "Project"⟩
    attributes := []
    content :=
      [element "Import" [] [],
        element "ItemGroup" []
          [compile "src\\b.ts", element "None" [("Include", "x.ts")] [], compile "a.ts"],
        .comment "more",
        element "Import" [("Condition", "c"), ("Project", "Microsoft.TypeScript.Default.props")] [],
        element "ItemGroup" [] [.text "\n", element "TypeScriptCompile" [] [], compile "a.ts"]] }

/-- The files and the imports of the trial, as a report on it lists them. -/
theorem listed_in_document_order_trial :
    trialDocument.name.stem = "Project" ∧
    ∃ report, ({ read := fun _ => .ok (Node.ofDocument trialDocument), present := fun _ => false } :
        Resolver).resolve { projectFile := "a.csproj" } = .ok report ∧
      report.files = ["src/b.ts", "a.ts", "a.ts"] ∧
      report.details.imports = [⟨"Microsoft.TypeScript.Default.props", some "c"⟩] ∧
      LastBrought report.details.imports report.details.defaultsPath := by
  have hstem : trialDocument.name.stem = "Project" := rfl
  obtain ⟨p, -, -, hresolve⟩ := listed_in_document_order trialDocument hstem
  obtain ⟨report, hok, hlisted⟩ := hresolve
    { read := fun _ => .ok (Node.ofDocument trialDocument), present := fun _ => false }
    { projectFile := "a.csproj" } rfl
  have hfiles : trialDocument.compiledFiles = ["src/b.ts", "a.ts", "a.ts"] := by decide +kernel
  have himports : trialDocument.imports =
      [⟨"Microsoft.TypeScript.Default.props", some "c"⟩] := by decide +kernel
  exact ⟨hstem, report, hok, hlisted.files.trans hfiles, hlisted.imports.trans himports,
    hlisted.imports ▸ hlisted.defaultsPath⟩

end Project

end TypeScriptBuild
