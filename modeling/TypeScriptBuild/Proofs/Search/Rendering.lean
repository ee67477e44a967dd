import TypeScriptBuild.Proofs.Fragment
import TypeScriptBuild.Search

/-!
# What stands in a rendered path

A template is cut, from left to right, into references and the text between them. The path has the
value of a known variable in the place of every reference to it, and all else as it is written, with
one exception: a reference to another variable that no parenthesis closes is closed in the path.

* `Template.Segment`, `Template.Cut`: the parts of a template as they stand in its text.
* `Template.Segment.filled`: what should stand in the path for a part.
* `Template.render_of_cut`: what stands there; `Template.closing` is the parenthesis that is added.
* `Template.foreignOpen_rendered_closed`: a template that refers to no known variable and still is
  not its own path.
-/

namespace TypeScriptBuild

open Fragment (Markless Scan ofText)

/-- The value of a variable, if it is one of the two that are known. -/
def Variables.value? (vars : Variables) (name : String) : Option String :=
  if name = "VisualStudioVersion" then some vars.visualStudioVersion
  else if name = "MSBuildExtensionsPath32" then some vars.extensionsPath
  else none

namespace Template

/-- Whether a variable is one of the two that are known. -/
def isKnown (name : String) : Bool :=
  name == "VisualStudioVersion" || name == "MSBuildExtensionsPath32"

/-! ## Segments -/

/-- A part of a template as it stands in the text. -/
inductive Segment where
  | text (s : String)
  | reference (name : String)
  /-- A reference that no parenthesis closes: it runs to the end of the template. -/
  | opened (name : String)
  deriving DecidableEq, Repr

namespace Segment

/-- A segment, character for character. -/
def written : Segment → String
  | .text s => s
  | .reference name => "$(" ++ name ++ ")"
  | .opened name => "$(" ++ name

/-- The name that a segment refers to. -/
def name? : Segment → Option String
  | .text _ => none
  | .reference name => some name
  | .opened name => some name

/-- The value that a segment refers to, or the segment as it is written if it refers to none that is
known. -/
def filled (vars : Variables) (seg : Segment) : String :=
  (seg.name?.bind vars.value?).getD seg.written

/-- Whether a segment is a reference to an unknown variable that no parenthesis closes. -/
def isForeignOpen : Segment → Bool
  | .opened name => !isKnown name
  | _ => false

end Segment

/-- A template is cut into segments: literal text up to the next mark, a name up to the first
closing parenthesis behind it or to the end, and again from there. -/
inductive Cut : List Char → List Segment → Prop
  | text {lit : List Char} (hlit : Markless lit) : Cut lit [.text (.ofList lit)]
  | opened {lit name : List Char} (hlit : Markless lit) (hname : ')' ∉ name) :
    Cut (lit ++ '$' :: '(' :: name) [.text (.ofList lit), .opened (.ofList name)]
  | closed {lit name rest : List Char} {segs : List Segment} (hlit : Markless lit)
    (hname : ')' ∉ name) (hrest : Cut rest segs) :
    Cut (lit ++ '$' :: '(' :: (name ++ ')' :: rest))
      (.text (.ofList lit) :: .reference (.ofList name) :: segs)

/-- What is added behind the segments in the path. -/
def closing (segs : List Segment) : String :=
  if segs.any Segment.isForeignOpen then ")" else ""

variable {raw lit name : List Char} {segs : List Segment} (vars : Variables)

/-- **Every template is cut into segments.** -/
theorem exists_cut (raw : List Char) : ∃ segs, Cut raw segs := by
  obtain ⟨fs, hscan⟩ := Fragment.exists_scan raw
  induction hscan with
  | text hlit => exact ⟨_, .text hlit⟩
  | unclosed hlit hname => exact ⟨_, .opened hlit hname⟩
  | closed hlit hname _ ih =>
    obtain ⟨segs, hsegs⟩ := ih
    exact ⟨_, .closed hlit hname hsegs⟩

/-- The segments make up the template. -/
theorem Cut.join_written (h : Cut raw segs) :
    String.join (segs.map Segment.written) = .ofList raw := by
  induction h with
  | text hlit => simp [Segment.written]
  | opened hlit hname => simp [Segment.written, ← String.toList_inj]
  | closed hlit hname hrest ih => simp [Segment.written, ih, ← String.toList_inj]

/-! ## Rendering -/

theorem value?_eq_none_iff {vars : Variables} {name : String} :
    vars.value? name = none ↔ isKnown name = false := by
  rw [Variables.value?, isKnown]
  by_cases hversion : name = "VisualStudioVersion"
  · simp [hversion]
  · by_cases hpath : name = "MSBuildExtensionsPath32" <;> simp [hversion, hpath]

theorem render_reference (name : String) :
    Fragment.render vars (.reference name) =
      (vars.value? name).getD (Segment.reference name).written := by
  rw [Fragment.render, Variables.value?]
  split_ifs <;> rfl

theorem filled_text (s : String) : Segment.filled vars (.text s) = s :=
  rfl

theorem filled_of_foreign {seg : Segment} (h : ∀ name ∈ seg.name?, isKnown name = false) :
    seg.filled vars = seg.written := by
  rw [Segment.filled]
  cases hname : seg.name? with
  | none => rfl
  | some name =>
    have hvalue : vars.value? name = none := value?_eq_none_iff.2 (h name hname)
    rw [Option.bind_some, hvalue, Option.getD_none]

theorem filled_reference (name : String) :
    Segment.filled vars (.reference name) = Fragment.render vars (.reference name) :=
  (render_reference vars name).symm

/-- A reference that is not closed is rendered like one that is: to an unknown variable, with the
parenthesis. -/
theorem filled_opened (name : String) :
    Segment.filled vars (.opened name) ++ closing [.opened name] =
      Fragment.render vars (.reference name) := by
  rw [render_reference, closing, List.any_cons, List.any_nil, Bool.or_false, Segment.isForeignOpen]
  cases h : vars.value? name with
  | none =>
    rw [value?_eq_none_iff.1 h]
    simp [Segment.filled, Segment.name?, h, Segment.written]
  | some v =>
    have hknown : isKnown name = true := by
      refine eq_true_of_ne_false fun hforeign => ?_
      rw [value?_eq_none_iff.2 hforeign] at h
      cases h
    rw [hknown]
    simp [Segment.filled, Segment.name?, h]

theorem join_render_ofText_append (lit : List Char) (fs : List Fragment) :
    String.join ((ofText lit ++ fs).map (Fragment.render vars)) =
      .ofList lit ++ String.join (fs.map (Fragment.render vars)) := by
  by_cases hne : lit = []
  · simp [ofText, hne]
  · rw [ofText, if_neg hne, List.singleton_append, List.map_cons, String.join_cons, Fragment.render]

/-- **Rendering fills the segments** one after the other, and closes what is left open. -/
theorem Cut.join_render (h : Cut raw segs) :
    String.join ((Fragment.splitText [] raw).map (Fragment.render vars)) =
      String.join (segs.map (Segment.filled vars)) ++ closing segs := by
  induction h with
  | @text lit hlit =>
    have hfs := join_render_ofText_append vars lit []
    rw [List.append_nil] at hfs
    rw [Fragment.splitText_of_scan (.text hlit), hfs]
    simp [filled_text, closing, Segment.isForeignOpen]
  | @opened lit name hlit hname =>
    rw [Fragment.splitText_of_scan (.unclosed hlit hname), join_render_ofText_append]
    have hclosing : closing [.text (.ofList lit), .opened (.ofList name)] =
        closing [.opened (.ofList name)] := rfl
    simp only [List.map_cons, List.map_nil, String.join_cons, String.join_nil, String.append_empty,
      filled_text, String.append_assoc]
    rw [hclosing, filled_opened]
  | @closed lit name rest segs hlit hname hrest ih =>
    obtain ⟨fs, hscan⟩ := Fragment.exists_scan rest
    rw [Fragment.splitText_of_scan hscan] at ih
    rw [Fragment.splitText_of_scan (.closed hlit hname hscan), join_render_ofText_append]
    have hclosing : closing (.text (.ofList lit) :: .reference (.ofList name) :: segs) =
        closing segs := rfl
    simp only [List.map_cons, String.join_cons, filled_text, filled_reference, String.append_assoc]
    rw [hclosing, ih]

/-- **A path has the values of the known variables in the place of the references to them**, and all
else character for character as its template has it; the values are not looked at again. Where no
variable is known this is the template itself. The exception is a reference to an unknown variable
that no parenthesis closes: it is closed in the path. -/
theorem render_of_cut (t : Template) (vars : Variables) :
    (∃ segs, Cut t.raw.toList segs) ∧
    ∀ segs, Cut t.raw.toList segs →
      String.join (segs.map Segment.written) = t.raw ∧
      t.render vars = String.join (segs.map (Segment.filled vars)) ++ closing segs ∧
      ((∀ seg ∈ segs, ∀ name ∈ seg.name?, isKnown name = false) →
        t.render vars = t.raw ++ closing segs) := by
  refine ⟨exists_cut _, fun segs hcut => ?_⟩
  have hwritten : String.join (segs.map Segment.written) = t.raw := by
    rw [hcut.join_written, String.ofList_toList]
  have hrender : t.render vars = String.join (segs.map (Segment.filled vars)) ++ closing segs :=
    hcut.join_render vars
  refine ⟨hwritten, hrender, fun hforeign => ?_⟩
  have hfilled : segs.map (Segment.filled vars) = segs.map Segment.written :=
    List.map_congr_left fun seg hseg => filled_of_foreign vars (hforeign seg hseg)
  rw [hrender, hfilled, hwritten]

/-- What is brought in is not looked at again, though it looks like a reference. -/
example : render ⟨"$(Other)$(VisualStudioVersion)"⟩ ⟨"$(MSBuildExtensionsPath32)", "p"⟩ =
    "$(Other)$(MSBuildExtensionsPath32)" := by
  decide +kernel

/-- An open reference to an unknown variable: its path is not the template, to which the parenthesis
is added. -/
theorem foreignOpen_rendered_closed :
    let t : Template := ⟨"$(X"⟩
    let vars : Variables := ⟨"14.0", "/MSBuild/"⟩
    let segs := [Segment.text "", .opened "X"]
    Cut t.raw.toList segs ∧ (∀ seg ∈ segs, ∀ name ∈ seg.name?, isKnown name = false) ∧
      String.join (segs.map (Segment.filled vars)) = t.raw ∧ t.render vars = "$(X)" ∧
      t.render vars ≠ t.raw := by
  intro t vars segs
  have hraw : t.raw.toList = [] ++ '$' :: '(' :: ['X'] := by decide +kernel
  have hcut : Cut t.raw.toList segs := by
    rw [hraw]
    exact .opened Fragment.markless_nil (by decide)
  exact ⟨hcut, by decide +kernel⟩

end Template

end TypeScriptBuild
