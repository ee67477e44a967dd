import TypeScriptBuild.Text.Basic

/-!
# Versions

Semantic versions: three numbers of 64 bits, pre-release identifiers and build identifiers. The
order is that of precedence, refined by the build identifiers so that only equal versions compare
as equal: the numbers decide first, then a version with pre-release identifiers comes before the
one without, and a version without build identifiers comes before one with them.

* `Version`: the type, with its order.
* `Version.compareIdentifiers`: the order of two identifiers.
* `Version.release`: the three numbers alone.
* `Version.toText`: the written form.
* `Version.number?`: one of the three numbers.
* `Version.identifiers?`: a list of identifiers between dots.
* `Version.read?`: a whole version.
* `Version.assumed`: the version where none is given or can be read.
* `Version.core`: what is left of a text without its mark and its pre-release.
* `Version.normalize`: the version that a text stands for.
-/

namespace TypeScriptBuild

open Text

/-- A semantic version. -/
structure Version where
  major : UInt64
  minor : UInt64
  patch : UInt64
  pre : List String := []
  build : List String := []
  deriving DecidableEq, Repr, Inhabited

namespace Version

/-! ## Order -/

/-- Numbers come before other identifiers and in the order of their values, the one with fewer
leading zeros first; other identifiers are ordered as texts. -/
def compareIdentifiers (a b : String) : Ordering :=
  match decimal? a.toList, decimal? b.toList with
  | some m, some n => (compare m n).then (compare a.length b.length)
  | some _, none => .lt
  | none, some _ => .gt
  | none, none => compare a b

/-- Lists of identifiers are compared from the left, and a list comes before its extensions. -/
def compareLists : List String → List String → Ordering
  | [], [] => .eq
  | [], _ :: _ => .lt
  | _ :: _, [] => .gt
  | a :: as, b :: bs => (compareIdentifiers a b).then (compareLists as bs)

/-- Pre-release identifiers are compared as lists, but none at all comes last. -/
def comparePre : List String → List String → Ordering
  | [], [] => .eq
  | [], _ :: _ => .gt
  | _ :: _, [] => .lt
  | as, bs => compareLists as bs

instance : Ord Version where
  compare v w :=
    (compare v.major w.major).then <| (compare v.minor w.minor).then <|
      (compare v.patch w.patch).then <| (comparePre v.pre w.pre).then <|
        compareLists v.build w.build

instance : LT Version := ltOfOrd

instance : LE Version := leOfOrd

/-! ## Written form -/

/-- The three numbers of a version alone. -/
def release (v : Version) : Version :=
  ⟨v.major, v.minor, v.patch, [], []⟩

/-- Identifiers behind the mark that introduces them, or nothing if there are none. -/
def introduced (mark : String) : List String → String
  | [] => ""
  | ids => mark ++ ".".intercalate ids

/-- The written form of a version. -/
def toText (v : Version) : String :=
  toString v.major.toNat ++ "." ++ toString v.minor.toNat ++ "." ++ toString v.patch.toNat ++
    introduced "-" v.pre ++ introduced "+" v.build

/-!
## Reading versions

The strict reading of a semantic version. A number has no superfluous zeros and fits 64 bits; an
identifier is a non-empty run of ASCII letters, digits and hyphens, and a pre-release identifier
made of digits is a number without superfluous zeros, of any size.
-/

/-- A numeral has no superfluous zeros if it is `0` or does not begin with a zero. -/
def isPlain (s : List Char) : Bool :=
  s.head? != some '0' || s.length == 1

/-- One of the three numbers of a version. -/
def number? (s : List Char) : Option UInt64 :=
  if isPlain s then
    (decimal? s).bind fun n => if h : n < UInt64.size then some (UInt64.ofNatLT n h) else none
  else none

/-- The characters of identifiers. -/
def isIdentifierChar (c : Char) : Bool :=
  c.isAlphanum || c == '-'

/-- Identifiers between dots, each of them accepted by `fits`. -/
def identifiers? (fits : List Char → Bool) (s : List Char) : Option (List String) :=
  let ids := s.splitOn '.'
  if ids.all fun i => i ≠ [] ∧ i.all isIdentifierChar ∧ fits i then
    some (ids.map String.ofList)
  else none

/-- Whether a pre-release identifier has no superfluous zeros; only numbers can have them. -/
def isPlainPre (s : List Char) : Bool :=
  isPlain s || !s.all Char.isDigit

/-- A text cut at the first `mark`, with nothing behind the mark if it does not occur. -/
def cutOptional (mark : Char) (s : List Char) : List Char × Option (List Char) :=
  match cutAt [mark] s with
  | none => (s, none)
  | some (before, after) => (before, some after)

/-- Identifiers that may be missing together with their mark. -/
def optionalIdentifiers? (fits : List Char → Bool) : Option (List Char) → Option (List String)
  | none => some []
  | some s => identifiers? fits s

/-- The version that a text denotes in the strict reading. -/
def read? (s : List Char) : Option Version := do
  let (numbers, build) := cutOptional '+' s
  let (numbers, pre) := cutOptional '-' numbers
  let [major, minor, patch] := numbers.splitOn '.' | none
  return {
    major := ← number? major
    minor := ← number? minor
    patch := ← number? patch
    pre := ← optionalIdentifiers? isPlainPre pre
    build := ← optionalIdentifiers? (fun _ => true) build }

/-!
## Versions as people write them

A project names its compiler version in many ways: with a leading `v` or `=`, with a pre-release
behind it, with one or two numbers only. `Version.normalize` makes three numbers of all of them
and never fails: what cannot be read stands for the version assumed when none is given.
-/

/-- The version assumed when none is given or the given one cannot be read. -/
def assumed : Version :=
  ⟨1, 6, 2, [], []⟩

theorem assumed_eq : assumed = ⟨1, 6, 2, [], []⟩ :=
  rfl

/-- The text without one `mark` in front of it. -/
def dropMark (mark : Char) : List Char → List Char
  | [] => []
  | c :: cs => if c = mark then cs else c :: cs

/-- A text without its leading marks and without all from the first hyphen on. -/
def core (s : List Char) : List Char :=
  (dropMark 'v' (dropMark '=' s)).takeWhile (· != '-')

/-- The version that a text stands for: its numbers, where up to two may be missing and count as
zero. Pre-release and build are dropped. -/
def normalize (raw : Option String) : Version :=
  match trim ((raw.getD "").toList) with
  | [] => assumed
  | s =>
    let numbers := core s
    match [numbers, numbers ++ ['.', '0'], numbers ++ ['.', '0', '.', '0']].findSome? read? with
    | some v => v.release
    | none => assumed

end Version

end TypeScriptBuild
