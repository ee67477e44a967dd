import TypeScriptBuild.Text.Basic
import TypeScriptBuild.Text.Shown

/-!
# Conditions

A property group, and a property in it, may stand under a condition. A condition is looked at in two
ways. It applies to a selection if it is spelled as one of two texts, without being evaluated; and
it is read as a comparison of two quoted texts, which may refer to variables, to see whether it
guards a default or binds variables to values.

* `Fragment`: the fragments, with `Fragment.written` and `Fragment.writtenAll` for their text.
* `Fragment.split`: the fragments of a text.
* `Condition.withoutBlanks`: a condition without its blanks.
* `Selection.spellings`: the two texts that select a pair.
* `Selection.accepts`: whether a condition applies.
* `Comparison`: two sides and an operator.
* `Comparison.isUnsetCheck`: whether it asks if a variable is empty.
* `Comparison.bindings?`: the variables it binds, each with its value.
* `Comparison.read`: the comparison that a condition denotes.
* `Refusal`: where a condition is refused, with `Refusal.message`.
-/

namespace TypeScriptBuild

open Text

/-!
## Texts with references

Conditions and import paths may refer to variables: `$(Name)` stands for the value of `Name`. Such
a text is split into fragments, which are literal text or references. A reference runs to the
first closing parenthesis behind its mark, or to the end of the text if there is none, and what
looks like a reference inside it is part of its name.
-/

/-- A fragment of a text: literal text, or a reference to a variable. -/
inductive Fragment where
  | literal (s : String)
  | reference (name : String)
  deriving DecidableEq, Repr, Inhabited

namespace Fragment

/-- A fragment as it is written. -/
def written : Fragment → String
  | .literal s => s
  | .reference name => "$(" ++ name ++ ")"

/-- Fragments as they are written one after the other. -/
def writtenAll (fs : List Fragment) : String :=
  String.join (fs.map written)

/-- The literal text read so far, newest character first, as a fragment unless it is empty. -/
def pending : List Char → List Fragment
  | [] => []
  | cs => [.literal (.ofList cs.reverse)]

mutual

/-- The fragments of a text from outside a reference, behind the literal text read so far. -/
def splitText (read : List Char) : List Char → List Fragment
  | [] => pending read
  | '$' :: '(' :: cs => pending read ++ splitName [] cs
  | c :: cs => splitText (c :: read) cs

/-- The fragments of a text from inside a reference, behind the part of its name read so far. -/
def splitName (read : List Char) : List Char → List Fragment
  | [] => [.reference (.ofList read.reverse)]
  | ')' :: cs => .reference (.ofList read.reverse) :: splitText [] cs
  | c :: cs => splitName (c :: read) cs

end

/-- The fragments of a text, in order. -/
def split (s : String) : List Fragment :=
  splitText [] s.toList

end Fragment

/-!
## Selections

Settings are resolved for one configuration and one platform, the selection. A condition applies to
a selection if, its blanks left out, it is one of two texts; nothing is evaluated, and letters count
as they are written.
-/

/-- A condition without its blanks. -/
def Condition.withoutBlanks (condition : String) : String :=
  .ofList (condition.toList.filter fun c => !isBlank c)

/-- The configuration and the platform that settings are resolved for. -/
structure Selection where
  configuration : String
  platform : String
  deriving DecidableEq, Repr, Inhabited

/-- The two conditions that select a pair: by the configuration alone and by both names. -/
def Selection.spellings (s : Selection) : List String :=
  ["'$(Configuration)'=='" ++ s.configuration ++ "'",
    "'$(Configuration)|$(Platform)'=='" ++ s.configuration ++ "|" ++ s.platform ++ "'"]

/-- Whether a condition applies to a selection. -/
def Selection.accepts (s : Selection) (condition : String) : Bool :=
  s.spellings.contains (Condition.withoutBlanks condition)

/-!
## Comparisons

A condition is usually a comparison of two quoted texts with references. Two kinds of comparison
mean something to a reader of projects: the guard of a property's own default, which asks whether
the property is still empty, and the equation that binds variables to values.
-/

/-- The operators of comparisons. -/
inductive Operator where
  | equal
  | notEqual
  deriving DecidableEq, Repr, Inhabited

/-- A comparison of two texts. -/
structure Comparison where
  left : List Fragment
  operator : Operator
  right : List Fragment
  deriving DecidableEq, Repr, Inhabited

/-- Literal text made of blanks alone, such as the space around a reference. -/
def Fragment.isPadding : Fragment → Bool
  | .literal s => allBlank s
  | .reference _ => false

namespace Comparison

/-- The fragments that are no padding. -/
def significant (fs : List Fragment) : List Fragment :=
  fs.filter fun f => !f.isPadding

/-- Whether the comparison asks if `name` is empty. -/
def isUnsetCheck (c : Comparison) (name : String) : Bool :=
  c.operator == .equal && significant c.right == [] && significant c.left == [.reference name]

/-- The names that fragments refer to, between any number of bars; other text is refused. -/
def names? : List Fragment → Option (List String)
  | [] => some []
  | .reference name :: fs => (name :: ·) <$> names? fs
  | .literal s :: fs => if trim s.toList = ['|'] then names? fs else none

/-- The text of fragments without a reference. -/
def literalText? : List Fragment → Option (List Char)
  | [] => some []
  | .literal s :: fs => (s.toList ++ ·) <$> literalText? fs
  | .reference _ :: _ => none

/-- The values between bars, each without the blanks around it. -/
def values (text : List Char) : List String :=
  (text.splitOn '|').map fun piece => .ofList (trim piece)

/-- The variables on the left, each with its value on the right: of an equation with as many values
as variables, and at least one. -/
def bindings? (c : Comparison) : Option (List (String × String)) :=
  if c.operator = .equal then do
    let names ← names? (significant c.left)
    let values := values (← literalText? c.right)
    if names ≠ [] ∧ names.length = values.length then some (names.zip values) else none
  else none

end Comparison

/-!
## Reading comparisons

A condition denotes a comparison if it consists of a quoted text, an operator and a quoted text,
with blanks before, between and behind them and nothing else. A quoted text runs from an apostrophe
to the next one. What is refused is refused at a definite place: the text up to there is the
beginning of some comparison, and no comparison begins with one character more.
-/

namespace Comparison

/-- A quoted text in front of a text and what follows it, or the text from where it is refused. -/
def readQuoted : List Char → Except (List Char) (List Char × List Char)
  | '\'' :: cs =>
    match cs.dropWhile (· != '\'') with
    | _ :: rest => .ok (cs.takeWhile (· != '\''), rest)
    | [] => .error []
  | cs => .error cs

/-- An operator in front of a text and what follows it, or the text from where it is refused: the
first character of an operator decides which one it has to be. -/
def readOperator : List Char → Except (List Char) (Operator × List Char)
  | '=' :: '=' :: rest => .ok (.equal, rest)
  | '!' :: '=' :: rest => .ok (.notEqual, rest)
  | '=' :: rest => .error rest
  | '!' :: rest => .error rest
  | cs => .error cs

/-- The comparison that a text denotes, or the text from where it is refused. -/
def readChars (s : List Char) : Except (List Char) Comparison := do
  let (left, s) ← readQuoted (dropBlanks s)
  let (operator, s) ← readOperator (dropBlanks s)
  let (right, s) ← readQuoted (dropBlanks s)
  match dropBlanks s with
  | [] => .ok ⟨Fragment.split (.ofList left), operator, Fragment.split (.ofList right)⟩
  | rest => .error rest

end Comparison

/-- Where a condition is refused: behind the beginning of a comparison, with the rest ahead. -/
structure Refusal where
  viable : List Char
  rest : List Char
  deriving DecidableEq, Repr, Inhabited

/-- What a refusal says: the character that was met and its place in bytes, or the end. -/
def Refusal.message (r : Refusal) : String :=
  let start := bytes r.viable
  "Failed to parse condition '" ++ String.ofList (r.viable ++ r.rest) ++ "': found " ++
    match r.rest with
    | [] => "end of input at " ++ toString start ++ ".." ++ toString start
    | c :: _ => "''" ++ shown c ++ "'' at " ++ toString start ++ ".." ++
        toString (start + c.utf8Size)

/-- The comparison that a condition denotes. -/
def Comparison.read (condition : String) : Except Refusal Comparison :=
  let s := condition.toList
  (readChars s).mapError fun rest => ⟨s.take (s.length - rest.length), rest⟩

end TypeScriptBuild
