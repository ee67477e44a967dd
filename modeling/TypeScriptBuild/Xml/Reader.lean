import TypeScriptBuild.Text.Basic
import TypeScriptBuild.Xml.Token

/-!
# Reading documents

The document that a text denotes. Its tokens are taken one by one with a stack of the elements
that are open, so that a closing tag is held against the innermost of them.

* `Name`: a local name with the namespace it is in.
* `Item`: one piece of content.
* `Document`: the root element.
* `Item.texts`: the stretches of text in a content, in order.
* `Item.hasElement`: whether there is an element in it.
* `Piece`: a character as written or out of a reference.
* `Piece.list`: the pieces of a written text.
* `Piece.inText`, `Piece.inValue`: what they read as in text and in the value of an attribute.
* `withLineFeeds`: what the inside of a literal section, which has no references, reads as.
* `Scope`: the bindings that an element sees.
* `separate`: the bindings among an element's attributes, and the attributes proper.
* `Scope.expand`, `Scope.expandAttribute`, `Scope.expandAttributes`: names with their prefixes
  replaced.
* `Open`: an element whose closing tag has not been read.
* `Document.ofTokens?`: the document of a list of tokens.
* `Document.read`: the document of a text.
-/

namespace TypeScriptBuild.Xml

open Text

/-!
## Documents

A document is its root element. An element has an expanded name, its attributes in the order in
which they are written, and its content in document order: elements, stretches of text, comments
and processing instructions. Prefixes are gone at this stage, each name holding the namespace it
was bound to.
-/

/-- A name and the namespace it belongs to, if any. -/
structure Name where
  space : Option String
  stem : String
  deriving DecidableEq, Repr, Inhabited

/-- An attribute with its value as it reads after references and line ends. -/
structure Attribute where
  name : Name
  value : String
  deriving DecidableEq, Repr, Inhabited

/-- A piece of an element's content. -/
inductive Item where
  | element (name : Name) (attributes : List Attribute) (content : List Item)
  | text (s : String)
  | comment (s : String)
  | instruction (target : String)
  deriving Inhabited

/-- A whole document, which is its root element. -/
structure Document where
  name : Name
  attributes : List Attribute
  content : List Item
  deriving Inhabited

/-- The stretches of text that stand directly in a content, in document order. -/
def Item.texts : List Item → List String
  | [] => []
  | .text s :: items => s :: texts items
  | _ :: items => texts items

/-- Whether an element stands directly in a content. -/
def Item.hasElement : List Item → Bool
  | [] => false
  | .element _ _ _ :: _ => true
  | _ :: items => hasElement items

/-!
## References and line ends

The characters that a written text stands for. A reference stands for one character and is never
changed afterwards; the characters around it are subject to the rules on line ends: in text a
carriage return, alone or with the line feed behind it, reads as a line feed, and in the value of
an attribute each line end and each tab reads as a space.
-/

/-- A character of a written text. -/
inductive Piece where
  | written (c : Char)
  | referenced (c : Char)
  deriving DecidableEq, Repr

/-- The character with the given number. A surrogate or a number beyond the last character reads
as the replacement character, and no number of more than 32 bits is read at all. -/
def numbered? (n : Nat) : Option Char :=
  if n < UInt32.size then
    let c := if h : n.isValidChar then Char.ofNatAux n h else '\uFFFD'
    if isAllowed c then some c else none
  else none

/-- The character that a reference stands for, given what is written between `&` and `;`. -/
def referenced? : List Char → Option Char
  | '#' :: 'x' :: digits => (hexadecimal? digits).bind numbered?
  | '#' :: digits => (decimal? digits).bind numbered?
  | ['l', 't'] => some '<'
  | ['g', 't'] => some '>'
  | ['a', 'm', 'p'] => some '&'
  | ['q', 'u', 'o', 't'] => some '"'
  | ['a', 'p', 'o', 's'] => some '\''
  | _ => none

/-- The pieces of a written text, from outside a reference or, if `inside` holds what has been read
of one, newest first, from inside it. -/
def Piece.listFrom : Option (List Char) → List Char → Except Fault (List Piece)
  | none, [] => .ok []
  | none, '&' :: cs => listFrom (some []) cs
  | none, c :: cs => (.written c :: ·) <$> listFrom none cs
  | some _, [] => .error .reference
  | some inside, ';' :: cs =>
    match referenced? inside.reverse with
    | none => .error .reference
    | some c => (.referenced c :: ·) <$> listFrom none cs
  | some inside, c :: cs => listFrom (some (c :: inside)) cs

/-- The pieces of a written text. -/
def Piece.list (s : List Char) : Except Fault (List Piece) :=
  Piece.listFrom none s

/-- What pieces read as in text, where `afterReference` says whether a reference stands right in
front of them. A written carriage return next to a reference keeps its place in two cases: in front
of the reference, and behind it at the end of the text. -/
def Piece.inTextFrom (afterReference : Bool) : List Piece → List Char
  | [] => []
  | .referenced c :: ps => c :: inTextFrom true ps
  | .written '\r' :: .written '\n' :: ps => '\n' :: inTextFrom false ps
  | .written '\r' :: .written c :: ps => '\n' :: inTextFrom false (.written c :: ps)
  | .written '\r' :: .referenced c :: ps => '\r' :: c :: inTextFrom true ps
  | [.written '\r'] => [if afterReference then '\r' else '\n']
  | .written c :: ps => c :: inTextFrom false ps

/-- What pieces read as in text. -/
def Piece.inText (ps : List Piece) : List Char :=
  Piece.inTextFrom false ps

/-- What pieces read as in the value of an attribute. -/
def Piece.inValue : List Piece → List Char
  | [] => []
  | .referenced c :: ps => c :: inValue ps
  | .written '\r' :: .written '\n' :: ps => ' ' :: inValue ps
  | .written c :: ps =>
    (if c = '\r' ∨ c = '\n' ∨ c = '\t' then ' ' else c) :: inValue ps

/-- What the inside of a literal section reads as. -/
def withLineFeeds (s : List Char) : List Char :=
  Piece.inText (s.map .written)

/-!
## Namespaces

A prefix stands for a namespace, bound by the element it is used on or by one around it. Bindings
are written as attributes, but are none.
-/

/-- Bindings of prefixes to namespaces, the innermost first; the default namespace is bound to no
prefix. -/
abbrev Scope := List (Option String × String)

/-- The namespace of the prefix `xml`, which attributes may use without binding it. -/
def xmlSpace : String := "http://www.w3.org/XML/1998/namespace"

/-- The namespace of the prefix `xmlns`, which nothing may be bound to. -/
def bindingSpace : String := "http://www.w3.org/2000/xmlns/"

/-- The binding of `pre` to `space`, if the rules allow it beside the element's `earlier` ones. The
binding of `xml` may be repeated and adds nothing. -/
def bindPrefix (earlier : Scope) (pre space : String) : Except Fault Scope :=
  if space = bindingSpace then .error .binding
  else if (pre == "xml") != (space == xmlSpace) then .error .binding
  else if (earlier.lookup (some pre)).isSome then .error .binding
  else if space = xmlSpace then .ok earlier
  else .ok (earlier ++ [(some pre, space)])

/-- The binding of the default namespace to `space`, if the rules allow it. -/
def bindDefault (earlier : Scope) (space : String) : Except Fault Scope :=
  if space = bindingSpace ∨ space = xmlSpace then .error .binding
  else .ok (earlier ++ [(none, space)])

/-- The bindings among an element's attributes and the attributes proper. -/
def separate (attributes : List (QName × String)) :
    Except Fault (Scope × List (QName × String)) :=
  attributes.foldlM (fun (scope, proper) (name, value) => do
    if name.pre = "xmlns" then return (← bindPrefix scope name.stem value, proper)
    else if name.stem = "xmlns" then return (← bindDefault scope value, proper)
    else return (scope, proper ++ [(name, value)])) ([], [])

/-- The namespace that a non-empty prefix is bound to. -/
def Scope.space (scope : Scope) (pre : String) : Except Fault String :=
  match scope.lookup (some pre) with
  | some space => .ok space
  | none => .error .unboundPrefix

/-- The name of an element: without a prefix it is in the default namespace. The prefix `xml` is for
attributes alone, so that on an element it is one that nothing binds. -/
def Scope.expand (scope : Scope) (name : QName) : Except Fault Name :=
  if name.pre = "xmlns" then .error .binding
  else if name.pre = "" then .ok ⟨scope.lookup none, name.stem⟩
  else return ⟨some (← scope.space name.pre), name.stem⟩

/-- The name of an attribute: without a prefix it is in no namespace, and the prefix `xml` needs no
binding. -/
def Scope.expandAttribute (scope : Scope) (name : QName) : Except Fault Name :=
  if name.pre = "" then .ok ⟨none, name.stem⟩
  else if name.pre = "xml" then .ok ⟨some xmlSpace, name.stem⟩
  else return ⟨some (← scope.space name.pre), name.stem⟩

/-- The attributes proper of an element, no two of which have the same name. -/
def Scope.expandAttributes (scope : Scope) (attributes : List (QName × String)) :
    Except Fault (List Attribute) :=
  attributes.foldlM (fun earlier (name, value) => do
    let expanded ← scope.expandAttribute name
    if earlier.any (·.name == expanded) then .error .duplicate
    else return earlier ++ [⟨expanded, value⟩]) []

/-! ## The elements that are open -/

/-- An element that is still open, with its tag as written, the bindings it sees and the content
read so far, newest first. -/
structure Open where
  written : QName
  name : Name
  attributes : List Attribute
  scope : Scope
  content : List Item

/-- The element once its closing tag is read. -/
def Open.close (element : Open) : Document :=
  ⟨element.name, element.attributes, element.content.reverse⟩

/-- A document as a piece of content. -/
def Document.toItem (d : Document) : Item :=
  .element d.name d.attributes d.content

/-- What the reader holds between tokens: the open elements, innermost first, and the root element
once it is complete. -/
structure Progress where
  opened : List Open
  root : Option Document

/-- A piece of content added to the innermost open element. -/
def Progress.add (p : Progress) (item : Item) : Progress :=
  match p.opened with
  | [] => p
  | e :: es => { p with opened := { e with content := item :: e.content } :: es }

/-- A complete element: the root element if none is open. -/
def Progress.complete (p : Progress) (d : Document) : Progress :=
  match p.opened with
  | [] => { p with root := some d }
  | _ => p.add d.toItem

/-- The element that an opening tag opens, in the scope around it. -/
def Open.ofTag (around : Scope) (name : QName) (attributes : List WrittenAttribute) :
    Except Fault Open := do
  let valued ← attributes.mapM fun a => do
    return (a.name, String.ofList (Piece.inValue (← Piece.list a.value)))
  let (own, proper) ← separate valued
  let scope := own ++ around
  return ⟨name, ← scope.expand name, ← scope.expandAttributes proper, scope, []⟩

/-- One token read. -/
def Progress.step (p : Progress) : Token → Except Fault Progress
  | .comment s => .ok (p.add (.comment (.ofList s)))
  | .instruction target => .ok (p.add (.instruction (.ofList target)))
  | .text written =>
    if p.opened.isEmpty then if written.all isSpace then .ok p else .error .outside
    else return p.add (.text (.ofList (Piece.inText (← Piece.list written))))
  | .literal written =>
    if p.opened.isEmpty then .error .outside
    else .ok (p.add (.text (.ofList (withLineFeeds written))))
  | .opening name attributes empty => do
    if p.opened.isEmpty ∧ p.root.isSome then .error .outside
    let around := (p.opened.head?.map (·.scope)).getD []
    let element ← Open.ofTag around name attributes
    if empty then return p.complete element.close
    else return { p with opened := element :: p.opened }
  | .closing name =>
    match p.opened with
    | [] => .error .mismatch
    | e :: es =>
      if e.written = name then .ok ({ p with opened := es }.complete e.close)
      else .error .mismatch

/-- The document of a list of tokens. -/
def Document.ofTokens? (tokens : List Token) : Except Fault Document := do
  let p ← tokens.foldlM Progress.step ⟨[], none⟩
  match p.opened, p.root with
  | [], some d => .ok d
  | [], none => .error .noRoot
  | _ :: _, _ => .error .unclosed

/-- The document of a text. A byte order mark in front of it is no part of it. -/
def Document.read (text : String) : Except Fault Document := do
  let s := match text.toList with
    | '\uFEFF' :: cs => cs
    | cs => cs
  if ¬ s.all isAllowed then .error .character
  let tokens ← Token.list (← skipDeclaration s)
  Document.ofTokens? tokens

end TypeScriptBuild.Xml
