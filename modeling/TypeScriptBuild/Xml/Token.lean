import TypeScriptBuild.Text.Basic

/-!
# Tokens of a document

The text of a document as a list of tokens: tags, stretches of text, sections of literal text,
comments and processing instructions. Names are still written with their prefixes, and references
in text and in attribute values are not yet replaced.

Each reader takes the text that lies ahead and gives back what it has read together with the text
behind it (`Front`), which is shorter; this is why the list of tokens is finite.

* `isAllowed`, `isSpace`: the productions `Char` and `S`.
* `isNameStart`, `isNameChar`: the productions `NameStartChar` and `NameChar`.
* `Fault`: the ways in which a document can be ill-formed.
* `QName`, `WrittenAttribute`, `Token`: what is read.
* `Token.read`: the first token of a non-empty text.
* `Token.list`: all of them.
* `skipDeclaration`: the text behind the declaration that may open a document.
-/

namespace TypeScriptBuild.Xml

open Text

/-!
## Characters

The character classes of XML 1.0, fifth edition: which characters a document may hold at all,
which of them separate the parts of a tag, and which may stand in a name.
-/

/-- The spaces of markup: space, tab, line feed and carriage return. -/
def isSpace (c : Char) : Bool :=
  c == ' ' || c == '\t' || c == '\n' || c == '\r'

/-- The characters a document may hold: every one but the controls below the space that are no
spaces themselves and the two noncharacters that end the basic plane. -/
def isAllowed (c : Char) : Bool :=
  if c.toNat < 0x20 then isSpace c else c.toNat != 0xFFFE && c.toNat != 0xFFFF

/-- The characters a name may begin with. -/
def isNameStart (c : Char) : Bool :=
  let n := c.toNat
  c == ':' || c == '_' || ('A' ≤ c && c ≤ 'Z') || ('a' ≤ c && c ≤ 'z') ||
    (0xC0 ≤ n && n ≤ 0xD6) || (0xD8 ≤ n && n ≤ 0xF6) || (0xF8 ≤ n && n ≤ 0x2FF) ||
    (0x370 ≤ n && n ≤ 0x37D) || (0x37F ≤ n && n ≤ 0x1FFF) || (0x200C ≤ n && n ≤ 0x200D) ||
    (0x2070 ≤ n && n ≤ 0x218F) || (0x2C00 ≤ n && n ≤ 0x2FEF) || (0x3001 ≤ n && n ≤ 0xD7FF) ||
    (0xF900 ≤ n && n ≤ 0xFDCF) || (0xFDF0 ≤ n && n ≤ 0xFFFD) || (0x10000 ≤ n && n ≤ 0xEFFFF)

/-- The characters a name may go on with. -/
def isNameChar (c : Char) : Bool :=
  let n := c.toNat
  isNameStart c || c == '-' || c == '.' || ('0' ≤ c && c ≤ '9') || n == 0xB7 ||
    (0x300 ≤ n && n ≤ 0x36F) || (0x203F ≤ n && n ≤ 0x2040)

/-- The text without the spaces in front of it. -/
def skipSpaces (s : List Char) : List Char :=
  s.dropWhile isSpace

theorem length_skipSpaces_le (s : List Char) : (skipSpaces s).length ≤ s.length :=
  (List.dropWhile_suffix _).length_le

/-- What stands behind the first character that is no space is shorter than the text. -/
theorem length_lt_of_skipSpaces {s r : List Char} {c : Char} (h : skipSpaces s = c :: r) :
    r.length < s.length := by
  have l := length_skipSpaces_le s
  rw [h] at l
  exact l

/-! ## What is read -/

/-- The ways in which a document can be ill-formed. -/
inductive Fault where
  /-- A character that no document may hold. -/
  | character
  /-- A name that is missing or not made of name characters. -/
  | name
  /-- A tag that is not closed or holds something other than attributes. -/
  | tag
  /-- A comment without an end, or with two hyphens inside. -/
  | comment
  /-- A section of literal text without an end. -/
  | literal
  /-- A processing instruction without an end. -/
  | instruction
  /-- A declaration that is ill-formed or does not open the document. -/
  | declaration
  /-- A document type or other markup that is not read. -/
  | markup
  /-- The end of a section of literal text that none has begun. -/
  | literalEnd
  /-- A reference that is ill-formed or names no character. -/
  | reference
  /-- A prefix that is not bound. -/
  | unboundPrefix
  /-- A namespace bound against the rules. -/
  | binding
  /-- Two attributes of one name. -/
  | duplicate
  /-- A closing tag that closes another element than the open one, or none. -/
  | mismatch
  /-- An element that is still open at the end. -/
  | unclosed
  /-- Something beside the root element that may not stand there. -/
  | outside
  /-- No root element. -/
  | noRoot
  deriving DecidableEq, Repr

/-- A name as written: a prefix, empty if there is none, and a local part. -/
structure QName where
  pre : String
  stem : String
  deriving DecidableEq, Repr, Inhabited

/-- An attribute as written, its value between the quotes. -/
structure WrittenAttribute where
  name : QName
  value : List Char
  deriving DecidableEq, Repr, Inhabited

/-- A token of a document. -/
inductive Token where
  /-- An opening tag; `empty` says that it closes its own element. -/
  | opening (name : QName) (attributes : List WrittenAttribute) (empty : Bool)
  | closing (name : QName)
  /-- Text with its references. -/
  | text (written : List Char)
  /-- The inside of a section of literal text. -/
  | literal (written : List Char)
  | comment (s : List Char)
  | instruction (target : List Char)
  deriving DecidableEq, Repr, Inhabited

/-- Something read from the front of `s`, with the text behind it. -/
structure Front (α : Type) (s : List Char) where
  value : α
  rest : List Char
  shorter : rest.length < s.length

/-! ## Names -/

/-- A run of name characters read as a name: at most one colon, a non-empty local part, and both
parts beginning as a name may. -/
def QName.ofChars? (written : List Char) : Option QName :=
  match written.splitOn ':' with
  | [stem] => if begins stem then some ⟨"", .ofList stem⟩ else none
  | [pre, stem] =>
    if (pre = [] ∨ begins pre) ∧ begins stem then some ⟨.ofList pre, .ofList stem⟩ else none
  | _ => none
where
  /-- Whether the part is not empty and begins as a name may. -/
  begins : List Char → Bool
    | [] => false
    | c :: _ => isNameStart c

/-- The name in front of the text. -/
def readName (s : List Char) : Except Fault (Front QName s) :=
  match hn : QName.ofChars? (s.takeWhile isNameChar) with
  | none => .error .name
  | some name =>
    .ok ⟨name, s.dropWhile isNameChar, by
      have hne : s.takeWhile isNameChar ≠ [] := by
        intro h
        rw [h] at hn
        cases hn
      have hlen := congrArg List.length (List.takeWhile_append_dropWhile (p := isNameChar) (l := s))
      rw [List.length_append] at hlen
      have := List.length_pos_iff.2 hne
      omega⟩

/-! ## Tags -/

/-- A quoted value from behind its opening quote: it may not hold `<`. -/
def readQuoted (quote : Char) (s : List Char) : Except Fault (Front (List Char) s) :=
  let inside := fun c => c != quote && c != '<'
  match h : s.dropWhile inside with
  | [] => .error .tag
  | close :: rest =>
    if close = quote then
      .ok ⟨s.takeWhile inside, rest, by
        have l := (List.dropWhile_suffix (l := s) inside).length_le
        rw [h] at l
        exact l⟩
    else .error .tag

/-- The attribute in front of the text: a name, an equals sign and a quoted value. -/
def readAttribute (s : List Char) : Except Fault (Front WrittenAttribute s) := do
  let name ← readName s
  match h₁ : skipSpaces name.rest with
  | '=' :: r₁ =>
    match h₂ : skipSpaces r₁ with
    | quote :: r₂ =>
      if quote = '"' ∨ quote = '\'' then
        let value ← readQuoted quote r₂
        return ⟨⟨name.value, value.value⟩, value.rest, by
          have l₀ := name.shorter
          have l₁ := length_lt_of_skipSpaces h₁
          have l₂ := length_lt_of_skipSpaces h₂
          have l₃ := value.shorter
          omega⟩
      else .error .tag
    | [] => .error .tag
  | _ => .error .tag

/-- The rest of an opening tag behind its name: attributes, each behind a space, and the end of
the tag, which tells whether the element is empty. -/
def readTag (s : List Char) : Except Fault (Front (List WrittenAttribute × Bool) s) :=
  match h : skipSpaces s with
  | '>' :: rest => .ok ⟨([], false), rest, length_lt_of_skipSpaces h⟩
  | '/' :: '>' :: rest =>
    .ok ⟨([], true), rest, Nat.lt_of_succ_lt (length_lt_of_skipSpaces h)⟩
  | c :: r =>
    if hs : r.length + 1 < s.length then do
      let first ← readAttribute (c :: r)
      have l₁ : first.rest.length < s.length := Nat.lt_trans first.shorter hs
      let others ← readTag first.rest
      return ⟨(first.value :: others.value.1, others.value.2), others.rest,
        Nat.lt_trans others.shorter l₁⟩
    else .error .tag
  | [] => .error .tag
termination_by s.length

/-! ## Tokens -/

/-- What was read from the end of a text, seen from the whole of it. -/
def Front.behind {α : Type} {r s : List Char} (f : Front α r) (h : r.length ≤ s.length) :
    Front α s :=
  ⟨f.value, f.rest, Nat.lt_of_lt_of_le f.shorter h⟩

/-- The text up to the first occurrence of a non-empty marker, or the given fault. -/
def readUpTo (marker : List Char) (missing : Fault) (hm : marker ≠ []) (s : List Char) :
    Except Fault (Front (List Char) s) :=
  match h : cutAt marker s with
  | none => .error missing
  | some (body, rest) =>
    .ok ⟨body, rest, by
      have := congrArg List.length (cutAt_append h)
      have := List.length_pos_iff.2 hm
      simp only [List.length_append] at *
      omega⟩

/-- A comment, from behind its opening marker: it holds no two hyphens and does not end in one. -/
def readComment (s : List Char) : Except Fault (Front Token s) := do
  let body ← readUpTo ['-', '-', '>'] .comment (by simp) s
  if (cutAt ['-', '-'] body.value).isSome ∨ body.value.getLast? = some '-' then
    .error .comment
  else
    .ok ⟨.comment body.value, body.rest, body.shorter⟩

/-- A section of literal text, from behind its opening marker. -/
def readLiteral (s : List Char) : Except Fault (Front Token s) := do
  let body ← readUpTo [']', ']', '>'] .literal (by simp) s
  .ok ⟨.literal body.value, body.rest, body.shorter⟩

/-- A processing instruction, from behind its opening marker: its target is a name, in which
colons are free, and all up to the closing marker belongs to it. -/
def readInstruction (s : List Char) : Except Fault (Front Token s) :=
  if QName.ofChars?.begins s then do
    let after := s.dropWhile isNameChar
    let body ← readUpTo ['?', '>'] .instruction (by simp) (skipSpaces after)
    .ok ⟨.instruction (s.takeWhile isNameChar), body.rest, Nat.lt_of_lt_of_le body.shorter
      (Nat.le_trans (length_skipSpaces_le after) (List.dropWhile_suffix _).length_le)⟩
  else .error .name

/-- A closing tag, from behind its opening marker. -/
def readClosing (s : List Char) : Except Fault (Front Token s) := do
  let name ← readName s
  match h : skipSpaces name.rest with
  | '>' :: rest =>
    return ⟨.closing name.value, rest, Nat.lt_trans (length_lt_of_skipSpaces h) name.shorter⟩
  | _ => .error .tag

/-- An opening tag, from behind its opening marker. -/
def readOpening (s : List Char) : Except Fault (Front Token s) := do
  let name ← readName s
  let tag ← readTag name.rest
  .ok ⟨.opening name.value tag.value.1 tag.value.2, tag.rest,
    Nat.lt_trans tag.shorter name.shorter⟩

/-- A stretch of text from its first character up to the next tag. The end of a literal section
may not stand in it. -/
def readText (c : Char) (cs : List Char) : Except Fault (Front Token (c :: cs)) :=
  let body := c :: cs.takeWhile (· != '<')
  if (cutAt [']', ']', '>'] body).isSome then .error .literalEnd
  else .ok ⟨.text body, cs.dropWhile (· != '<'),
    Nat.lt_succ_of_le (List.dropWhile_suffix _).length_le⟩

/-- The first token of a text. What a `<` begins is told by the characters behind it, and a
declaration is no token, since it may stand nowhere but at the very start. -/
def Token.read (c : Char) (cs : List Char) : Except Fault (Front Token (c :: cs)) :=
  if c ≠ '<' then readText c cs
  else match cs with
    | '!' :: '-' :: '-' :: r => (readComment r).map (·.behind (by simp; omega))
    | '!' :: '[' :: 'C' :: 'D' :: 'A' :: 'T' :: 'A' :: '[' :: r =>
      (readLiteral r).map (·.behind (by simp; omega))
    | '!' :: _ => .error .markup
    | '?' :: 'x' :: 'm' :: 'l' :: ' ' :: _ => .error .declaration
    | '?' :: r => (readInstruction r).map (·.behind (by simp; omega))
    | '/' :: r => (readClosing r).map (·.behind (by simp; omega))
    | r => (readOpening r).map (·.behind (by simp))

/-- The tokens of a text, in order. -/
def Token.list (s : List Char) : Except Fault (List Token) :=
  match s with
  | [] => .ok []
  | c :: cs => do
    let first ← Token.read c cs
    let others ← Token.list first.rest
    .ok (first.value :: others)
termination_by s.length
decreasing_by exact first.shorter

/-! ## The declaration -/

/-- An attribute of the declaration whose name begins with `word`, which is there only if the text
begins with that word. -/
def skipNamed (word s : List Char) : Except Fault (Option (List Char)) :=
  if word.isPrefixOf s then (readAttribute s).map fun a => some a.rest
  else .ok none

/-- The space behind an attribute of the declaration, which may be missing before its end. -/
def skipGap (s : List Char) : Except Fault (List Char) :=
  if ['?', '>'].isPrefixOf s ∨ (s.head?.map isSpace).getD false then .ok (skipSpaces s)
  else .error .declaration

/-- The text behind the declaration, if one opens the text: a version, then an encoding and a word
on standing alone, both optional. The values are not looked at. -/
def skipDeclaration (s : List Char) : Except Fault (List Char) := do
  match s with
  | '<' :: '?' :: 'x' :: 'm' :: 'l' :: ' ' :: r =>
    let some r ← skipNamed "version".toList (skipSpaces r) | .error .declaration
    let r ← skipGap r
    let r ← match ← skipNamed "encoding".toList r with
      | some r => skipGap r
      | none => .ok r
    let r := skipSpaces ((← skipNamed "standalone".toList r).getD r)
    match r with
    | '?' :: '>' :: r => .ok r
    | _ => .error .declaration
  | s => .ok s

end TypeScriptBuild.Xml
