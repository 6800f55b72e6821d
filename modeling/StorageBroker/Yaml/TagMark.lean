import StorageBroker.Number.IntegerText
import StorageBroker.Text.Percent
import StorageBroker.Yaml.Cursor
/-!
# Tags as they are written, and directives

A tag is written whole between angle brackets, or as a handle with the rest of the tag behind it.
Directives in front of a document tell its version and what its handles stand for; two handles
stand for something by themselves.

* `TagMark.read`, `Directive.read` -- a tag and a directive, from their first character on;
* `Handles.resolve?_whole` -- a tag that is written whole needs no handle;
* `Handles.find?_declare` -- a handle stands for what was declared last.
-/

namespace StorageBroker.Yaml

/-! ## 1. Parts of tags -/

/-- The characters of a tag that stand for themselves. -/
def isTagChar (c : Char) : Bool := c.isAlphanum || "-;/?:@&=+$,_.!~*'()[]".toList.contains c

/-- The bytes of a run of percent signs with two hexadecimal digits each. -/
def readEscapes : (bound : Nat) → Cursor → Except Problem (List UInt8 × Cursor)
  | 0, c => .ok ([], c)
  | bound + 1, c =>
    if c.peek = some '%' then
      let c := c.step
      match c.peek.bind Text.Percent.digitValue?, (c.peekAt 1).bind Text.Percent.digitValue? with
      | some high, some low => do
        let (bytes, c) ← readEscapes bound (c.skip 2)
        return (UInt8.ofNat (16 * high + low) :: bytes, c)
      | some _, none => .error c.step.problem
      | none, _ => .error c.problem
    else .ok ([], c)

/-- The characters of a part of a tag, where escapes spell characters in UTF-8. -/
def readTagChars : (bound : Nat) → Cursor → Except Problem (List Char × Cursor)
  | 0, c => .ok ([], c)
  | bound + 1, c =>
    let (plain, c) := c.takeWhile isTagChar
    if c.peek = some '%' then do
      let (bytes, c) ← readEscapes c.rest.length c
      match Text.Utf8.decode? bytes with
      | some cs =>
        let (more, c) ← readTagChars bound c
        return (plain ++ cs ++ more, c)
      | none => throw .grammar
    else .ok (plain, c)

/-- A part of a tag, which has to hold something. -/
def readTagText (c : Cursor) : Except Problem (List Char × Cursor) :=
  if c.peek.any fun x => isTagChar x || x == '%' then readTagChars (c.rest.length + 1) c
  else .error c.problem

/-- A handle: one exclamation mark in front of a blank, else a name between two of them. -/
def readHandle (c : Cursor) : Except Problem (List Char × Cursor) :=
  if c.peek ≠ some '!' then .error c.problem
  else
    let c := c.step
    if c.peek = some ' ' then .ok (['!'], c)
    else
      let (name, c) := c.takeWhile isNameChar
      if c.peek = some '!' then .ok ('!' :: name ++ ['!'], c.step) else .error c.problem

/-! ## 2. Tags -/

/-- A tag as it is written: what stands behind its handle, or all of it if there is none. -/
structure TagMark where
  handle : Option (List Char)
  rest : List Char
deriving DecidableEq, Repr

namespace TagMark

/-- The tag that leaves the type to the spelling. -/
def unspecific : List Char := ['!']

/-- What a tag begins with: its text up to where it has to end. -/
def readOpen (c : Cursor) : Except Problem (TagMark × Cursor) :=
  let x := c.peekAt 1
  if x = some '<' then do
    let (text, c) ← readTagText (c.skip 2)
    if c.peek = some '>' then return (⟨none, text⟩, c.step) else throw c.problem
  else if endsWord x then .ok (⟨none, unspecific⟩, c.step)
  else do
    let word := c.rest.tail.takeWhile fun x => !endsMark (some x)
    let (handle, c) ← if word.contains '!' then readHandle c else pure (['!'], c.step)
    let (text, c) ← readTagText c
    return (⟨some handle, text⟩, c)

/-- **A tag**, which a blank or the end of the line follows. -/
def read (c : Cursor) : Except Problem (TagMark × Cursor) := do
  let (mark, c) ← readOpen c
  if endsMark c.peek then return (mark, c) else throw .grammar

end TagMark

/-! ## 3. Directives -/

inductive Directive where
  /-- The version of the document begins with such a number. -/
  | version (major : Nat)
  /-- A handle stands for the beginning of tags. -/
  | handle (name front : List Char)
  | other
deriving DecidableEq, Repr

namespace Directive

/-- A number of decimal digits. -/
def readNumber (c : Cursor) : Except Problem (Nat × Cursor) :=
  let (digits, c) := c.takeWhile Number.Decimal.isDigit
  if digits.isEmpty then .error c.problem
  else if IntegerText.digitLimit < digits.length then
    .error (.content (.content "the number of the version has too many digits"))
  else .ok (Number.Decimal.ofChars digits, c)

/-- A version: two numbers with a point between them. -/
def readVersion (c : Cursor) : Except Problem (Directive × Cursor) := do
  let (major, c) ← readNumber c.skipBlanks
  if c.peek ≠ some '.' then throw c.problem
  let (_, c) ← readNumber c.step
  if endsMark c.peek then return (.version major, c) else throw .grammar

/-- A handle and what it stands for. -/
def readDeclaration (c : Cursor) : Except Problem (Directive × Cursor) := do
  let (name, c) ← readHandle c.skipBlanks
  if c.peek ≠ some ' ' then throw c.problem
  let (front, c) ← readTagText c.skipBlanks
  if endsMark c.peek then return (.handle name front, c) else throw .grammar

/-- **A directive** with its line, from its percent sign on. -/
def read (c : Cursor) : Except Problem (Directive × Cursor) := do
  let (name, c) := c.step.takeWhile isNameChar
  if name.isEmpty || !endsMark c.peek then throw c.problem
  let (directive, c) ←
    if name = "YAML".toList then readVersion c
    else if name = "TAG".toList then readDeclaration c
    else pure (.other, c.dropWhile fun x => !isBreak x)
  return (directive, ← c.skipLine)

end Directive

/-! ## 4. Handles -/

/-- What the handles of a document stand for. -/
abbrev Handles := List (List Char × List Char)

namespace Handles

/-- The front of the tags of the core schema. -/
def coreSchema : List Char := "tag:yaml.org,2002:".toList

/-- The handles that every document has. -/
def standard : Handles := [(['!'], ['!']), (['!', '!'], coreSchema)]

def find? (hs : Handles) (name : List Char) : Option (List Char) :=
  (List.find? (fun h => h.1 == name) hs).map Prod.snd

def declare (hs : Handles) (name front : List Char) : Handles := (name, front) :: hs

theorem find?_declare (hs : Handles) (name front other : List Char) :
    find? (declare hs name front) other = if name = other then some front else find? hs other := by
  by_cases h : name = other <;> simp [find?, declare, h]

/-- The whole text of a tag; nothing if its handle stands for nothing. -/
def resolve? (hs : Handles) (mark : TagMark) : Option (List Char) :=
  match mark.handle with
  | none => some mark.rest
  | some name => (find? hs name).map (· ++ mark.rest)

theorem resolve?_whole (hs : Handles) (text : List Char) :
    resolve? hs ⟨none, text⟩ = some text := rfl

end Handles

end StorageBroker.Yaml
