import StorageBroker.Yaml.Scalar
import StorageBroker.Yaml.Source
import StorageBroker.Yaml.TagMark
/-!
# Tokens

A document is a sequence of tokens: scalars, the marks of flow collections, and the beginnings and
ends of block collections, which no character marks. They follow from the indentation. A block
mapping begins where its first key does, and that something is a key shows only at the colon after
it; so the places where a key may have begun are kept until then (`PossibleKey`), and the tokens
behind the first of them wait.

* `Lexer.step` -- reads the next token, and closes the blocks that end in front of it;
* `Tokens.ofSource` -- the tokens of a document, as many as can be told before reading fails;
* `Lexer.run_told` -- where reading fails, the tokens that were told remain.
-/

namespace StorageBroker.Yaml

inductive Token where
  | directive (d : Directive)
  | documentStart
  | documentEnd
  | blockSequence
  | blockMapping
  | blockEnd
  | openList
  | closeList
  | openMapping
  | closeMapping
  | comma
  | entry
  | key
  | value
  | alias (name : List Char)
  | anchor (name : List Char)
  | tag (mark : TagMark)
  | scalar (isPlain : Bool) (text : Text)
deriving DecidableEq, Repr

/-- A place where a key may have begun: the number of its token and where it stands. -/
structure PossibleKey where
  number : Nat
  /-- Nothing but a key can stand here. -/
  isNeeded : Bool
  index : Nat
  line : Nat
  column : Nat

structure Lexer where
  cursor : Cursor
  tokens : Array Token
  /-- How many flow collections are open; below zero if more have been closed than opened. -/
  depth : Int
  /-- The column of the innermost open block, `-1` outside of all. -/
  indent : Int
  outer : List Int
  keyAllowed : Bool
  /-- The possible keys, each with the depth it stands at. -/
  keys : List (Int × PossibleKey)

namespace Lexer

def start (cs : List Char) : Lexer := ⟨.start cs, #[], 0, -1, [], true, []⟩

def inFlow (l : Lexer) : Bool := l.depth != 0

def push (l : Lexer) (t : Token) : Lexer := { l with tokens := l.tokens.push t }

/-- Puts a token in front of the one of a number. -/
def insert (l : Lexer) (number : Nat) (t : Token) : Lexer :=
  { l with
    tokens := (l.tokens.extract 0 number).push t ++ l.tokens.extract number l.tokens.size }

/-! ## 1. Indentation -/

/-- Closes blocks that are indented further than a column. -/
def close : (outer : List Int) → (indent column : Int) → (tokens : Array Token) →
    Int × List Int × Array Token
  | [], indent, _, tokens => (indent, [], tokens)
  | next :: outer, indent, column, tokens =>
    if column < indent then close outer next column (tokens.push .blockEnd)
    else (indent, next :: outer, tokens)

/-- Closes the blocks that end in front of a column. In a flow collection there are none. -/
def unwind (l : Lexer) (column : Int) : Lexer :=
  if l.inFlow then l
  else
    let (indent, outer, tokens) := close l.outer l.indent column l.tokens
    { l with indent, outer, tokens }

/-- Opens a block at a column, unless one is open there. -/
def opens (l : Lexer) (column : Nat) : Bool := l.indent < column

def openAt (l : Lexer) (column : Nat) : Lexer :=
  { l with outer := l.indent :: l.outer, indent := column }

/-- Opens a block at the cursor if need be, with the token that tells its kind. -/
def openHere (l : Lexer) (t : Token) : Lexer :=
  if l.opens l.cursor.column then (l.openAt l.cursor.column).push t else l

/-! ## 2. Possible keys -/

def keyAt? (l : Lexer) (depth : Int) : Option PossibleKey :=
  (l.keys.find? fun k => k.1 == depth).map Prod.snd

def dropKey (l : Lexer) (depth : Int) : Lexer :=
  { l with keys := l.keys.filter fun k => k.1 != depth }

/-- Gives up the possible key at the present depth. -/
def forgetKey (l : Lexer) : Except Problem Lexer :=
  match l.keyAt? l.depth with
  | some k => if k.isNeeded then .error .grammar else .ok (l.dropKey l.depth)
  | none => .ok l

/-- Whether a possible key is too far back: on another line, or many characters away. -/
def isStale (l : Lexer) (k : PossibleKey) : Bool :=
  k.line != l.cursor.line || 1024 < l.cursor.index - k.index

/-- Gives up the possible keys that are too far back. -/
def forgetStale (l : Lexer) : Except Problem Lexer :=
  if l.keys.any fun k => l.isStale k.2 && k.2.isNeeded then .error .grammar
  else .ok { l with keys := l.keys.filter fun k => !l.isStale k.2 }

/-- Notes that a key may begin here. -/
def noteKey (l : Lexer) : Except Problem Lexer := do
  if l.keyAllowed then
    let isNeeded := !l.inFlow && l.indent == l.cursor.column
    let l ← l.forgetKey
    let k : PossibleKey :=
      ⟨l.tokens.size, isNeeded, l.cursor.index, l.cursor.line, l.cursor.column⟩
    return { l with keys := (l.depth, k) :: l.keys }
  else return l

/-! ## 3. Between tokens -/

/-- Moves past blanks, comments and line breaks. Outside of flow collections a new line may begin
with a key. -/
def skipSpace : (bound : Nat) → Lexer → Lexer
  | 0, l => l
  | bound + 1, l =>
    let c := l.cursor.skipBlanks.skipComment
    match c.readBreak? with
    | some (_, c) =>
      skipSpace bound { l with cursor := c, keyAllowed := l.keyAllowed || !l.inFlow }
    | none => { l with cursor := c }

/-- Moves past a mark at the beginning of the text. -/
def skipMark (l : Lexer) : Lexer :=
  if l.cursor.index = 0 && l.cursor.peek = some byteOrderMark then
    { l with cursor := l.cursor.step }
  else l

/-! ## 4. Marks -/

/-- A mark of some characters that ends all blocks. -/
def documentMark (l : Lexer) (t : Token) : Except Problem Lexer := do
  let l ← (l.unwind (-1)).forgetKey
  return ({ l with keyAllowed := false, cursor := l.cursor.skip 3 }).push t

/-- A directive takes a line. -/
def directive (l : Lexer) : Except Problem Lexer := do
  let l ← (l.unwind (-1)).forgetKey
  let (d, c) ← Directive.read l.cursor
  return ({ l with keyAllowed := false, cursor := c }).push (.directive d)

/-- The beginning of a flow collection. -/
def openFlow (l : Lexer) (t : Token) : Except Problem Lexer := do
  let l ← l.noteKey
  return ({ l with depth := l.depth + 1, keyAllowed := true, cursor := l.cursor.step }).push t

/-- The end of a flow collection. -/
def closeFlow (l : Lexer) (t : Token) : Except Problem Lexer := do
  let l ← l.forgetKey
  return ({ l with depth := l.depth - 1, keyAllowed := false, cursor := l.cursor.step }).push t

def comma (l : Lexer) : Except Problem Lexer := do
  let l ← l.forgetKey
  return ({ l with keyAllowed := true, cursor := l.cursor.step }).push .comma

/-- The mark of an entry of a block sequence. -/
def entryMark (l : Lexer) : Except Problem Lexer := do
  if !l.inFlow && !l.keyAllowed then throw .grammar
  let l := if l.inFlow then l else l.openHere .blockSequence
  let l ← l.forgetKey
  return ({ l with keyAllowed := true, cursor := l.cursor.step }).push .entry

/-- The mark in front of a key. -/
def keyMark (l : Lexer) : Except Problem Lexer := do
  if !l.inFlow && !l.keyAllowed then throw .grammar
  let l := if l.inFlow then l else l.openHere .blockMapping
  let l ← l.forgetKey
  return ({ l with keyAllowed := !l.inFlow, cursor := l.cursor.step }).push .key

/-- The mark in front of a value: what stands before it is a key where one may have begun. -/
def valueMark (l : Lexer) : Except Problem Lexer := do
  match l.keyAt? l.depth with
  | some k =>
    let l := (l.dropKey l.depth).insert k.number .key
    let l :=
      if !l.inFlow && l.opens k.column then (l.openAt k.column).insert k.number .blockMapping else l
    return ({ l with keyAllowed := false, cursor := l.cursor.step }).push .value
  | none =>
    if !l.inFlow && !l.keyAllowed then throw .grammar
    let l := if l.inFlow then l else l.openHere .blockMapping
    let l ← l.forgetKey
    return ({ l with keyAllowed := !l.inFlow, cursor := l.cursor.step }).push .value

/-! ## 5. Names and scalars -/

/-- Whether a name may end in front of a character. -/
def endsName (c : Option Char) : Bool :=
  endsWord c || (c.map ("?:,]\x7d%@\x60".toList.contains ·)).getD false

/-- The name of an anchor or an alias. -/
def named (l : Lexer) (t : List Char → Token) : Except Problem Lexer := do
  let l ← l.noteKey
  let (name, c) := l.cursor.step.takeWhile isNameChar
  if name.isEmpty || !endsName c.peek then throw c.problem
  else return ({ l with keyAllowed := false, cursor := c }).push (t name)

/-- A tag. -/
def tagMark (l : Lexer) : Except Problem Lexer := do
  let l ← l.noteKey
  let (mark, c) ← TagMark.read l.cursor
  return ({ l with keyAllowed := false, cursor := c }).push (.tag mark)

def blockScalar (l : Lexer) (folded : Bool) : Except Problem Lexer := do
  let l ← l.forgetKey
  let (text, c) ← Scalar.block folded l.indent l.cursor
  return ({ l with keyAllowed := true, cursor := c }).push (.scalar false (String.ofList text))

def quotedScalar (l : Lexer) (quote : Char) : Except Problem Lexer := do
  let l ← l.noteKey
  let (text, c) ← Scalar.quoted quote l.cursor
  return ({ l with keyAllowed := false, cursor := c }).push (.scalar false text)

def plainScalar (l : Lexer) : Except Problem Lexer := do
  let l ← l.noteKey
  let p := Scalar.plain l.inFlow (l.indent + 1).toNat l.cursor
  return ({ l with keyAllowed := p.newLine, cursor := p.after }).push
    (.scalar true (String.ofList p.text))

/-- Whether a plain scalar may begin with a character. -/
def beginsPlain (l : Lexer) (c : Char) : Bool :=
  !(endsWord (some c) || "-?:,[]\x7b\x7d#&*!|>'\"%@\x60".toList.contains c)
    || (!endsWord (l.cursor.peekAt 1) && (c == '-' || (!l.inFlow && (c == '?' || c == ':'))))

/-! ## 6. All of it -/

/-- Reads the token that begins with a character. -/
def readToken (l : Lexer) (c : Char) : Except Problem Lexer :=
  let alone := endsWord (l.cursor.peekAt 1)
  if c = '%' ∧ l.cursor.column = 0 then l.directive
  else if l.cursor.column = 0 ∧ l.cursor.holds ['-', '-', '-'] then l.documentMark .documentStart
  else if l.cursor.column = 0 ∧ l.cursor.holds ['.', '.', '.'] then l.documentMark .documentEnd
  else if c = '[' then l.openFlow .openList
  else if c = '\x7b' then l.openFlow .openMapping
  else if c = ']' then l.closeFlow .closeList
  else if c = '\x7d' then l.closeFlow .closeMapping
  else if c = ',' then l.comma
  else if c = '-' ∧ alone then l.entryMark
  else if c = '?' ∧ (l.inFlow ∨ alone) then l.keyMark
  else if c = ':' ∧ (l.inFlow ∨ alone) then l.valueMark
  else if c = '*' then l.named .alias
  else if c = '&' then l.named .anchor
  else if c = '!' then l.tagMark
  else if c = '|' ∧ !l.inFlow then l.blockScalar false
  else if c = '>' ∧ !l.inFlow then l.blockScalar true
  else if c = '\'' ∨ c = '"' then l.quotedScalar c
  else if l.beginsPlain c then l.plainScalar
  else .error .grammar

/-- Fails where the text ends for another reason than the end of the document. -/
def checkEnd (l : Lexer) (ending : Option Problem) : Except Problem Unit :=
  match ending with
  | some p => if l.cursor.rest.isEmpty then .error p else .ok ()
  | none => .ok ()

/-- **Reads the next token**; nothing comes after the end of the text, which ends all blocks. -/
def step (ending : Option Problem) (l : Lexer) : Except Problem (Lexer × Bool) := do
  let l := l.skipMark
  let l := l.skipSpace (l.cursor.rest.length + 1)
  l.checkEnd ending
  let l ← l.forgetStale
  let l := l.unwind l.cursor.column
  match l.cursor.peek with
  | none => return (← (l.unwind (-1)).forgetKey, true)
  | some c =>
    let l ← l.readToken c
    l.checkEnd ending
    return (← l.forgetStale, false)

/-- How many tokens can be told: those in front of the first place where a key may begin. -/
def settled (l : Lexer) : Nat :=
  (l.keys.map fun k => k.2.number).foldl min l.tokens.size

end Lexer

/-- The tokens of a document as far as they can be told. -/
structure Tokens where
  list : List Token
  /-- Why there are no more tokens; nothing if the document ends there. -/
  problem : Option Problem

namespace Lexer

/-- What failing means for a text that ends in some way. -/
def failure (ending : Option Problem) : Problem → Problem
  | .cut => ending.getD .grammar
  | p => p

/-- Reads tokens up to the end of the text; `told` are those that have been told. -/
def run (ending : Option Problem) : (bound : Nat) → Lexer → (told : Array Token) → Tokens
  | 0, l, _ => ⟨l.tokens.toList, none⟩
  | bound + 1, l, told =>
    match l.step ending with
    | .error p => ⟨told.toList, some (failure ending p)⟩
    | .ok (l, isOver) =>
      if isOver then ⟨l.tokens.toList, none⟩
      else run ending bound l (told ++ l.tokens.extract told.size l.settled)

theorem run_told {ending : Option Problem} {l : Lexer} {p : Problem}
    (h : l.step ending = .error p) (bound : Nat) (told : Array Token) :
    run ending (bound + 1) l told = ⟨told.toList, some (failure ending p)⟩ := by
  rw [run, h]

end Lexer

/-- **The tokens of a document.** -/
def Tokens.ofSource (s : Source) : Tokens :=
  Lexer.run s.ending (s.text.length + 1) (.start s.text) #[]

end StorageBroker.Yaml
