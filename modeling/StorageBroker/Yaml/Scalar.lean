import StorageBroker.Yaml.Cursor
import StorageBroker.Json.Reader
/-!
# Scalars

The texts of a document come in four styles: plain, between single or double quotes, and as blocks
whose lines are kept or folded. Inside a scalar that goes over several lines a single line break
stands for a blank, and of several the first one falls away.

Each reader starts where the scalar starts and gives its text with the place after it. Every round
of a reader takes at least one character, so the number of characters left bounds its rounds.
-/

namespace StorageBroker.Yaml.Scalar

/-- What a single line break or several of them come to in a folded text. -/
def foldBreaks (first : Char) (more : List Char) : List Char :=
  if first ≠ '\n' then first :: more
  else if more.isEmpty then [' '] else more

/-! ## 1. Plain scalars -/

/-- Whether a plain scalar ends in front of a character; in a flow collection the characters that
belong to the collection end it as well. -/
def endsPlain (flow : Bool) (c : Char) (rest : List Char) : Bool :=
  endsWord (some c)
    || (c == ':' && (endsWord rest.head?
      || (flow && (rest.head?.map (",[]\x7b\x7d".toList.contains ·)).getD false)))
    || (flow && ",?[]\x7b\x7d".toList.contains c)

/-- The characters of a plain scalar up to a blank or its end. -/
def plainWord (flow : Bool) : List Char → List Char
  | [] => []
  | c :: rest => if endsPlain flow c rest then [] else c :: plainWord flow rest

/-- The line breaks after the first one, blanks between them left out; nothing where a mark between
documents ends the scalar. -/
def plainBreaks : (bound : Nat) → Cursor → Option (List Char) × Cursor
  | 0, c => (some [], c)
  | bound + 1, c =>
    if c.peek = some ' ' then plainBreaks bound c.step
    else match c.readBreak? with
      | none => (some [], c)
      | some (b, c) =>
        if c.atSeparator then (none, c)
        else match plainBreaks bound c with
          | (some more, c) => (some (b :: more), c)
          | (none, c) => (none, c)

/-- What stands between two words of a plain scalar. -/
structure Gap where
  /-- Nothing where the scalar is over. -/
  text : List Char
  after : Cursor
  /-- Whether a new line has begun. -/
  newLine : Bool

def plainGap (c : Cursor) : Gap :=
  let (blanks, c) := c.takeWhile (· == ' ')
  match c.readBreak? with
  | none => ⟨blanks, c, false⟩
  | some (b, c) =>
    if c.atSeparator then ⟨[], c, true⟩
    else match plainBreaks c.rest.length c with
      | (some more, c) => ⟨foldBreaks b more, c, true⟩
      | (none, c) => ⟨[], c, true⟩

/-- A plain scalar that has been read. -/
structure Plain where
  text : List Char
  after : Cursor
  /-- Whether the scalar is followed by the beginning of a line. -/
  newLine : Bool

/-- The words of a plain scalar and what stands between them. -/
def readPlain (flow : Bool) (indent : Nat) : (bound : Nat) → (gap : List Char) → Cursor →
    (newLine : Bool) → Plain
  | 0, _, c, newLine => ⟨[], c, newLine⟩
  | bound + 1, gap, c, newLine =>
    let word := if c.peek = some '#' then [] else plainWord flow c.rest
    if word.isEmpty then ⟨[], c, newLine⟩
    else
      let g := plainGap (c.skip word.length)
      if g.text.isEmpty || g.after.peek = some '#' || (!flow && g.after.column < indent) then
        ⟨gap ++ word, g.after, g.newLine⟩
      else
        let more := readPlain flow indent bound g.text g.after g.newLine
        { more with text := gap ++ word ++ more.text }

/-- **A plain scalar** that belongs to a collection of the given indentation. -/
def plain (flow : Bool) (indent : Nat) (c : Cursor) : Plain :=
  readPlain flow indent c.rest.length [] c false

/-! ## 2. Quoted scalars -/

/-- The character that a letter after a backslash stands for. -/
def escapeOf? : Char → Option Char
  | '0' => some '\x00'
  | 'a' => some '\x07'
  | 'b' => some '\x08'
  | 't' | '\t' => some '\t'
  | 'n' => some '\n'
  | 'v' => some '\x0b'
  | 'f' => some '\x0c'
  | 'r' => some '\r'
  | 'e' => some '\x1b'
  | ' ' => some ' '
  | '"' => some '"'
  | '\\' => some '\\'
  | '/' => some '/'
  | 'N' => some '\u0085'
  | '_' => some '\u00a0'
  | 'L' => some '\u2028'
  | 'P' => some '\u2029'
  | _ => none

/-- How many hexadecimal digits follow a letter after a backslash. -/
def codeLength? : Char → Option Nat
  | 'x' => some 2
  | 'u' => some 4
  | 'U' => some 8
  | _ => none

/-- The character of a number; one of 32 bits or more is not even looked up. -/
def charOf (n : Nat) : Except Problem Character :=
  if 0x80000000 ≤ n then .error (.content (.magnitude "the number of a character is too large"))
  else if 0x10FFFF < n then .error (.content (.content "no character has so large a number"))
  else .ok (.ofNat n)

/-- A number of hexadecimal digits. -/
def readCode (digits : List Char) (length : Nat) : Except Problem Nat :=
  match digits.mapM Json.hexValue? with
  | some ds =>
    if ds.length = length then .ok (ds.foldl (fun n d => 16 * n + d) 0) else .error .cut
  | none => .error .grammar

/-- Line breaks and blanks, of which the breaks are kept. -/
def quotedBreaks : (bound : Nat) → Cursor → Except Problem (List Char × Cursor)
  | 0, c => .ok ([], c)
  | bound + 1, c =>
    if c.atSeparator then .error .grammar
    else
      let c := c.dropWhile fun x => x == ' ' || x == '\t'
      match c.readBreak? with
      | none => .ok ([], c)
      | some (b, c) => do
        let (more, c) ← quotedBreaks bound c
        return (b :: more, c)

/-- Blanks inside a quoted scalar, or the line breaks in their place. -/
def quotedGap (c : Cursor) : Except Problem (List Char × Cursor) :=
  let (blanks, c) := c.takeWhile fun x => x == ' ' || x == '\t'
  match c.peek with
  | none => .error .cut
  | some _ => match c.readBreak? with
    | none => .ok (blanks, c)
    | some (b, c) => do
      let (more, c) ← quotedBreaks (c.rest.length + 1) c
      return (foldBreaks b more, c)

/-- What a backslash and the characters after it stand for, from behind the backslash on. -/
def readEscape (c : Cursor) : Except Problem (List Character × Cursor) :=
  match c.peek with
  | none => .error .cut
  | some e =>
    match escapeOf? e, codeLength? e with
    | some x, _ => .ok ([.scalar x], c.step)
    | none, some length => do
      let c := c.step
      let n ← readCode (c.rest.take length) length
      return ([← charOf n], c.skip length)
    | none, none => match c.readBreak? with
      | some (_, c) => do
        let (breaks, c) ← quotedBreaks (c.rest.length + 1) c
        return (breaks.map .scalar, c)
      | none => .error .grammar

/-- A quoted scalar after its opening quote. -/
def readQuoted (quote : Char) :
    (bound : Nat) → Cursor → Except Problem (List Character × Cursor)
  | 0, _ => .error .cut
  | bound + 1, c => match c.peek with
    | none => .error .cut
    | some x =>
      let further := fun (text : List Character) (c : Cursor) => do
        let (more, c) ← readQuoted quote bound c
        return (text ++ more, c)
      if x = quote then
        if quote = '\'' && c.peekAt 1 = some '\'' then further [.scalar '\''] (c.skip 2)
        else .ok ([], c.step)
      else if quote = '"' && x = '\\' then do
        let (text, c) ← readEscape c.step
        further text c
      else if endsWord (some x) then do
        let (text, c) ← quotedGap c
        further (text.map .scalar) c
      else further [.scalar x] c.step

/-- **A quoted scalar** from its opening quote on. -/
def quoted (quote : Char) (c : Cursor) : Except Problem (Text × Cursor) := do
  let (cs, c) ← readQuoted quote (c.rest.length + 1) c.step
  return (.ofList cs, c)

/-! ## 3. Block scalars -/

/-- What becomes of the line breaks at the end of a block. -/
inductive Chomping where
  | clip
  | strip
  | keep
deriving DecidableEq, Repr

/-- How a block is to be read. -/
structure BlockHeader where
  chomping : Chomping
  /-- How much further than its surroundings the block is indented, where this is said. -/
  increment : Option Nat

def chomping? : Option Char → Option Chomping
  | some '+' => some .keep
  | some '-' => some .strip
  | _ => none

/-- A digit for the increment of a block, which cannot be zero. -/
def increment? (c : Option Char) : Except Problem (Option Nat) :=
  match c.bind Number.Decimal.digit? with
  | some 0 => .error .grammar
  | d => .ok d

/-- The indicators behind the sign of a block, in either order. -/
def readHeader (c : Cursor) : Except Problem (BlockHeader × Cursor) := do
  let (header, c) ← match chomping? c.peek with
    | some chomping => do
      let c := c.step
      match ← increment? c.peek with
      | some n => pure (BlockHeader.mk chomping (some n), c.step)
      | none => pure (BlockHeader.mk chomping none, c)
    | none => do
      match ← increment? c.peek with
      | some n =>
        let c := c.step
        match chomping? c.peek with
        | some chomping => pure (BlockHeader.mk chomping (some n), c.step)
        | none => pure (BlockHeader.mk .clip (some n), c)
      | none => pure (BlockHeader.mk .clip none, c)
  if endsMark c.peek then return (header, c) else throw .grammar

/-- The empty lines at the beginning of a block, and the greatest column that their blanks
reach. -/
def leadingBreaks : (bound : Nat) → (deepest : Nat) → Cursor → List Char × Nat × Cursor
  | 0, deepest, c => ([], deepest, c)
  | bound + 1, deepest, c =>
    if c.peek = some ' ' then
      let c := c.step
      leadingBreaks bound (max deepest c.column) c
    else match c.readBreak? with
      | none => ([], deepest, c)
      | some (b, c) =>
        let (more, deepest, c) := leadingBreaks bound deepest c
        (b :: more, deepest, c)

/-- Moves past blanks up to a column. -/
def skipIndent (indent : Nat) : (bound : Nat) → Cursor → Cursor
  | 0, c => c
  | bound + 1, c =>
    if c.column < indent && c.peek = some ' ' then skipIndent indent bound c.step else c

/-- Empty lines in a block, up to the indentation of the line after them. -/
def blockBreaks (indent : Nat) : (bound : Nat) → Cursor → List Char × Cursor
  | 0, c => ([], c)
  | bound + 1, c =>
    let c := skipIndent indent c.rest.length c
    match c.readBreak? with
    | none => ([], c)
    | some (b, c) =>
      let (more, c) := blockBreaks indent bound c
      (b :: more, c)

/-- Whether a line begins with a blank. -/
def isIndented : Option Char → Bool
  | some x => x == ' ' || x == '\t'
  | none => false

/-- The end of a block, where `last` is the break of its last line and `breaks` follow it. -/
def blockEnd (chomping : Chomping) (last breaks : List Char) : List Char :=
  match chomping with
  | .clip => last
  | .strip => []
  | .keep => last ++ breaks

/-- The lines of a block; `breaks` stand in front of the next one. -/
def readBlock (folded : Bool) (chomping : Chomping) (indent : Nat) :
    (bound : Nat) → (last breaks : List Char) → Cursor → List Char × Cursor
  | 0, _, _, c => ([], c)
  | bound + 1, last, breaks, c =>
    if c.column = indent && c.peek.isSome then
      let indented := isIndented c.peek
      let (line, c) := c.takeWhile fun x => !isBreak x
      let (lineBreak, c) := match c.readBreak? with
        | some (b, c) => ([b], c)
        | none => ([], c)
      let (after, c) := blockBreaks indent (c.rest.length + 1) c
      if c.column = indent && c.peek.isSome then
        let joint :=
          if folded && lineBreak = ['\n'] && !indented && !isIndented c.peek then
            if after.isEmpty then [' '] else []
          else lineBreak
        let (more, c) := readBlock folded chomping indent bound lineBreak after c
        (breaks ++ line ++ joint ++ more, c)
      else (breaks ++ line ++ blockEnd chomping lineBreak after, c)
    else (blockEnd chomping last breaks, c)

/-- **A block scalar** from its sign on, in a collection that is indented by `indent`. -/
def block (folded : Bool) (indent : Int) (c : Cursor) : Except Problem (List Char × Cursor) := do
  let (header, c) ← readHeader c.step
  let c ← c.skipLine
  let least := max (indent + 1) 1 |>.toNat
  match header.increment with
  | some n =>
    let column := least + n - 1
    let (breaks, c) := blockBreaks column (c.rest.length + 1) c
    return readBlock folded header.chomping column (c.rest.length + 1) [] breaks c
  | none =>
    let (breaks, deepest, c) := leadingBreaks c.rest.length 0 c
    return readBlock folded header.chomping (max least deepest) (c.rest.length + 1) [] breaks c

end StorageBroker.Yaml.Scalar
