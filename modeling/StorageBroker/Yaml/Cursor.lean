import StorageBroker.Malformed
/-!
# Places in a text

Reading a structured document needs to know what is left of the text and where that stands: the
column decides what belongs together. A cursor holds both, and moves character by character.

* `step`, `skip` -- moving on keeps count of lines and columns;
* `readBreak?` -- a line break is read as one character, whatever it looks like;
* `problem` -- a text that ends too early is told from one that does not fit.
-/

namespace StorageBroker.Yaml

/-- Why a document cannot be read. -/
inductive Problem where
  /-- The text is no document. -/
  | grammar
  /-- The text ends too early to be a document. -/
  | cut
  /-- The text is a document, and what stands in it has no value. -/
  | content (m : Malformed)

/-! ## 1. Characters -/

/-- The characters that end a line. -/
def isBreak (c : Char) : Bool :=
  c == '\n' || c == '\r' || c == '\u0085' || c == '\u2028' || c == '\u2029'

/-- Whether there is no more text, or a line ends, or a blank follows. -/
def endsWord : Option Char → Bool
  | none => true
  | some c => isBreak c || c == ' ' || c == '\t'

/-- Whether there is no more text, or a line ends, or a blank other than a tab follows. -/
def endsMark : Option Char → Bool
  | none => true
  | some c => isBreak c || c == ' '

/-- The characters of names. -/
def isNameChar (c : Char) : Bool := c.isAlphanum || c == '-' || c == '_'

/-- The mark that may stand at the beginning of a text. -/
def byteOrderMark : Char := '\uFEFF'

/-! ## 2. Cursors -/

structure Cursor where
  rest : List Char
  index : Nat
  line : Nat
  column : Nat

namespace Cursor

def start (cs : List Char) : Cursor := ⟨cs, 0, 0, 0⟩

/-- The next character. -/
def peek (c : Cursor) : Option Char := c.rest.head?

/-- The character at a distance. -/
def peekAt (c : Cursor) (n : Nat) : Option Char := (c.rest.drop n).head?

/-- Moves past one character. -/
def step (c : Cursor) : Cursor :=
  match c.rest with
  | [] => c
  | x :: rest =>
    if isBreak x then ⟨rest, c.index + 1, c.line + 1, 0⟩
    else ⟨rest, c.index + 1, c.line, if x = byteOrderMark then c.column else c.column + 1⟩

/-- Moves past some characters. -/
def skip (c : Cursor) : Nat → Cursor
  | 0 => c
  | n + 1 => c.step.skip n

/-- The characters at the front that a test picks, and the place after them. -/
def takeWhile (c : Cursor) (p : Char → Bool) : List Char × Cursor :=
  let taken := c.rest.takeWhile p
  (taken, c.skip taken.length)

def dropWhile (c : Cursor) (p : Char → Bool) : Cursor := (c.takeWhile p).2

/-- Moves past blanks in the line. -/
def skipBlanks (c : Cursor) : Cursor := c.dropWhile (· == ' ')

/-- Moves past a comment, if there is one. -/
def skipComment (c : Cursor) : Cursor :=
  if c.peek = some '#' then c.dropWhile fun x => !isBreak x else c

/-- A line break and the place after it. Two kinds of break are kept as they are. -/
def readBreak? (c : Cursor) : Option (Char × Cursor) :=
  match c.peek with
  | some x =>
    if isBreak x then some (if x == '\u2028' || x == '\u2029' then x else '\n', c.step) else none
  | none => none

/-- Why reading fails here: there is no more text, or what stands here does not fit. -/
def problem (c : Cursor) : Problem := if c.rest.isEmpty then .cut else .grammar

/-- Moves past the rest of a line, which may hold nothing but a comment. -/
def skipLine (c : Cursor) : Except Problem Cursor :=
  let c := c.skipBlanks.skipComment
  match c.readBreak?, c.peek with
  | some (_, c), _ => .ok c
  | none, none => .ok c
  | none, some _ => .error .grammar

/-- Whether a word of three characters stands here by itself. -/
def holds (c : Cursor) (word : List Char) : Bool :=
  c.rest.take 3 == word && endsWord (c.peekAt 3)

/-- Whether a mark between documents stands here. -/
def atSeparator (c : Cursor) : Bool := c.holds ['-', '-', '-'] || c.holds ['.', '.', '.']

theorem rest_step (c : Cursor) : c.step.rest = c.rest.tail := by
  cases c with
  | mk rest index line column =>
    cases rest with
    | nil => rfl
    | cons x rest =>
      unfold step
      by_cases h : isBreak x <;> simp [h]

theorem rest_skip (c : Cursor) (n : Nat) : (c.skip n).rest = c.rest.drop n := by
  induction n generalizing c with
  | zero => simp [skip]
  | succ n ih => rw [skip, ih, rest_step, List.drop_tail]

end Cursor

end StorageBroker.Yaml
