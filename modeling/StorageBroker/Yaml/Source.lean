import StorageBroker.Text.Utf8
import StorageBroker.Yaml.Cursor
/-!
# Sources

The text of a document comes out of bytes a piece at a time: bytes are taken in chunks and
characters in blocks, and the first block is a double one. A chunk is larger where the one before it
shows that characters take many bytes. A byte that fits nothing or a character that no document
holds spoils the block it falls into. What stands in front of that block is still read, so a document
may fail for another reason before the place is reached.

* `cr_not_mem_withNewlines` -- a line break has one form when a document is read;
* `wholeBlocks_le` -- no more is read than there is;
* `ofText_of_all` -- a text of characters that a document holds is read to its end.
-/

namespace StorageBroker.Yaml

/-- The text of a document as far as it can be read. -/
structure Source where
  text : List Char
  /-- Why there is no more text; nothing if the document ends there. -/
  ending : Option Problem

namespace Source

/-! ## 1. Characters -/

/-- The characters that a document may hold. -/
def isAllowed (c : Char) : Bool :=
  let n := c.toNat
  n == 9 || n == 10 || n == 13 || (0x20 ≤ n && n ≤ 0x7E) || n == 0x85
    || (0xA0 ≤ n && n ≤ 0xD7FF) || (0xE000 ≤ n && n ≤ 0xFFFD) || 0x10000 ≤ n

/-- A text with one kind of line break. -/
def withNewlines : List Char → List Char
  | [] => []
  | '\r' :: '\n' :: cs => '\n' :: withNewlines cs
  | '\r' :: cs => '\n' :: withNewlines cs
  | c :: cs => c :: withNewlines cs

theorem cr_not_mem_withNewlines (cs : List Char) : '\r' ∉ withNewlines cs := by
  fun_induction withNewlines cs with
  | case1 => simp
  | case2 cs ih => simp [ih]
  | case3 cs _ ih => simp [ih]
  | case4 c cs _ h ih =>
    have : ¬ '\r' = c := fun hc => h hc.symm
    simp [ih, this]

/-! ## 2. Pieces -/

/-- How many bytes are taken at a time at least. -/
def chunkSize : Nat := 8192

/-- How many characters are taken at a time. -/
def blockSize : Nat := 4096

/-- How many characters the blocks hold that are complete in a number of characters. -/
def wholeBlocks (n : Nat) : Nat := if n < 2 * blockSize then 0 else n / blockSize * blockSize

theorem wholeBlocks_le (n : Nat) : wholeBlocks n ≤ n := by
  unfold wholeBlocks
  split
  · omega
  · exact Nat.div_mul_le_self n blockSize

/-- The characters of bytes; one that may be the first half of a line break waits for the next
chunk. -/
def charactersOf (bs : List UInt8) : List Char :=
  let cs := (Text.Utf8.decode bs).1
  withNewlines (if cs.getLast? = some '\r' then cs.dropLast else cs)

/-- How many bytes the next chunk holds: as many as the rest of a block should take, where the last
chunk had so many bytes for so many characters. -/
def nextChunk (bytes characters rest : Nat) : Nat := max chunkSize (bytes * rest / characters)

/-- Where the chunk of a place begins, from a chunk in front of it on. -/
def chunkOf (bs : List UInt8) (place : Nat) : (bound start bytes characters : Nat) → Nat
  | 0, start, _, _ => start
  | bound + 1, start, bytes, characters =>
    let before := (charactersOf (bs.take start)).length
    let size := nextChunk bytes characters (blockSize - before % blockSize)
    if place < start + size then start
    else
      let after := (charactersOf (bs.take (start + size))).length
      chunkOf bs place bound (start + size) size (after - before)

/-- The bytes in front of the chunk of a place, or all of them if the place is behind them. -/
def chunksBefore (bs : List UInt8) (place : Nat) : List UInt8 :=
  if place < bs.length then bs.take (chunkOf bs place (place / chunkSize + 1) 0 0 0) else bs

/-- A text up to the block of its first character that no document holds. -/
def ofText (cs : List Char) (ending : Option Problem) : Source :=
  let good := cs.takeWhile isAllowed
  if good.length < cs.length then ⟨good.take (wholeBlocks good.length), some .grammar⟩
  else ⟨cs, ending⟩

theorem takeWhile_isAllowed {cs : List Char} (h : ∀ c ∈ cs, isAllowed c) :
    cs.takeWhile isAllowed = cs := by
  induction cs with
  | nil => rfl
  | cons c cs ih =>
    rw [List.takeWhile_cons_of_pos (h c List.mem_cons_self),
      ih fun d hd => h d (List.mem_cons_of_mem c hd)]

theorem ofText_of_all {cs : List Char} (h : ∀ c ∈ cs, isAllowed c) (ending : Option Problem) :
    ofText cs ending = ⟨cs, ending⟩ := by
  simp [ofText, takeWhile_isAllowed h]

/-- **The source that bytes are.** -/
def ofBytes (bs : List UInt8) : Source :=
  match Text.Utf8.decode bs with
  | (cs, none) => ofText (withNewlines cs) none
  | (_, some place) =>
    let cs := charactersOf (chunksBefore bs place)
    ofText (cs.take (wholeBlocks cs.length))
      (some (.content (.encoding "the bytes are no text in UTF-8")))

end Source

end StorageBroker.Yaml
