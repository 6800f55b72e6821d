import StorageBroker.Yaml.Numeral
import StorageBroker.Yaml.TagMark
import StorageBroker.Yaml.Timestamp
/-!
# Tags

The tag of a node tells its type. It is written in front of the node; without one a collection has
the tag of its shape, and a scalar the one that its spelling implies if it is plain, else that of
texts. Only the tags of the core schema tell anything.

* `ofText` -- the tag of a text;
* `ofSpelling` -- the tag that a spelling implies;
* `ofSpelling_of_isDouble`, `ofSpelling_of_isInteger` -- numerals are numbers, whatever is tested
  first.
-/

namespace StorageBroker.Yaml

inductive Tag where
  | null
  | bool
  | integer
  | double
  | text
  | binary
  | timestamp
  | sequence
  | mapping
  | set
  /-- A sequence of mappings with one entry each, whose keys should differ. -/
  | orderedMapping
  /-- A sequence of mappings with one entry each. -/
  | pairs
  /-- The key under which a mapping takes in the entries of others. -/
  | merge
  /-- The key of the value that a mapping has where a scalar is needed. -/
  | plainValue
  | unknown
deriving DecidableEq, Repr, Inhabited

namespace Tag

/-! ## 1. Written tags -/

/-- The names of the tags in the core schema. -/
def names : List (String × Tag) :=
  [("null", .null), ("bool", .bool), ("int", .integer), ("float", .double), ("str", .text),
    ("binary", .binary), ("timestamp", .timestamp), ("seq", .sequence), ("map", .mapping),
    ("set", .set), ("omap", .orderedMapping), ("pairs", .pairs), ("merge", .merge),
    ("value", .plainValue)]

/-- **The tag of a text.** -/
def ofText (cs : List Char) : Tag :=
  match names.find? fun e => Handles.coreSchema ++ e.1.toList == cs with
  | some e => e.2
  | none => .unknown

/-! ## 2. Spellings -/

def truths : List (String × Bool) :=
  [("yes", true), ("no", false), ("true", true), ("false", false), ("on", true), ("off", false)]

/-- The three ways of writing a word: in small letters, with a capital one in front, in capital
ones. -/
def spellings (word : String) : List (List Char) :=
  let cs := word.toList
  [cs, (cs.take 1).map Char.toUpper ++ cs.drop 1, cs.map Char.toUpper]

def isTruth (cs : List Char) : Bool := truths.any fun t => (spellings t.1).contains cs

def isNull (cs : List Char) : Bool :=
  cs.isEmpty || cs = ['~'] || (spellings "null").contains cs

/-- Whether a text is one of the signs in front of tags, names and aliases. -/
def isSign (cs : List Char) : Bool := cs = ['!'] || cs = ['&'] || cs = ['*']

/-- The tag that a spelling implies if no line break ends it. -/
def ofLine (cs : List Char) : Tag :=
  if isTruth cs then .bool
  else if Numeral.isDouble cs then .double
  else if Numeral.isInteger cs then .integer
  else if cs = ['<', '<'] then .merge
  else if isNull cs then .null
  else if Timestamp.isTimestamp cs then .timestamp
  else if cs = ['='] then .plainValue
  else if isSign cs then .unknown
  else .text

/-- A text without one line break at its end. -/
def withoutBreak (cs : List Char) : List Char :=
  if cs.getLast? = some '\n' then cs.dropLast else cs

/-- **The tag that a spelling implies.** One line break at its end changes nothing, unless there
is nothing else. -/
def ofSpelling (cs : List Char) : Tag :=
  if cs = ['\n'] then .text else ofLine (withoutBreak cs)

theorem ofSpelling_of_isDouble {cs : List Char} (hb : ¬ isTruth cs) (h : Numeral.isDouble cs)
    (hl : cs.getLast? ≠ some '\n') : ofSpelling cs = .double := by
  have hn : cs ≠ ['\n'] := by rintro rfl; exact hl rfl
  simp [ofSpelling, hn, withoutBreak, hl, ofLine, hb, h]

theorem ofSpelling_of_isInteger {cs : List Char} (hb : ¬ isTruth cs) (h : Numeral.isInteger cs)
    (hl : cs.getLast? ≠ some '\n') : ofSpelling cs = .integer := by
  have hn : cs ≠ ['\n'] := by rintro rfl; exact hl rfl
  have hd : ¬ Numeral.isDouble cs := fun hd => Numeral.not_isInteger_of_isDouble hd h
  simp [ofSpelling, hn, withoutBreak, hl, ofLine, hb, h, hd]

/-- The tag that the spelling of a text implies; with a half in it nothing but a text is spelled. -/
def implied (t : Text) : Tag :=
  match t.string? with
  | some s => ofSpelling s.toList
  | none => .text

/-- The tag of a scalar. Without a written tag only a plain one is read for its spelling. -/
def ofScalar (written : Option (List Char)) (isPlain : Bool) (t : Text) : Tag :=
  match written with
  | none => if isPlain then implied t else .text
  | some tag => if tag = TagMark.unspecific then implied t else ofText tag

theorem ofScalar_none_quoted (t : Text) : ofScalar none false t = .text := rfl

/-- The tag of a collection; `shape` is the one that it has by itself. -/
def ofCollection (written : Option (List Char)) (shape : Tag) : Tag :=
  match written with
  | none => shape
  | some t => if t = TagMark.unspecific then shape else ofText t

end Tag

end StorageBroker.Yaml
