import StorageBroker.Yaml.Graph
import StorageBroker.Yaml.Token
/-!
# Nodes out of tokens

A node may have a name and a tag in front of it. A name may be given once, and an alias stands for
the node of a name. A place where a node is missing holds an empty scalar.

The readers take the tokens that are left and go on with what is left after a node. Where tokens
are missing because the text could not be read on, a reader fails for that reason, and only when it
needs one. Every second call takes a token, so the number of tokens bounds the depth of the calls.

* `ofTokens` -- the nodes of a document and its root; there has to be exactly one document;
* `ofTokens_nil` -- a text without tokens has none.
-/

namespace StorageBroker.Yaml.Graph

/-! ## 1. State of the reading -/

/-- The tokens that are left with the nodes, the names and the handles known so far. -/
structure State where
  tokens : List Token
  /-- Why there are no more tokens. -/
  problem : Option Problem
  graph : Graph
  names : List (List Char × Nat)
  handles : Handles
  /-- How many collections are open. -/
  level : Nat

/-- Readers of a part of a document. -/
abbrev Reader (α : Type) := StateT State (Except Problem) α

def fail {α : Type} : Reader α := throw .grammar

/-- The next token, which stays. -/
def peek : Reader (Option Token) := do
  let s ← get
  match s.tokens, s.problem with
  | t :: _, _ => return some t
  | [], some p => throw p
  | [], none => return none

/-- Moves past a token. -/
def advance : Reader Unit := modify fun s => { s with tokens := s.tokens.tail }

/-- Moves past a token of a kind, if it is the next one. -/
def skip (t : Token) : Reader Bool := do
  if (← peek) = some t then
    advance
    return true
  else return false

/-- Moves past the comma in front of every item but the first. -/
def skipComma (isFirst : Bool) : Reader Unit := do
  if !isFirst then
    if !(← skip .comma) then fail

/-- Whether one of some tokens comes next. -/
def sees (ts : List Token) : Reader Bool := do
  match ← peek with
  | some t => return ts.contains t
  | none => return false

/-! ## 2. Names and tags -/

/-- The name and the tag in front of a node. -/
structure Properties where
  name : Option (List Char)
  tag : Option (List Char)

namespace Properties

def isEmpty (p : Properties) : Bool := p.name.isNone && p.tag.isNone

end Properties

def readName : Reader (Option (List Char)) := do
  match ← peek with
  | some (.anchor n) =>
    advance
    return some n
  | _ => return none

def readMark : Reader (Option TagMark) := do
  match ← peek with
  | some (.tag m) =>
    advance
    return some m
  | _ => return none

/-- The text of a tag, whose handle has to stand for something. -/
def resolve (mark : Option TagMark) : Reader (Option (List Char)) := do
  match mark with
  | none => return none
  | some m => match (← get).handles.resolve? m with
    | some t => return some t
    | none => fail

/-- A name and a tag, in either order. -/
def readProperties : Reader Properties := do
  match ← readName with
  | some n => return ⟨some n, ← resolve (← readMark)⟩
  | none =>
    let mark ← readMark
    let name ← if mark.isSome then readName else pure none
    return ⟨name, ← resolve mark⟩

/-- Fails if a name has been given. -/
def checkName (name : Option (List Char)) : Reader Unit := do
  match name with
  | none => return
  | some n => if (← get).names.any fun e => e.1 == n then fail

/-- The node of a name. -/
def nodeNamed (name : List Char) : Reader Nat := do
  match (← get).names.find? fun e => e.1 == name with
  | some e => return e.2
  | none => fail

/-! ## 3. Making nodes -/

/-- Adds a node and gives it its name. -/
def add (name : Option (List Char)) (n : Node) : Reader Nat :=
  modifyGet fun s =>
    let i := s.graph.size
    (i, { s with
      graph := s.graph.push n
      names := (name.map fun x => (x, i)).toList ++ s.names })

def addScalar (p : Properties) (isPlain : Bool) (text : Text) : Reader Nat :=
  add p.name ⟨.ofScalar p.tag isPlain text, .scalar text⟩

/-- What stands in the place of a missing node. -/
def addEmpty : Reader Nat := addScalar ⟨none, none⟩ true ""

/-- How many collections may lie in each other. -/
def deepest : Nat := 488

/-- Adds a collection, whose name is known within itself, and reads what it holds. -/
def addCollection (name : Option (List Char)) (tag : Tag) (start : Content)
    (readContent : Reader Content) : Reader Nat := do
  let i ← add name ⟨tag, start⟩
  let level := (← get).level
  if deepest ≤ level then
    throw (.content (.depth "maximum recursion depth exceeded"))
  modify fun s => { s with level := level + 1 }
  let c ← readContent
  modify fun s => { s with level, graph := s.graph.setContent i c }
  return i

def addSequence (p : Properties) (readItems : Reader (List Nat)) : Reader Nat :=
  addCollection p.name (.ofCollection p.tag .sequence) (.sequence []) (.sequence <$> readItems)

def addMapping (p : Properties) (readEntries : Reader (List (Nat × Nat))) : Reader Nat :=
  addCollection p.name (.ofCollection p.tag .mapping) (.mapping []) (.mapping <$> readEntries)

/-- What stands in the place of a node that has nothing but a name or a tag. -/
def addBare (p : Properties) : Reader Nat := do
  if p.isEmpty then fail else addScalar p true ""

/-! ## 4. Nodes -/

/-- Where a node stands decides which forms it may have. -/
inductive Place where
  /-- In a flow collection. -/
  | flow
  /-- In a block. -/
  | block
  /-- In a block mapping, where a sequence need not be indented. -/
  | entry
deriving DecidableEq, Repr

/-- The tokens that end an entry of a block mapping. -/
def entryEnds : List Token := [.key, .value, .blockEnd]

mutual

/-- A node. -/
def readNode (place : Place) : (bound : Nat) → Reader Nat
  | 0 => fail
  | bound + 1 => do
    match ← peek with
    | some (.alias n) =>
      advance
      nodeNamed n
    | _ => readContent place (← readProperties) bound

/-- A node after its name and tag. -/
def readContent (place : Place) (p : Properties) : (bound : Nat) → Reader Nat
  | 0 => fail
  | bound + 1 => do
    let next ← peek
    checkName p.name
    match next with
    | some (.scalar isPlain text) =>
      advance
      addScalar p isPlain text
    | some .openList =>
      advance
      addSequence p (readFlowItems true bound)
    | some .openMapping =>
      advance
      addMapping p (readFlowEntries true bound)
    | some .entry => if place = .entry then addSequence p (readEntries bound) else addBare p
    | some .blockSequence =>
      if place = .flow then addBare p
      else
        advance
        addSequence p (readItems bound)
    | some .blockMapping =>
      if place = .flow then addBare p
      else
        advance
        addMapping p (readMapping bound)
    | _ => addBare p

/-- A node, or an empty one where one of some tokens comes next. -/
def readUnless (ends : List Token) (place : Place) : (bound : Nat) → Reader Nat
  | 0 => fail
  | bound + 1 => do
    if ← sees ends then addEmpty else readNode place bound

/-- The value of a key, which may be missing. -/
def readValue (ends : List Token) (place : Place) : (bound : Nat) → Reader Nat
  | 0 => fail
  | bound + 1 => do
    if ← skip .value then readUnless ends place bound else addEmpty

/-- The items of a block sequence up to its end. -/
def readItems : (bound : Nat) → Reader (List Nat)
  | 0 => fail
  | bound + 1 => do
    if ← skip .entry then
      let item ← readUnless [.entry, .blockEnd] .block bound
      return item :: (← readItems bound)
    else if ← skip .blockEnd then return []
    else fail

/-- The items of a sequence that is not indented; no token ends it. -/
def readEntries : (bound : Nat) → Reader (List Nat)
  | 0 => fail
  | bound + 1 => do
    if ← skip .entry then
      let item ← readUnless (.entry :: entryEnds) .block bound
      return item :: (← readEntries bound)
    else return []

/-- The entries of a block mapping up to its end. -/
def readMapping : (bound : Nat) → Reader (List (Nat × Nat))
  | 0 => fail
  | bound + 1 => do
    if ← skip .key then
      let k ← readUnless entryEnds .entry bound
      let v ← readValue entryEnds .entry bound
      return (k, v) :: (← readMapping bound)
    else if ← skip .blockEnd then return []
    else fail

/-- The items of a flow sequence up to its end, with commas between them. -/
def readFlowItems (isFirst : Bool) : (bound : Nat) → Reader (List Nat)
  | 0 => fail
  | bound + 1 => do
    if ← skip .closeList then return []
    else
      skipComma isFirst
      if ← skip .closeList then return []
      else
        let item ←
          if ← skip .key then addMapping ⟨none, none⟩ (readFlowEntry .closeList bound)
          else readNode .flow bound
        return item :: (← readFlowItems false bound)

/-- The entry of a flow collection after the sign in front of its key. -/
def readFlowEntry (close : Token) : (bound : Nat) → Reader (List (Nat × Nat))
  | 0 => fail
  | bound + 1 => do
    let k ← readUnless [.value, .comma, close] .flow bound
    let v ← readValue [.comma, close] .flow bound
    return [(k, v)]

/-- The entries of a flow mapping up to its end, with commas between them. -/
def readFlowEntries (isFirst : Bool) : (bound : Nat) → Reader (List (Nat × Nat))
  | 0 => fail
  | bound + 1 => do
    if ← skip .closeMapping then return []
    else
      skipComma isFirst
      if ← skip .closeMapping then return []
      else if ← skip .key then
        let entry ← readFlowEntry .closeMapping bound
        return entry ++ (← readFlowEntries false bound)
      else
        let k ← readNode .flow bound
        let v ← addEmpty
        return (k, v) :: (← readFlowEntries false bound)

end

/-! ## 5. Documents -/

/-- What the directives in front of a document have told. -/
structure Preamble where
  hasVersion : Bool
  handles : Handles

namespace Preamble

def start : Preamble := ⟨false, []⟩

/-- Takes in a directive. A document has one version at most, of which the first number is one,
and gives each of its handles one meaning. -/
def add (p : Preamble) : Directive → Except Problem Preamble
  | .version major =>
    if p.hasVersion || major != 1 then .error .grammar else .ok { p with hasVersion := true }
  | .handle name front =>
    if (p.handles.find? name).isSome then .error .grammar
    else .ok { p with handles := p.handles.declare name front }
  | .other => .ok p

end Preamble

/-- The directives in front of a document. -/
def readDirectives : (bound : Nat) → Preamble → Reader Preamble
  | 0, p => return p
  | bound + 1, p => do
    match ← peek with
    | some (.directive d) =>
      advance
      readDirectives bound (← p.add d)
    | _ => return p

/-- Directives in front of a document, which has to be marked then. -/
def readPreamble (bound : Nat) : Reader Unit := do
  let p ← readDirectives bound .start
  if ← skip .documentStart then
    modify fun s => { s with handles := p.handles ++ Handles.standard }
  else fail

/-- Marks of the end of a document. -/
def skipEnds : (bound : Nat) → Reader Unit
  | 0 => return
  | bound + 1 => do
    if ← skip .documentEnd then skipEnds bound else return

/-- Whether a token stands between documents. -/
def isBetween : Token → Bool
  | .directive _ | .documentStart | .documentEnd => true
  | _ => false

/-- The root of a document that is marked. -/
def readMarked (bound : Nat) : Reader Nat := do
  readPreamble bound
  match ← peek with
  | none => addEmpty
  | some t => if isBetween t then addEmpty else readNode .block bound

/-- The root of the first document, if there is one. -/
def readFirst (bound : Nat) : Reader (Option Nat) := do
  match ← peek with
  | none => return none
  | some (.directive _) | some .documentStart => return some (← readMarked bound)
  | some _ => return some (← readNode .block bound)

/-- The root of the only document, if there is one. What begins another one is still read as the
beginning of a document. -/
def readDocument (bound : Nat) : Reader (Option Nat) := do
  let root ← readFirst bound
  skipEnds bound
  match ← peek with
  | none => return root
  | some _ =>
    readPreamble bound
    fail

/-- **The document that tokens spell**, nothing where there is none. -/
def ofTokens (ts : Tokens) : Except Problem (Option Document) := do
  let bound := 4 * ts.list.length + 4
  let (root, s) ← (readDocument bound).run ⟨ts.list, ts.problem, #[], [], .standard, 0⟩
  return root.map fun i => ⟨s.graph, i⟩

theorem ofTokens_nil : ofTokens ⟨[], none⟩ = .ok none := rfl

end StorageBroker.Yaml.Graph
