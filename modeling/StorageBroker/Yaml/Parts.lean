import StorageBroker.Text.Base64
import StorageBroker.Yaml.Graph.Merge
/-!
# Parts

A node is made into a value by its tag. What a collection holds is made later, when everything that
was asked for before has been made, so of two faults in a document the outer one shows first, and of
two at one depth the earlier one. A node is made once, wherever it stands.

* `valueOf` -- the value of a scalar by its tag;
* `valueOf_text` -- a text stands for itself;
* `ofDocument` -- the parts of every node of a document.
-/

namespace StorageBroker.Yaml

/-- What a node has been made into; the parts of a collection are nodes again. -/
inductive Parts where
  | leaf (v : Value)
  | list (items : List Nat)
  /-- A list of tuples of two. -/
  | tuples (entries : List (Nat × Nat))
  | set (keys : List Value)
  | mapping (entries : List (Value × Nat))

namespace Parts

/-! ## 1. Scalars -/

/-- The truth value of a word. -/
def readTruth (t : Text) : Except Problem Bool :=
  let word := t.map Char.toLower
  match Tag.truths.find? fun t => t.1 == word with
  | some t => .ok t.2
  | none => .error (.content (.key (.text word)))

/-- The bytes of a text in base 64. -/
def readBinary (cs : List Char) : Except Problem Value :=
  if cs.any fun c => 128 ≤ c.toNat then .error .grammar
  else match Text.Base64.decode? cs with
    | some bs => .ok (.bytes bs)
    | none => .error .grammar

def noTimestamp : Problem := .content (.lacks .null "groupdict")

/-- The date or the moment of a text. -/
def readTimestamp (cs : List Char) : Except Problem Value :=
  match Timestamp.read? (Tag.withoutBreak cs) with
  | some t => t.value
  | none => .error noTimestamp

/-- The scalars of a text for a reader that takes no half, and fails with a problem where one is. -/
def scalarsOf (t : Text) (p : Problem) : Except Problem (List Char) :=
  match t.string? with
  | some s => .ok s.toList
  | none => .error p

/-- **The value of a scalar by its tag**; a tag that tells of no scalar has none. -/
def valueOf (tag : Tag) (t : Text) : Except Problem Value :=
  match tag with
  | .null => .ok .null
  | .bool => .bool <$> readTruth t
  | .integer => do return .int (← Numeral.readInteger (← scalarsOf t (Numeral.noInteger t)))
  | .double => do return .float (← Numeral.readDouble (← scalarsOf t (Numeral.noDouble t)))
  | .text => .ok (.text t)
  | .binary => do readBinary (← scalarsOf t .grammar)
  | .timestamp => do readTimestamp (← scalarsOf t noTimestamp)
  | .sequence | .mapping | .set | .orderedMapping | .pairs | .merge | .plainValue | .unknown =>
    .error .grammar

theorem valueOf_text (t : Text) : valueOf .text t = .ok (.text t) := rfl

/-- Whether a tag tells of a collection. -/
def isCollection : Tag → Bool
  | .sequence | .mapping | .set | .orderedMapping | .pairs => true
  | _ => false

/-- Whether a tag tells of a scalar. -/
def isScalar : Tag → Bool
  | .null | .bool | .integer | .double | .text | .binary | .timestamp => true
  | _ => false

/-- The value of a node by its tag, which is that of a scalar. A timestamp has to be a scalar
itself. -/
def scalarOf (g : Graph) (i : Nat) : Except Problem Value := do
  let t := g.tag i
  if !isScalar t then throw .grammar
  let text ← g.scalarText (g.size + 1) i
  match t, g.content i with
  | .timestamp, .mapping _ =>
    throw (.content (.kind "expected string or bytes-like object, got 'list'"))
  | t, _ => valueOf t text

/-! ## 2. Making -/

/-- The nodes, what has been made of each of them, and the collections whose parts are to be made,
the last one first. -/
structure Workshop where
  graph : Graph
  made : Array (Option Parts)
  waiting : List Nat

/-- What is done in a workshop. -/
abbrev Making (α : Type) := StateT Workshop (Except Problem) α

def put (i : Nat) (p : Parts) : Making Unit :=
  modify fun w => { w with made := w.made.setIfInBounds i (some p) }

/-- Makes a node. The parts of a collection wait. -/
def make (i : Nat) : Making Unit := do
  let w ← get
  if (w.made[i]?.getD none).isNone then
    if isCollection (w.graph.tag i) then
      modify fun w => { w with waiting := i :: w.waiting }
      put i (.list [])
    else put i (.leaf (← scalarOf w.graph i))

/-- Makes a node that is a key, which no collection can be, and gives its value. -/
def makeKey (i : Nat) : Making Value := do
  make i
  match (← get).made[i]? with
  | some (some (.leaf v)) => return v
  | _ => throw .grammar

/-- The items of a node that has to be a sequence. -/
def itemsOf (i : Nat) : Making (List Nat) := do
  match (← get).graph.items? i with
  | some xs => return xs
  | none => throw .grammar

/-- Makes the entries of a mapping, after it has taken in those of others. -/
def makeEntries (i : Nat) : Making (List (Value × Nat)) := do
  let g ← (← get).graph.flatten i
  modify fun w => { w with graph := g }
  (← g.entriesOf i).mapM fun e => do
    let k ← makeKey e.1
    make e.2
    return (k, e.2)

/-- Makes the only entry of a mapping. -/
def makePair (i : Nat) : Making (Nat × Nat) := do
  match (← get).graph.entries? i with
  | some [(k, v)] =>
    make k
    make v
    return (k, v)
  | _ => throw .grammar

/-- Makes the parts of a collection. -/
def fill (i : Nat) : Making Unit := do
  match (← get).graph.tag i with
  | .sequence =>
    let items ← itemsOf i
    items.forM make
    put i (.list items)
  | .mapping => put i (.mapping (← makeEntries i))
  | .set => put i (.set ((← makeEntries i).map Prod.fst))
  | .orderedMapping | .pairs => put i (.tuples (← (← itemsOf i).mapM makePair))
  | _ => return

/-- Makes the parts of everything that waits, round by round. -/
def fillAll : (bound : Nat) → Making Unit
  | 0 => return
  | bound + 1 => do
    let round := (← get).waiting.reverse
    if round.isEmpty then return
    modify fun w => { w with waiting := [] }
    round.forM fill
    fillAll bound

/-- **The parts of the nodes of a document.** -/
def ofDocument (d : Document) : Except Problem (Array Parts) := do
  let start : Workshop := ⟨d.graph, Array.replicate d.graph.size none, []⟩
  let work : Making Unit := do
    make d.root
    fillAll (d.graph.size + 1)
  let (_, w) ← work.run start
  return w.made.map fun p => p.getD (.leaf .null)

end Parts

end StorageBroker.Yaml
