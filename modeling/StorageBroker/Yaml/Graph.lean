import StorageBroker.Yaml.Tag
/-!
# Nodes

A document is a graph of scalars, sequences and mappings. A node is known by its number, so that it
can stand in several places, and even within itself: a name that is given to a node stands for it
from its beginning on.

* `node_set` -- setting one node changes no other;
* `scalarText` -- the text of a node where a scalar is needed;
* `scalarText_scalar` -- of a scalar that is its own text.
-/

namespace StorageBroker.Yaml

/-- What a node consists of. -/
inductive Content where
  | scalar (text : Text)
  | sequence (items : List Nat)
  | mapping (entries : List (Nat × Nat))
deriving Repr

instance : Inhabited Content := ⟨.scalar ""⟩

structure Node where
  tag : Tag
  content : Content
deriving Repr, Inhabited

/-- The nodes of a document by their numbers. -/
abbrev Graph := Array Node

namespace Graph

/-! ## 1. Nodes by number -/

def node (g : Graph) (i : Nat) : Node := g[i]?.getD default

def tag (g : Graph) (i : Nat) : Tag := (g.node i).tag

def content (g : Graph) (i : Nat) : Content := (g.node i).content

def set (g : Graph) (i : Nat) (n : Node) : Graph := g.setIfInBounds i n

def setContent (g : Graph) (i : Nat) (c : Content) : Graph := g.set i { g.node i with content := c }

def setTag (g : Graph) (i : Nat) (t : Tag) : Graph := g.set i { g.node i with tag := t }

theorem node_set (g : Graph) (i j : Nat) (n : Node) :
    (g.set i n).node j = if i = j ∧ i < g.size then n else g.node j := by
  unfold node set
  rw [Array.getElem?_setIfInBounds]
  by_cases hij : i = j
  · subst hij
    by_cases hi : i < g.size <;> simp [hi]
  · simp [hij]

/-- The entries of a node that is a mapping. -/
def entries? (g : Graph) (i : Nat) : Option (List (Nat × Nat)) :=
  match g.content i with
  | .mapping es => some es
  | _ => none

/-- The items of a node that is a sequence. -/
def items? (g : Graph) (i : Nat) : Option (List Nat) :=
  match g.content i with
  | .sequence xs => some xs
  | _ => none

/-! ## 2. Texts -/

/-- **The text of a node where a scalar is needed.** A mapping gives the one of its plain value;
what leads back to itself has none. -/
def scalarText (g : Graph) : (bound : Nat) → Nat → Except Problem Text
  | 0, _ => .error (.content (.depth "maximum recursion depth exceeded"))
  | bound + 1, i =>
    match g.content i with
    | .scalar t => .ok t
    | .sequence _ => .error .grammar
    | .mapping es => match es.find? fun e => g.tag e.1 == .plainValue with
      | some e => g.scalarText bound e.2
      | none => .error .grammar

theorem scalarText_scalar {g : Graph} {i : Nat} {t : Text} (h : g.content i = .scalar t)
    (bound : Nat) : g.scalarText (bound + 1) i = .ok t := by
  simp [scalarText, h]

end Graph

/-- A document: its nodes and the one that it stands for. -/
structure Document where
  graph : Graph
  root : Nat

end StorageBroker.Yaml
