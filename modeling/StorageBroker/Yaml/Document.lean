import StorageBroker.Value.Mapping
import StorageBroker.Value.Nesting
import StorageBroker.Yaml.Graph.Reader
import StorageBroker.Yaml.Parts
/-!
# Documents

A document stands for a value. Its nodes are read from the tokens of the text, made into parts, and
put together from the root on. A node that holds itself would go on without end; a few levels of it
are written out, and below them stands a value that is nested deeper than anything that reads values
goes.

* `Parts.value_leaf` -- a scalar stands for its own value;
* `read` -- the value of bytes;
* `read_nil` -- no bytes stand for nothing.
-/

namespace StorageBroker.Yaml

namespace Parts

/-! ## 1. Values of parts -/

/-- The nodes in a node. -/
def children : Parts → List Nat
  | .leaf _ | .set _ => []
  | .list items => items
  | .tuples es => es.flatMap fun e => [e.1, e.2]
  | .mapping es => es.map Prod.snd

/-- The value of parts, given those of the nodes in them. Of entries with one key the last one
holds, in the place of the first one. -/
def value (child : Nat → Value) : Parts → Value
  | .leaf v => v
  | .list items => .list (items.map child)
  | .tuples es => .list (es.map fun e => .tuple [child e.1, child e.2])
  | .set keys => .set (Mapping.update [] (keys.map fun k => (k, .null))).keys
  | .mapping es => .mapping (Mapping.update [] (es.map fun e => (e.1, child e.2)))

theorem value_leaf (child : Nat → Value) (v : Value) : (Parts.leaf v).value child = v := rfl

/-! ## 2. Nodes with an end -/

/-- How far the value of a node is known. -/
inductive Progress where
  | fresh
  /-- It is being put together. -/
  | begun
  /-- It is known, or the node holds itself somewhere. -/
  | done (v : Option Value)

namespace Progress

def value? : Progress → Option Value
  | .done v => v
  | _ => none

end Progress

/-- The value of a node, as far as it is known. -/
def known (progress : Array Progress) (i : Nat) : Option Value :=
  (progress[i]?.getD .fresh).value?

/-- Puts a node together, after the nodes in it. -/
def settle (parts : Array Parts) : (bound : Nat) → Nat → StateM (Array Progress) Unit
  | 0, _ => return
  | bound + 1, i => do
    match (← get)[i]?, parts[i]? with
    | some .fresh, some p =>
      modify fun s => s.setIfInBounds i .begun
      p.children.forM (settle parts bound)
      modify fun s =>
        let v := if p.children.all fun c => (known s c).isSome then
            some (p.value fun c => (known s c).getD .null) else none
        s.setIfInBounds i (.done v)
    | _, _ => return

/-! ## 3. Nodes without an end -/

/-- How many levels of a node without an end are written out. -/
def writtenLevels : Nat := 9

/-- What stands below them. -/
def endless : Value := Value.nested 1000

/-- The values of all nodes, with so many levels of those without an end. -/
def writeOut (parts : Array Parts) (progress : Array Progress) : (levels : Nat) → Array Value
  | 0 => (Array.range parts.size).map fun i => (known progress i).getD endless
  | levels + 1 =>
    let inner := writeOut parts progress levels
    parts.mapIdx fun i p => (known progress i).getD (p.value fun c => inner[c]?.getD endless)

/-- **The value of a node.** -/
def valueAt (parts : Array Parts) (i : Nat) : Value :=
  let ((), progress) := (settle parts (parts.size + 1) i).run (Array.replicate parts.size .fresh)
  match known progress i with
  | some v => v
  | none => (writeOut parts progress writtenLevels)[i]?.getD endless

end Parts

/-! ## 4. Bytes -/

/-- **The value of bytes**; where there is no document they stand for nothing. -/
def read (bs : List UInt8) : Except Problem Value := do
  match ← Graph.ofTokens (.ofSource (.ofBytes bs)) with
  | some d => return Parts.valueAt (← Parts.ofDocument d) d.root
  | none => return .null

theorem read_nil : read [] = .ok .null := rfl

end StorageBroker.Yaml
