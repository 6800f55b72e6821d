import StorageBroker.Json.Reader
import StorageBroker.Record
import StorageBroker.Number.FloatText
/-!
# Tagged documents

A document has no form of its own for doubles as against integers, for bytes, policies and records,
and for mappings whose keys are no texts. In a tagged document each of them is a mapping with one
entry, whose key tells what it is. A record is described by its class and either its data or the
values that it is made of.

* `tagged` -- the tagged document of a value, in which a record is shown with all its fields;
* `read` -- the value of a tagged document.
-/

namespace StorageBroker.Json.Tagged

/-! ## 1. Writing -/

/-- A mapping with one entry. -/
def tag (name : Text) (v : Value) : Value := .mapping [(.text name, v)]

def hexText (bs : List UInt8) : Value :=
  .text (String.ofList (bs.flatMap fun b => Text.hexDigits 2 b.toNat))

def floatText (x : Float) : Value := .text (Number.Shortest.plainFormat.write x)

/-- Whether all keys are texts. -/
def hasTextKeys (m : Mapping) : Bool :=
  m.all fun e => match e.1 with
    | .text _ => true
    | _ => false

mutual

/-- **The tagged document of a value.** -/
def tagged : Value → Value
  | .float x => tag "$float" (floatText x)
  | .bytes bs => tag "$bytes" (hexText bs)
  | .policy p => tag "$policy" (.text p.name)
  | .date d => tag "$other" (.text (Value.date d).kindName)
  | .moment m => tag "$other" (.text (Value.moment m).kindName)
  | .set xs => tag "$other" (.text (Value.set xs).kindName)
  | .list xs | .tuple xs => .list (taggedList xs)
  | .mapping es =>
    if hasTextKeys es then .mapping (taggedEntries es)
    else tag "$pairs" (.list (taggedPairs es))
  | .record k vs =>
    .mapping [(.text "$model", .text k.name),
      (.text "fields", .mapping ((k.fields.map Value.text).zip (taggedList vs)))]
  | v => v

def taggedList : List Value → List Value
  | [] => []
  | v :: vs => tagged v :: taggedList vs

def taggedEntries : List (Value × Value) → List (Value × Value)
  | [] => []
  | (k, v) :: es => (k, tagged v) :: taggedEntries es

def taggedPairs : List (Value × Value) → List Value
  | [] => []
  | (k, v) :: es => .list [tagged k, tagged v] :: taggedPairs es

end

/-! ## 2. Reading -/

/-- The double that a text spells. -/
def readFloat (t : Text) : Except Malformed Value :=
  match FloatText.ofText? t with
  | some x => .ok (.float x)
  | none => .error (.content ("could not convert string to float: " ++ (Value.text t).quoted))

/-- The bytes that pairs of hexadecimal digits spell. -/
def readHex : List Char → List UInt8
  | a :: b :: rest =>
    UInt8.ofNat (((hexValue? a).getD 0) * 16 + (hexValue? b).getD 0) :: readHex rest
  | _ => []

/-- The items of a list, none of any other value. -/
def listOf : Value → List Value
  | .list xs => xs
  | _ => []

/-- A list of two as an entry. -/
def readPair (v : Value) : Option (Value × Value) :=
  match v with
  | .list [k, w] => some (k, w)
  | _ => none

/-- The record that a description stands for. -/
def readRecord (m : Mapping) : Except Malformed Record :=
  let part := fun (name : Text) => (Mapping.get m name).getD .null
  match RecordKind.ofName? (part "class").plain, Mapping.get m "data" with
  | none, _ => .error (.operation ("there are no records named " ++ (part "class").quoted))
  | some kind, some d => Record.ofData kind d
  | some kind, none => do
    Record.create kind (listOf (part "args")) (← Record.namedOf (part "kwargs"))

/-- What a mapping stands for whose values have been read. -/
def untag : Mapping → Except Malformed Value
  | [(.text "$float", .text t)] => readFloat t
  | [(.text "$bytes", .text t)] => .ok (.bytes (readHex t.scalars))
  | [(.text "$policy", .text t)] => .ok (.policy ((ReclaimPolicy.ofName? t).getD .standard))
  | [(.text "$pairs", .list ps)] => .ok (.mapping (Mapping.update [] (ps.filterMap readPair)))
  | [(.text "$model", .mapping m)] => (readRecord m).map Record.toValue
  | m => .ok (.mapping m)

mutual

/-- **The value of a tagged document.** -/
def read : Value → Except Malformed Value
  | .list xs => do return .list (← readAll xs)
  | .mapping es => do untag (← readEntries es)
  | v => .ok v

def readAll : List Value → Except Malformed (List Value)
  | [] => .ok []
  | v :: vs => do
    let w ← read v
    return w :: (← readAll vs)

def readEntries : List (Value × Value) → Except Malformed Mapping
  | [] => .ok []
  | (k, v) :: es => do
    let w ← read v
    return (k, w) :: (← readEntries es)

end

end StorageBroker.Json.Tagged
