import StorageBroker.CallTable
import StorageBroker.Record.Parameters
/-!
# Records by name

What can be asked of records by the name of a kind and of what is asked for: records are made from
data or from parameters, and a record is written as data. With a record at hand it is its kind that
counts.

* `call_toData` -- a record asked for its data gives its data.
-/

namespace StorageBroker.Record

/-- What a call gives. -/
inductive Answer where
  | record (r : Record)
  | records (rs : List Record)
  | value (v : Value)

/-- What can be asked of every kind of records, and how many arguments it takes where the record
counts as one. -/
def commonCalls : CallTable := [(1, 1, ["obj_from_data", "to_data"])]

/-- What can be asked of some kinds only. -/
def ownCalls : RecordKind → CallTable
  | .bucketCreate => [(4, 4, ["from_parameters"])]
  | .namespaceCreate => [(3, 3, ["from_parameters"])]
  | .namespaceUpdate => [(1, 1, ["from_parameters"])]
  | .userSecretKey => [(1, 1, ["list_from_data"])]
  | .bucketPolicy => [(2, 2, ["allow_all"])]
  | .baseUrlInfo => [(2, 3, ["namespace_url"])]
  | _ => []

/-- The calls that a kind knows. -/
def calls (kind : RecordKind) : CallTable := commonCalls ++ ownCalls kind

/-- Whether a name stands for something that can be asked of a record. -/
def answers (r : Record) (name : Text) : Bool :=
  (calls r.kind).any fun e => e.2.2.contains name

/-- What is asked of a record, as against its kind. -/
def isOwn (name : Text) : Bool := name == "to_data" || name == "namespace_url"

/-- The data of a value that has to be a record, as a kind writes it: a kind with a layout of its own
needs its own fields, and any other one writes the fields that are set. -/
def dataAs (kind : RecordKind) (v : Value) : Except Malformed Value :=
  match ofValue? v with
  | none => .error (.lacks v "to_data")
  | some r =>
    if r.kind = kind then r.toData
    else match kind with
      | .bucketAcl => .error (.lacks v "bucket")
      | .bucketPolicy => .error (.lacks v "version")
      | _ => .ok r.plainData

/-- A call on a kind of records with arguments, of which the record itself is the first one where
it is asked. -/
def call (kind : RecordKind) (name : Text) (args : List Value) : Except Malformed Answer := do
  (calls kind).check name args.length
  match name, args with
  | "obj_from_data", [data] => return .record (← ofData kind data)
  | "to_data", [v] => return .value (← dataAs kind v)
  | "from_parameters", [name, ns, group, parameters] =>
    return .record (← bucketCreate name ns group parameters)
  | "from_parameters", [name, group, parameters] =>
    return .record (← namespaceCreate name group parameters)
  | "from_parameters", [parameters] => return .record (← namespaceUpdate parameters)
  | "list_from_data", [data] => return .records (← secretKeys data)
  | "allow_all", [principal, bucket] => return .record (allowAll principal bucket)
  | "namespace_url", v :: ns :: ssl => match ofValue? v with
    | some r => return .value (.text (r.namespaceUrl ns ((ssl.head?.map Value.truthy).getD false)))
    | none => throw (.lacks v "namespace_in_host")
  | _, _ => throw (.kind (name ++ "() takes other arguments"))

/-- **A call by the name of a kind and of what is asked for**, with a record at hand or without. -/
def callByName (name : Text) (own : Option Record) (args : List Value) :
    Except Malformed Answer :=
  let parts := (Text.splitOn (.scalar '.') name.toList).map Text.ofList
  let asked := (parts.drop 1).headD ""
  match own, RecordKind.ofName? (parts.headD "") with
  | some r, _ => call r.kind asked (if isOwn asked then r.toValue :: args else args)
  | none, some kind => call kind asked args
  | none, none => .error (.operation ("there are no records named " ++ parts.headD ""))

theorem dataAs_kind (r : Record) : dataAs r.kind r.toValue = r.toData := by
  simp [dataAs, ofValue?_toValue]

theorem call_toData (r : Record) :
    call r.kind "to_data" [r.toValue] = (do return .value (← r.toData)) := by
  have h : (calls r.kind).check "to_data" 1 = .ok () := by
    simp [calls, commonCalls, CallTable.check]
  unfold call
  simp only [List.length_cons, List.length_nil, Nat.zero_add, h, dataAs_kind]
  rfl

end StorageBroker.Record
