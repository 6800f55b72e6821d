import StorageBroker.Fault
/-!
# Records

A record of the management API has a kind and one value for each field of the kind. It is read
from the data that the API answers with (`Record.ofData`), which may hold more than the fields, and
it is written as the body of a request (`Record.toData`), where unset fields are left out. Access
lists and policies have a layout of their own, and the entries of an access list are records.

* `field_ofNamed` -- a record has the values it was made of;
* `toData_of_ne_bucketAcl`, `toData_bucketAcl` -- what records are written as.
-/

namespace StorageBroker

/-- A record: `values` follows the order of the fields of its kind. -/
structure Record where
  kind : RecordKind
  values : List Value
deriving Inhabited

namespace Record

/-! ## 1. Fields -/

/-- The record as a value among others. -/
def toValue (r : Record) : Value := .record r.kind r.values

def ofValue? : Value → Option Record
  | .record k vs => some ⟨k, vs⟩
  | _ => none

theorem ofValue?_toValue (r : Record) : ofValue? r.toValue = some r := rfl

/-- The value at a name in parallel lists of names and values. -/
def valueAt (name : Text) : List Text → List Value → Option Value
  | f :: fs, v :: vs => if f = name then some v else valueAt name fs vs
  | _, _ => none

/-- The value of a field; nothing for a name that is no field. -/
def field? (r : Record) (name : Text) : Option Value := valueAt name r.kind.fields r.values

/-- The value of a field. -/
def field (r : Record) (name : Text) : Value := (r.field? name).getD .null

/-- Replaces the value of a field. -/
def setField (r : Record) (name : Text) (v : Value) : Record :=
  { r with values := (r.kind.fields.zip r.values).map fun e => if e.1 = name then v else e.2 }

/-- Named values. -/
abbrev Named := List (Text × Value)

/-- The values of a mapping by name, none where nothing is given. -/
def namedOf (v : Value) : Except Malformed Named :=
  match v with
  | .mapping m => Mapping.named m
  | .null => .ok []
  | _ => .error (.kind "argument after ** must be a mapping")

/-- The value given under a name; the absent value if there is none. -/
def given (named : Named) (name : Text) : Value :=
  ((named.find? fun e => e.1 == name).map Prod.snd).getD .null

/-- The record of a kind with the named values that are fields of it. -/
def ofNamed (kind : RecordKind) (named : Named) : Record :=
  ⟨kind, kind.fields.map (given named)⟩

theorem valueAt_map (name : Text) (fs : List Text) (f : Text → Value) :
    valueAt name fs (fs.map f) = if name ∈ fs then some (f name) else none := by
  induction fs with
  | nil => rfl
  | cons x xs ih =>
    by_cases h : x = name
    · subst h; simp [valueAt]
    · simp [valueAt, h, ih, Ne.symm h]

theorem field_ofNamed (kind : RecordKind) (named : Named) {name : Text}
    (h : name ∈ kind.fields) : (ofNamed kind named).field name = given named name := by
  simp [field, field?, ofNamed, valueAt_map, h]

/-! ## 2. Making records -/

/-- The report of names that are no fields. -/
def unexpected (kind : RecordKind) (names : List Text) : Malformed :=
  .kind ("Unexpected fields for " ++ kind.name ++ ": " ++ Value.commaSeparated names)

/-- The items of a value, none of one that counts as false. -/
def itemsOrNone (v : Value) : Except Malformed (List Value) :=
  if v.truthy then v.items else .ok []

/-- An entry of an access list: a user and a list of permissions. -/
def userAcl (user permission : Value) : Except Malformed Record := do
  return ⟨.userAcl, [user, .list (← itemsOrNone permission)]⟩

/-- A record without special needs, of named values that must all be fields. -/
def makePlain (kind : RecordKind) (named : Named) : Except Malformed Record :=
  match (named.map Prod.fst).filter fun name => !kind.fields.contains name with
  | [] => .ok (ofNamed kind named)
  | names => .error (unexpected kind names)

/-- Adds a named value unless the name is given already. -/
def withDefault (named : Named) (name : Text) (v : Value) : Named :=
  if named.any fun e => e.1 == name then named else named ++ [(name, v)]

/-- A quota, whose sizes may be given under either of two names. -/
def makeQuota (named : Named) : Except Malformed Record :=
  let sizes : List Text := ["block_size", "notification_size"]
  let own := named.filter fun e => !sizes.contains e.1
  let own := withDefault own "blockSize" (given named "block_size")
  let own := withDefault own "notificationSize" (given named "notification_size")
  makePlain .namespaceQuota own

/-- A record of a kind from named values. -/
def make (kind : RecordKind) (named : Named) : Except Malformed Record :=
  match kind with
  | .userAcl =>
    match (named.map Prod.fst).filter fun name => !kind.fields.contains name with
    | [] => userAcl (given named "user") (given named "permission")
    | name :: _ => .error (.kind ("got an unexpected keyword argument '" ++ name ++ "'"))
  | .namespaceQuota => makeQuota named
  | kind => makePlain kind named

/-- The names of the values that may be given by place. -/
def places : RecordKind → List Text
  | .userAcl => ["user", "permission"]
  | .namespaceQuota => ["namespace", "block_size", "notification_size"]
  | _ => []

/-- A record of a kind from values given by place and by name; no value may be given twice. -/
def create (kind : RecordKind) (args : List Value) (named : Named) : Except Malformed Record :=
  let byPlace := (places kind).zip args
  if (places kind).length < args.length then
    .error (.kind "too many positional arguments")
  else if named.any fun e => e.1 == "self" || byPlace.any fun p => p.1 == e.1 then
    .error (.kind "got multiple values for an argument")
  else make kind (byPlace ++ named)

/-! ## 3. Reading data -/

/-- The entries of a mapping that are fields of a kind. -/
def fieldEntries (kind : RecordKind) (m : Mapping) : Named :=
  m.filterMap fun e => match e.1 with
    | .text name => if kind.fields.contains name then some (name, e.2) else none
    | _ => none

/-- A record of a kind from data, other entries left aside. -/
def ofPlainData (kind : RecordKind) (data : Value) : Except Malformed Record := do
  make kind (fieldEntries kind (← data.entriesFor "items"))

/-- An empty list in place of what counts as false. -/
def listOr (v : Value) : Value := v.orElse (.list [])

/-- An access list: the entries of users are records, those of groups stay as they came. -/
def ofAclData (data : Value) : Except Malformed Record := do
  let acl := (← data.get "acl").orElse (.mapping [])
  let bucket ← data.get "bucket"
  let ns ← data.get "namespace"
  let users ← (← itemsOrNone (← acl.get "user_acl")).mapM (ofPlainData .userAcl)
  let groups ← acl.get "group_acl"
  let customGroups ← acl.get "customgroup_acl"
  return ⟨.bucketAcl,
    [bucket, ns, .list (users.map toValue), listOr groups, listOr customGroups]⟩

/-- **The record of a kind in data.** -/
def ofData (kind : RecordKind) (data : Value) : Except Malformed Record :=
  match kind with
  | .bucketAcl => ofAclData data
  | kind => ofPlainData kind data

/-! ## 4. Writing data -/

/-- The fields that are set, in order. -/
def setEntries : List Text → List Value → Mapping
  | f :: fs, v :: vs => if v.isNull then setEntries fs vs else (.text f, v) :: setEntries fs vs
  | _, _ => []

/-- The data of a record without layout of its own. -/
def plainData (r : Record) : Value := .mapping (setEntries r.kind.fields r.values)

/-- The data of a record that is no access list. -/
def simpleData (r : Record) : Value :=
  match r.kind with
  | .bucketPolicy =>
    .mapping (Mapping.ofNamed
      [("Version", r.field "version"), ("Id", r.field "id"),
       ("Statement", .list [.mapping (Mapping.ofNamed
         [("Sid", r.field "sid"), ("Effect", r.field "effect"),
          ("Principal", r.field "principal"), ("Action", r.field "actions"),
          ("Resource", r.field "resources")])])])
  | _ => r.plainData

/-- The data of an access list whose users are already data. -/
def aclData (r : Record) (users : List Value) : Value :=
  .mapping (Mapping.ofNamed
    [("bucket", r.field "bucket"), ("namespace", r.field "namespace"),
     ("acl", .mapping (Mapping.ofNamed
       [("user_acl", .list users), ("group_acl", r.field "group_acl"),
        ("customgroup_acl", r.field "customgroup_acl")]))])

mutual

/-- The data of a value that has to be a record. -/
def dataOf : Value → Except Malformed Value
  | .record .bucketAcl vs => do return aclData ⟨.bucketAcl, vs⟩ (← usersData vs)
  | .record k vs => .ok (simpleData ⟨k, vs⟩)
  | v => .error (.lacks v "to_data")

/-- The data of the users among the values of an access list, which stand third. -/
def usersData : List Value → Except Malformed (List Value)
  | _ :: _ :: users :: _ => entriesData users
  | _ => .error (.notIterable .null)

/-- The data of the entries of a list, each of which has to be a record. -/
def entriesData : Value → Except Malformed (List Value)
  | .list xs | .tuple xs | .set xs => allData xs
  | .mapping es => keysData es
  | v => do (← v.items).mapM fun e => .error (.lacks e "to_data")

def allData : List Value → Except Malformed (List Value)
  | [] => .ok []
  | v :: vs => do
    let w ← dataOf v
    return w :: (← allData vs)

def keysData : List (Value × Value) → Except Malformed (List Value)
  | [] => .ok []
  | (k, _) :: es => do
    let w ← dataOf k
    return w :: (← keysData es)

end

/-- **The data of a record.** -/
def toData (r : Record) : Except Malformed Value := dataOf r.toValue

theorem toData_of_ne_bucketAcl {r : Record} (h : r.kind ≠ .bucketAcl) :
    r.toData = .ok r.simpleData := by
  obtain ⟨k, vs⟩ := r
  unfold toData toValue dataOf
  cases k <;> simp_all

theorem toData_bucketAcl (bucket ns groups customGroups : Value) (users : List Value) :
    toData ⟨.bucketAcl, [bucket, ns, .list users, groups, customGroups]⟩ = (do
      return aclData ⟨.bucketAcl, [bucket, ns, .list users, groups, customGroups]⟩
        (← allData users)) := by
  unfold toData toValue dataOf usersData entriesData
  rfl

/-! ## 5. Derived readings -/

/-- The field of a value that must be a record having it. -/
def fieldOf (v : Value) (name : Text) : Except Malformed Value :=
  match (ofValue? v).bind fun r => r.field? name with
  | some w => .ok w
  | none => .error (.lacks v name)

/-- The users of an access list. -/
def users (r : Record) : Except Malformed Value := do
  let entries ← (r.field "user_acl").items
  return .list (← entries.mapM fun e => fieldOf e "user")

/-- **What is read out of a record under a name**: a field, the users of an access list, or a size
of a quota by its other name. -/
def reading (r : Record) (name : Text) : Except Malformed Value :=
  match r.kind, name with
  | .bucketAcl, "users" => r.users
  | .namespaceQuota, "block_size" => .ok (r.field "blockSize")
  | .namespaceQuota, "notification_size" => .ok (r.field "notificationSize")
  | k, "_fields" => .ok (.tuple (k.fields.map .text))
  | _, name => fieldOf r.toValue name

end Record

end StorageBroker
