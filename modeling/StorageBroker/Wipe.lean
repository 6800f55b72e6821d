import StorageBroker.Remote
import StorageBroker.Value.Joined
import StorageBroker.CallTable
/-!
# Wiping a bucket

A bucket that still holds objects cannot be deleted, so its objects are deleted first, page by page
of the listing and in batches of each page. What cannot be deleted is recorded and the wipe goes
on; a failure of the listing ends it. However it ends, it is completed.

* `Progress` -- the count of deleted objects and the recorded errors, in order;
* `batches_flatten` -- the batches of a page hold its keys, each once and in order;
* `length_le_of_mem_batches` -- no batch is larger than allowed.
-/

namespace StorageBroker.Wipe

/-! ## 1. Progress -/

structure Progress where
  deleted : Number
  errors : List Value
  done : Bool

namespace Progress

def start : Progress := ⟨.int 0, [], false⟩

/-- Adds a number to the count. -/
def addDeleted (p : Progress) (count : Number) : Except Malformed Progress :=
  match p.deleted.add count with
  | some n => .ok { p with deleted := n }
  | none => .error (.magnitude "int too large to convert to float")

/-- Adds a value, which has to be a number, to the count. -/
def addCount (p : Progress) (count : Value) : Except Malformed Progress :=
  match count.number? with
  | some n => p.addDeleted n
  | none => .error (Value.notJoined p.deleted.toValue count)

def addError (p : Progress) (error : Value) : Progress := { p with errors := p.errors ++ [error] }

def complete (p : Progress) : Progress := { p with done := true }

/-- What can be done to the progress of a wipe. What can only be read cannot be called. -/
def calls : CallTable :=
  [(0, 1, ["increment_deleted"]), (1, 1, ["add_error"]), (0, 0, ["complete"]),
   (1, 0, ["deleted_objects", "errors"])]

/-- The progress after something is done to it, which is told by its name. -/
def use (p : Progress) (name : Text) (args : List Value) : Except Malformed Progress := do
  calls.check name args.length
  match name, args with
  | "increment_deleted", [] => p.addCount (.int 1)
  | "increment_deleted", count :: _ => p.addCount count
  | "add_error", error :: _ => return p.addError error
  | _, _ => return p.complete

theorem addDeleted_int {p : Progress} {n : Int} (h : p.deleted = .int n) (count : Int) :
    p.addDeleted (.int count) = .ok { p with deleted := .int (n + count) } := by
  simp [addDeleted, h, Number.add]

theorem deleted_addError (p : Progress) (e : Value) : (p.addError e).deleted = p.deleted := rfl

theorem errors_addError (p : Progress) (e : Value) : (p.addError e).errors = p.errors ++ [e] := rfl

end Progress

/-! ## 2. Batches -/

/-- The most keys that one deletion may name. -/
def batchLimit : Nat := 1000

/-- The limit that a value sets. A negative one leaves no batches, and zero is no limit. -/
def limitOf (v : Value) : Except Malformed Nat :=
  match v with
  | .int 0 | .bool false => .error (.content "range() arg 3 must not be zero")
  | .int i => .ok i.toNat
  | .bool true => .ok 1
  | v => .error (.kind ("'" ++ v.kindName ++ "' object cannot be interpreted as an integer"))

/-- A list cut into pieces of `size + 1` items, the last one of what is left. -/
def pieces {α : Type} (size : Nat) : (left : Nat) → List α → List (List α)
  | 0, _ => []
  | _ + 1, [] => []
  | left + 1, x :: xs => (x :: xs.take size) :: pieces size left (xs.drop size)

/-- **The batches of a page**: pieces of at most `limit` keys, none for a limit of zero. -/
def batches {α : Type} (limit : Nat) (keys : List α) : List (List α) :=
  match limit with
  | 0 => []
  | size + 1 => pieces size keys.length keys

theorem pieces_flatten {α : Type} (size left : Nat) (xs : List α) (h : xs.length ≤ left) :
    (pieces size left xs).flatten = xs := by
  induction left generalizing xs with
  | zero => simp [pieces, List.eq_nil_of_length_eq_zero (Nat.le_zero.1 h)]
  | succ left ih =>
    cases xs with
    | nil => rfl
    | cons x xs =>
      have hd : (xs.drop size).length ≤ left := by
        simp only [List.length_drop, List.length_cons] at h ⊢
        omega
      simp [pieces, ih _ hd]

theorem batches_flatten {α : Type} {limit : Nat} (h : 0 < limit) (keys : List α) :
    (batches limit keys).flatten = keys := by
  cases limit with
  | zero => omega
  | succ size => exact pieces_flatten size keys.length keys (Nat.le_refl _)

theorem length_le_of_mem_pieces {α : Type} (size left : Nat) (xs : List α) :
    ∀ b ∈ pieces size left xs, 0 < b.length ∧ b.length ≤ size + 1 := by
  induction left generalizing xs with
  | zero => simp [pieces]
  | succ left ih =>
    cases xs with
    | nil => simp [pieces]
    | cons x xs =>
      intro b hb
      rcases List.mem_cons.1 hb with rfl | hb
      · simp only [List.length_cons, List.length_take]
        omega
      · exact ih _ b hb

theorem length_le_of_mem_batches {α : Type} {limit : Nat} {keys b : List α}
    (h : b ∈ batches limit keys) : 0 < b.length ∧ b.length ≤ limit := by
  cases limit with
  | zero => simp [batches] at h
  | succ size => exact length_le_of_mem_pieces size keys.length keys b h

/-! ## 3. The wipe -/

/-- Steps of a wipe. -/
abbrev Step := Action Remote Progress

def record (error : Text) : Step Unit := modify fun p => p.addError (.text error)

/-- The keys on a page of the listing. -/
def keysOf (page : Value) : Except Malformed (List Value) := do
  (← (← page.getD "Contents" (.list [])).items).mapM fun object => object.required "Key"

/-- The report of an error that the answer to a deletion names. -/
def reported (error : Value) : Except Malformed Text := do
  let key ← error.get "Key"
  let message ← error.get "Message"
  return key.plain ++ ": " ++ message.plain

/-- Records each error that the answer to a deletion names. -/
def recordReported : List Value → Step Unit
  | [] => return
  | error :: rest => do
    record (← reported error)
    recordReported rest

/-- Takes in the answer to a deletion of some keys: what it does not name as an error is gone. -/
def takeAnswer (keys : List Value) (answer : Value) : Step Unit := do
  let failed ← (← answer.getD "Errors" (.list [])).items
  recordReported failed
  let p ← get
  set (← p.addDeleted (.int (keys.length - failed.length)))

/-- **Deletes one batch.** A failure of the storage is recorded for every key of the batch; any
other failure ends the wipe. -/
def deleteBatch (bucket : Value) (keys : List Value) : Step Unit := do
  match ← Action.perform (Remote.askStorage (.delete bucket keys)) with
  | .ok answer => takeAnswer keys answer
  | .error f =>
    if f.isStorage then
      modify fun p => keys.foldl (fun p k => p.addError (.text (k.plain ++ ": " ++ f.text))) p
    else throw f

/-- Deletes batches in order. -/
def deleteBatches (bucket : Value) : List (List Value) → Step Unit
  | [] => return
  | keys :: rest => do
    deleteBatch bucket keys
    deleteBatches bucket rest

/-- Deletes the objects of a page; a limit that is none is reported here. -/
def deletePage (limit : Except Malformed Nat) (bucket page : Value) : Step Unit := do
  let keys ← keysOf page
  deleteBatches bucket (batches (← limit) keys)

/-- Deletes the objects of pages in order. -/
def deletePages (limit : Except Malformed Nat) (bucket : Value) : List (Except Fault Value) → Step Unit
  | [] => return
  | page :: rest => do
    deletePage limit bucket (← page)
    deletePages limit bucket rest

/-- Lists a bucket and deletes what the listing holds. -/
def deleteAll (limit : Except Malformed Nat) (bucket start : Value) : Step Unit := do
  let pages ← Action.perform (Remote.askStorage (.list bucket start))
  deletePages limit bucket pages

/-- **The wipe of a bucket**: what ends it early is recorded, and it is completed in any case. -/
def wipe (limit : Except Malformed Nat) (bucket start : Value) : Step Unit := do
  match ← (deleteAll limit bucket start).attempt with
  | .ok _ => pure ()
  | .error f => record f.text
  modify Progress.complete

/-! ## 4. Building the tool -/

/-- Whether a failure to build a client is reported as one of the broker. -/
def isClientFault : Fault → Bool
  | .storage (.refused ..) => false
  | .storage _ => true
  | .malformed (.content _) => true
  | _ => false

variable {σ : Type}

/-- The report of a client that cannot be built. -/
def noClient (endpoint : Value) (f : Fault) : Fault :=
  .broker (some ("Cannot build S3 client for " ++ endpoint.plain ++ ": " ++ f.text)) (some f)

/-- Builds a storage client. -/
def connect (endpoint accessKey secretKey : Value) : Action Remote σ Unit := do
  match ← Action.perform (Remote.askStorage (.connect endpoint accessKey secretKey)) with
  | .ok _ => return
  | .error f => throw f

/-- How many wipes may run at once has to be a positive number. -/
def checkWorkers (workers : Value) : Except Malformed Unit :=
  match workers.number? with
  | some n =>
    if Number.lt (.int 0) n then .ok () else .error (.content "max_workers must be greater than 0")
  | none => if workers.isNull then .ok () else .error (.kind "max_workers must be a number")

/-- What a wipe tool is made of; without a client of its own it builds one. -/
structure Tool where
  endpoint : Value
  accessKey : Value
  secretKey : Value
  workers : Value
  hasClient : Bool

namespace Tool

/-- The names of its parts, in order of place. -/
def names : List Text := ["endpoint", "access_key", "secret_key", "max_workers", "client"]

/-- The tool of parts given by place and by name: the first three have to be given, and none may be
given twice or under another name. -/
def ofParts (args : List Value) (named : List (Text × Value)) : Except Malformed Tool :=
  let given := names.zip args ++ named
  let part := fun (name : Text) => (given.find? fun e => e.1 == name).map Prod.snd
  if names.length < args.length || !(given.map Prod.fst).Nodup
      || !(named.all fun e => names.contains e.1) then
    .error (.kind "the parts of a wipe tool do not fit")
  else match part "endpoint", part "access_key", part "secret_key" with
    | some endpoint, some accessKey, some secretKey =>
      .ok ⟨endpoint, accessKey, secretKey, (part "max_workers").getD (.int 4),
        ((part "client").getD .null).truthy⟩
    | _, _, _ => .error (.kind "a part of a wipe tool is missing")

end Tool

/-- Builds a wipe tool: its client, and then what runs its wipes. -/
def build (t : Tool) : Action Remote σ Unit := do
  if !t.hasClient then connect t.endpoint t.accessKey t.secretKey
  checkWorkers t.workers

/-- **Prepares a wipe tool**: a client that cannot be built is reported as a failure of the
broker. -/
def prepare (endpoint accessKey secretKey : Value) : Action Remote σ Unit :=
  (connect endpoint accessKey secretKey).mapFault fun f =>
    if isClientFault f then noClient endpoint f else f

end StorageBroker.Wipe
