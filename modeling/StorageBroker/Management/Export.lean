import StorageBroker.Management
/-!
# File shares

The calls for exports of bucket directories as network file shares. An export is looked up by its
path, which stands percent-encoded in the query of the address.
-/

namespace StorageBroker.Management.Export

variable {σ : Type}

def resource : String := "/object/nfs/exports"

/-- The percent-encoded form of a path; a half has no bytes. -/
def encoded (v : Value) : Except Malformed String :=
  match v with
  | .text s => (Text.Template.encoded (.text s)).map String.ofList
  | .bytes bs => .ok (String.ofList (bs.flatMap Text.Percent.encodeByte))
  | _ => .error (.kind "a path to encode must be a text or bytes")

/-- **The exports of a path**, none if there is not a single one. -/
def list (exportPath : Value) : Calls σ (Option (List Record)) := do
  let p ← encoded exportPath
  let document ← fetch { path := .text (resource ++ "?path=" ++ p) }
  let exports ← document.get "exports"
  if exports.truthy then
    return some (← Management.recordsIn .nfsExport document "exports")
  else return none

/-- The access that an export gives: reading and writing from everywhere. -/
def openAccess : Value :=
  .mapping (Mapping.ofNamed
    [("hosts", .list [.text "*"]), ("security", "sys"), ("permission", "rw"),
     ("root_squash", "nobody")])

def create (exportPath : Value) : Calls σ Unit :=
  perform
    { method := "POST", path := .text resource,
      body := .mapping (Mapping.ofNamed
        [("path", exportPath), ("export_configs", .list [openAccess])]) }

end StorageBroker.Management.Export
