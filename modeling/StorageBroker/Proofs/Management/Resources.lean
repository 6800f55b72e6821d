import StorageBroker.Proofs.Management
import StorageBroker.Proofs.Text.Template
import StorageBroker.Management.BaseUrl
import StorageBroker.Management.Bucket
import StorageBroker.Management.Export
import StorageBroker.Management.Namespace
import StorageBroker.Management.ReplicationGroup
import StorageBroker.Management.User
/-!
# The calls for each resource

Which call each use of the management API makes. A path is always a template with its holes filled,
and a body is what the use says and nothing else.

* sections 1 to 5 -- buckets, file shares, users, namespaces, and what a start asks for.
-/

namespace StorageBroker.Management

variable {σ : Type}

/-! ## 1. Buckets -/

namespace Bucket

variable {bucket ns : Value}

theorem makes_exist :
    Makes (Filled info [bucket] fun p => { path := p, params := inNamespace ns }) Probed
      (exist bucket ns : Calls σ Bool) :=
  makes_existence_path

theorem makes_create :
    Makes (fun c => ∃ body, bodyOf bucket = .ok body ∧
        c = { method := "POST", path := .text "/object/bucket", body := body }) Done
      (create bucket : Calls σ Unit) :=
  .lift_bind fun body hbody => makes_perform ⟨body, hbody, rfl⟩

theorem makes_get :
    Makes (Filled info [bucket] fun p => { path := p, parse := true, params := inNamespace ns })
      Fails (get bucket ns : Calls σ Record) :=
  makes_fetch_path fun _ => quiet_lift

theorem makes_delete :
    Makes (Filled deactivation [bucket] fun p =>
      { method := "POST", path := p, params := inNamespace ns }) Done
      (delete bucket ns : Calls σ Unit) :=
  makes_perform_path

theorem makes_createQuota {limit warn : Value} :
    Makes (Filled quota [bucket] fun p =>
      { method := "PUT", path := p, body := .mapping (Mapping.ofNamed
          [("namespace", ns), ("blockSize", limit), ("notificationSize", warn)]) }) Done
      (createQuota bucket ns limit warn : Calls σ Unit) :=
  makes_perform_path

theorem makes_deleteQuota :
    Makes (Filled quota [bucket] fun p =>
      { method := "DELETE", path := p, accepted := removed, params := inNamespace ns }) Done
      (deleteQuota bucket ns : Calls σ Unit) :=
  makes_perform_path

theorem makes_updateRetention {period : Value} :
    Makes (Filled retention [bucket] fun p =>
      { method := "PUT", path := p,
        body := .mapping (Mapping.ofNamed [("namespace", ns), ("period", period)]) }) Done
      (updateRetention ns bucket period : Calls σ Unit) :=
  makes_perform_path

theorem makes_getAcl :
    Makes (Filled acl [bucket] fun p => { path := p, parse := true, params := inNamespace ns })
      Fails (getAcl bucket ns : Calls σ Record) :=
  makes_fetch_path fun _ => quiet_lift

theorem makes_updateAcl {entries : Value} :
    Makes (Written acl [bucket] entries fun p body =>
      { method := "PUT", path := p, body := body }) Done
      (updateAcl bucket entries : Calls σ Unit) :=
  makes_written

theorem makes_updatePolicy {rules : Value} :
    Makes (Written policy [bucket] rules fun p body =>
      { method := "PUT", path := p, body := body, params := inNamespace ns }) Done
      (updatePolicy bucket rules ns : Calls σ Unit) :=
  makes_written

end Bucket

/-! ## 2. File shares -/

namespace Export

variable {exportPath : Value}

/-- A path that can be sent is looked up in its percent-encoded form. -/
theorem encoded_sendable {path : Text} (hsend : Text.Template.Sendable path) :
    encoded (.text path) = .ok (String.ofList (Text.Percent.encode path.scalars)) := by
  have hencoded : Text.Template.encoded (.text path) = .ok (Text.Percent.encode path.scalars) :=
    Text.Template.encoded_eq_ok.2 ⟨hsend, rfl⟩
  rw [encoded, hencoded]
  rfl

theorem encoded_unsendable {path : Text} (hsend : ¬ Text.Template.Sendable path) :
    encoded (.text path) = .error (.unencodable "surrogates not allowed") := by
  rw [encoded]
  cases hencoded : Text.Template.encoded (.text path) with
  | ok cs => exact absurd (Text.Template.encoded_eq_ok.1 hencoded).1 hsend
  | error m =>
    rw [Text.Template.encoded_eq_error hencoded]
    rfl

/-- **A lookup of exports** is one call for their path, and none if the path has no encoded form. -/
theorem course_list {s s' : σ} {es : List (Dialogue.Event Remote)}
    {r : Except Fault (Option (List Record))}
    (h : (list exportPath : Calls σ (Option (List Record))).Course s es r s') : s' = s ∧
      ((∃ m, encoded exportPath = .error m ∧ es = [] ∧ r = .error (.malformed m)) ∨
        ∃ p a, encoded exportPath = .ok p ∧
          es = [called { path := .text (resource ++ "?path=" ++ p), parse := true } a] ∧
          Fails a r) := by
  rw [list, Action.course_lift_malformed_bind] at h
  obtain ⟨m, hm, rfl, rfl, rfl⟩ | ⟨p, hp, h⟩ := h
  · exact ⟨rfl, .inl ⟨m, hm, rfl, rfl⟩⟩
  · obtain ⟨rfl, a, rfl, ha⟩ := course_fetch_bind (fun document => .lift_bind fun exports => by
      split
      · exact .lift_bind fun _ => quiet_pure
      · exact quiet_pure) h
    exact ⟨rfl, .inr ⟨p, a, hp, rfl, ha⟩⟩

theorem makes_list :
    Makes (fun c => ∃ p, encoded exportPath = .ok p ∧
        c = { path := .text (resource ++ "?path=" ++ p), parse := true }) Fails
      (list exportPath : Calls σ (Option (List Record))) := by
  intro s es r s' h
  obtain ⟨rfl, ⟨m, _, rfl, rfl⟩ | ⟨p, a, hp, rfl, ha⟩⟩ := course_list h
  · exact ⟨rfl, .inl ⟨rfl, m, rfl⟩⟩
  · exact ⟨rfl, .inr ⟨_, a, ⟨p, hp, rfl⟩, rfl, ha⟩⟩

theorem makes_create :
    Makes (fun c => c =
      { method := "POST", path := .text resource,
        body := .mapping (Mapping.ofNamed
          [("path", exportPath), ("export_configs", .list [openAccess])]) }) Done
      (create exportPath : Calls σ Unit) :=
  makes_perform rfl

end Export

/-! ## 3. Users -/

namespace User

variable {user ns uid : Value}

theorem makes_create :
    Makes (fun c => c =
      { method := "POST", path := .text "/object/users",
        body := .mapping (Mapping.ofNamed [("user", user), ("namespace", ns)]) }) Done
      (create user ns : Calls σ Unit) :=
  makes_perform rfl

theorem makes_delete :
    Makes (fun c => c =
      { method := "POST", path := .text "/object/users/deactivate",
        body := .mapping (Mapping.ofNamed [("user", user)]) }) Done
      (delete user : Calls σ Unit) :=
  makes_perform rfl

theorem makes_exist :
    Makes (Filled info [user] fun p => { path := p, params := [(.text "namespace", ns)] }) Probed
      (exist user ns : Calls σ Bool) :=
  makes_existence_path

theorem makes_createSecret :
    Makes (Filled secrets [user] fun p =>
      { method := "POST", path := p, body := .mapping [], parse := true }) Fails
      (createSecret user : Calls σ Record) :=
  makes_fetch_path fun _ => quiet_lift

theorem makes_listSecrets :
    Makes (Filled secrets [user] fun p => { path := p, parse := true }) Fails
      (listSecrets user : Calls σ (List Record)) :=
  makes_fetch_path fun _ => quiet_lift

theorem makes_createMap :
    Makes (fun c => c =
      { method := "POST", path := .text "/object/users/map",
        body := mappingBody user uid ns }) Done
      (createMap user uid ns : Calls σ Unit) :=
  makes_perform rfl

theorem makes_deleteMap :
    Makes (fun c => c =
      { method := "POST", path := .text "/object/users/unmap",
        body := mappingBody user uid ns }) Done
      (deleteMap user uid ns : Calls σ Unit) :=
  makes_perform rfl

end User

/-! ## 4. Namespaces -/

namespace Namespace

variable {ns name period : Value}

theorem makes_exist :
    Makes (Filled self [ns] fun p => { path := p }) Probed (exist ns : Calls σ Bool) :=
  makes_existence_path

theorem makes_create :
    Makes (fun c => ∃ body, bodyOf ns = .ok body ∧
        c = { method := "POST", path := .text "/object/namespaces/namespace", body := body }) Done
      (create ns : Calls σ Unit) :=
  .lift_bind fun body hbody => makes_perform ⟨body, hbody, rfl⟩

theorem makes_update {changes : Value} :
    Makes (Written self [ns] changes fun p body =>
      { method := "PUT", path := p, body := body }) Done
      (update ns changes : Calls σ Unit) :=
  makes_written

theorem makes_delete :
    Makes (Filled deactivation [ns] fun p => { method := "POST", path := p }) Done
      (delete ns : Calls σ Unit) :=
  makes_perform_path

theorem makes_createQuota {sizes : Value} :
    Makes (Written quota [ns] sizes fun p body =>
      { method := "PUT", path := p, body := body }) Done
      (createQuota ns sizes : Calls σ Unit) :=
  makes_written

theorem makes_retentionExist :
    Makes (Filled retentionClass [ns, name] fun p => { path := p }) Probed
      (retentionExist ns name : Calls σ Bool) :=
  makes_existence_path

theorem makes_createRetention :
    Makes (Filled retention [ns] fun p =>
      { method := "POST", path := p, body := (Record.retentionClass name period).plainData }) Done
      (createRetention ns name period : Calls σ Unit) :=
  makes_perform_path

theorem makes_updateRetention :
    Makes (Filled retentionClass [ns, name] fun p =>
      { method := "PUT", path := p, body := .mapping (Mapping.ofNamed [("period", period)]) }) Done
      (updateRetention ns name period : Calls σ Unit) :=
  makes_perform_path

theorem makes_deleteRetention :
    Makes (Filled retentionClass [ns, name] fun p =>
      { method := "DELETE", path := p, accepted := removed }) Done
      (deleteRetention ns name : Calls σ Unit) :=
  makes_perform_path

end Namespace

/-! ## 5. Base URLs and replication groups -/

namespace BaseUrl

theorem makes_list :
    Makes (fun c => c = { path := .text "/object/baseurl", parse := true }) Fails
      (list : Calls σ (List Record)) := by
  refine Makes.bind_quiet (makes_fetch ?_) fun _ => quiet_lift
  rfl

theorem makes_get {id : Value} :
    Makes (Filled resource [id] fun p => { path := p, parse := true }) Fails
      (get id : Calls σ Record) :=
  makes_fetch_path fun _ => quiet_lift

end BaseUrl

namespace ReplicationGroup

theorem makes_list :
    Makes (fun c => c = { path := .text "/vdc/data-service/vpools", parse := true }) Fails
      (list : Calls σ (List Record)) := by
  refine Makes.bind_quiet (makes_fetch ?_) fun _ => quiet_lift
  rfl

end ReplicationGroup

end StorageBroker.Management
