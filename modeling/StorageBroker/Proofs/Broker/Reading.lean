import StorageBroker.Broker.Users
import StorageBroker.Proofs.Management.Access
/-!
# What is read out of answers

An operation that asks for a document reads it in one way, and goes on with what it has read. The
document is whatever the management API answers with, so the reading may fail, and then it fails as
malformed data does.

* `Reader` -- the ways in which operations read answers, and the calls that they belong to;
* `read_of_no_object` -- no way of reading comes through with a document that is no object;
* `read_record_iff`, `read_firstKey_iff` -- the documents that are read as one record, and those
  that have a key to give;
* `Fetches` -- an action that makes one call and reads its answer.
-/

namespace StorageBroker.Broker

open Management

/-! ## 1. Ways of reading -/

/-- **The ways in which operations read answers.** A base URL is looked up by a name, and what is
read of it is the id under which it is asked for. -/
inductive Reader where
  | bucketInfo
  | accessList
  | newKey
  | firstKey
  | exports
  | baseUrl (name : Value)
  | baseUrlInfo

namespace Reader

/-- **Reads a document**; what is read does not matter here, but whether it can be. -/
def read (k : Reader) (document : Value) : Except Malformed Unit :=
  match k with
  | .bucketInfo => do let _ ← Record.ofData .bucketInfo document
  | .accessList => do let _ ← Record.ofData .bucketAcl document
  | .newKey => do let _ ← Record.ofData .userSecretKey document
  | .firstKey => do let _ ← Broker.firstKey (← Record.secretKeys document)
  | .exports => do
    if (← document.get "exports").truthy then
      let _ ← recordsIn .nfsExport document "exports"
  | .baseUrl name => do
    let urls ← recordsIn .baseUrl document "base_url"
    match Discovery.findNamed name (urls.map some) with
    | none => return
    | some url =>
      if !name.isNull then
        let _ ← BaseUrl.resource.fill [url.field "id"]
  | .baseUrlInfo => do let _ ← Record.ofData .baseUrlInfo document

/-- **The calls whose answers are read in a way.** -/
def Of (k : Reader) (c : Call) : Prop :=
  match k with
  | .bucketInfo => ∃ bucket ns, Filled Bucket.info [bucket]
      (fun p => { path := p, parse := true, params := Bucket.inNamespace ns }) c
  | .accessList => ∃ bucket ns, Filled Bucket.acl [bucket]
      (fun p => { path := p, parse := true, params := Bucket.inNamespace ns }) c
  | .newKey => ∃ user, Filled User.secrets [user]
      (fun p => { method := "POST", path := p, body := .mapping [], parse := true }) c
  | .firstKey => ∃ user, Filled User.secrets [user] (fun p => { path := p, parse := true }) c
  | .exports => ∃ p, c = { path := .text (Export.resource ++ "?path=" ++ p), parse := true }
  | .baseUrl _ => c = { path := .text "/object/baseurl", parse := true }
  | .baseUrlInfo => ∃ id, Filled BaseUrl.resource [id] (fun p => { path := p, parse := true }) c

variable {k : Reader} {v : Value}

/-- **A document that is no object is read in no way.** -/
theorem read_of_no_object (k : Reader) (h : ∀ m, v ≠ .mapping m) : ∃ m, k.read v = .error m := by
  have hentries : ∀ name, v.entriesFor name = .error (.lacks v name) := by
    intro name
    cases v with
    | mapping m => exact absurd rfl (h m)
    | _ => rfl
  have hget : ∀ name, v.get name = .error (.lacks v "get") := by
    intro name
    rw [Value.get, Value.getD, hentries]
    rfl
  have hplain : ∀ kind, Record.ofPlainData kind v = .error (.lacks v "items") := by
    intro kind
    rw [Record.ofPlainData, hentries]
    rfl
  cases k with
  | bucketInfo => exact ⟨_, bind_eq_error.2 (.inl (hplain .bucketInfo))⟩
  | accessList => exact ⟨.lacks v "get", bind_eq_error.2 (.inl (bind_eq_error.2 (.inl (hget _))))⟩
  | newKey => exact ⟨_, bind_eq_error.2 (.inl (hplain .userSecretKey))⟩
  | firstKey =>
    have hkey : ∀ number, Record.secretKey? v number = .error (.lacks v "get") :=
      fun _ => bind_eq_error.2 (.inl (hget _))
    exact ⟨.lacks v "get", bind_eq_error.2 (.inl (bind_eq_error.2 (.inl (hkey _))))⟩
  | exports => exact ⟨_, bind_eq_error.2 (.inl (hget "exports"))⟩
  | baseUrl name =>
    exact ⟨.lacks v "get", bind_eq_error.2 (.inl (bind_eq_error.2 (.inl (hget _))))⟩
  | baseUrlInfo => exact ⟨_, bind_eq_error.2 (.inl (hplain .baseUrlInfo))⟩

/-- A base URL that is listed under an id that cannot stand in a path is not read. -/
theorem read_baseUrl {name : Value} {urls : List Record} {url : Record} {e : Malformed}
    (hurls : recordsIn .baseUrl v "base_url" = .ok urls)
    (hfound : Discovery.findNamed name (urls.map some) = some url) (hnamed : name.isNull = false)
    (hfill : BaseUrl.resource.fill [url.field "id"] = .error e) :
    (baseUrl name).read v = .error e := by
  refine bind_eq_error.2 (.inr ⟨urls, hurls, ?_⟩)
  rw [hfound]
  dsimp only
  rw [hnamed]
  exact bind_eq_error.2 (.inl hfill)

/-- **A record is read out of every object**, and out of nothing else. -/
theorem read_record_iff (hk : k = .bucketInfo ∨ k = .newKey ∨ k = .baseUrlInfo) :
    k.read v = .ok () ↔ ∃ m, v = .mapping m := by
  constructor
  · intro hread
    by_contra hnone
    obtain ⟨m, hm⟩ := k.read_of_no_object fun m hm => hnone ⟨m, hm⟩
    cases hm.symm.trans hread
  · rintro ⟨m, rfl⟩
    rcases hk with rfl | rfl | rfl
    · exact bind_eq_ok.2 ⟨_, makePlain_fieldEntries .bucketInfo m, rfl⟩
    · exact bind_eq_ok.2 ⟨_, makePlain_fieldEntries .userSecretKey m, rfl⟩
    · exact bind_eq_ok.2 ⟨_, makePlain_fieldEntries .baseUrlInfo m, rfl⟩

theorem read_firstKey_mapping {m : Mapping} : firstKey.read (.mapping m) = .ok () ↔
    ((Mapping.get m "secret_key_1").getD .null).truthy ∨
      ((Mapping.get m "secret_key_2").getD .null).truthy := by
  obtain ⟨since, expiry, hfirst⟩ := @Record.secretKey?_mapping m "1"
  obtain ⟨since', expiry', hsecond⟩ := @Record.secretKey?_mapping m "2"
  rw [show ("secret_key_" ++ "1" : Text) = "secret_key_1" by decide] at hfirst
  rw [show ("secret_key_" ++ "2" : Text) = "secret_key_2" by decide] at hsecond
  rw [read, Record.secretKeys, hfirst, hsecond]
  generalize (Mapping.get m "secret_key_1").getD .null = a,
    (Mapping.get m "secret_key_2").getD .null = c
  dsimp only
  cases a.truthy with
  | true => exact ⟨fun _ => .inl rfl, fun _ => rfl⟩
  | false =>
    cases c.truthy with
    | true => exact ⟨fun _ => .inr rfl, fun _ => rfl⟩
    | false => exact ⟨fun h => (nomatch h), fun h => absurd h (by decide)⟩

/-- **A first key is read out of an object that has one of its two secrets**, and out of nothing
else. -/
theorem read_firstKey_iff : firstKey.read v = .ok () ↔ ∃ m, v = .mapping m ∧
    (((Mapping.get m "secret_key_1").getD .null).truthy ∨
      ((Mapping.get m "secret_key_2").getD .null).truthy) := by
  constructor
  · intro hread
    by_cases hobject : ∃ m, v = .mapping m
    · obtain ⟨m, rfl⟩ := hobject
      exact ⟨m, rfl, read_firstKey_mapping.1 hread⟩
    · obtain ⟨m, hm⟩ := firstKey.read_of_no_object fun m hm => hobject ⟨m, hm⟩
      cases hm.symm.trans hread
  · rintro ⟨m, rfl, hkey⟩
    exact read_firstKey_mapping.2 hkey

end Reader

/-! ## 2. Calls whose answers are read -/

section Fetches

variable {σ α : Type} {c : Call} {read : Value → Except Malformed α}

/-- **An action that makes one call and reads its answer**: a failure of either is its own. -/
def Fetches (c : Call) (read : Value → Except Malformed α) (x : Calls σ α) : Prop :=
  ∀ s es r s', x.Course s es r s' → ∃ a, es = [called c a] ∧
    r = a >>= fun answer => (read answer.document).mapError .malformed

theorem fetches_read {c : Call} :
    Fetches { c with parse := true } read (fetch c >>= fun v => liftM (read v) : Calls σ α) := by
  intro s es r s' h
  obtain ⟨f, hfetch, rfl⟩ | ⟨es₁, v, s₁, es₂, hfetch, hread, rfl⟩ := Action.course_bind.1 h
  · obtain ⟨a, rfl, hresult, _⟩ := course_fetch.1 hfetch
    cases a with
    | ok a => cases hresult
    | error g =>
      cases hresult
      exact ⟨.error f, rfl, rfl⟩
  · obtain ⟨a, rfl, hresult, _⟩ := course_fetch.1 hfetch
    obtain ⟨rfl, rfl, _⟩ := Action.course_lift_malformed.1 hread
    cases a with
    | ok a =>
      cases hresult
      exact ⟨.ok a, rfl, rfl⟩
    | error g => cases hresult

theorem fetches_path {t : Text.Template} {args : List Value} {p : String} {k : Value → Call}
    (hp : t.fill args = .ok p) : Fetches { k (.text p) with parse := true } read
      (path t args >>= fun p => fetch (k p) >>= fun v => liftM (read v) : Calls σ α) := by
  intro s es r s' h
  obtain ⟨m, hm, _⟩ | ⟨p', hp', h⟩ := course_path_bind.1 h
  · cases hm.symm.trans hp
  · cases hp.symm.trans hp'
    exact fetches_read _ _ _ _ h

end Fetches

end StorageBroker.Broker
