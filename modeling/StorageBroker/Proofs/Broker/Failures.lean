import StorageBroker.Broker.File
import StorageBroker.Proofs.Broker.Readiness
import StorageBroker.Proofs.Broker.Reporting
/-!
# The failures of commands

Whatever the management API does, a command comes to a result or to a report of the broker, or it
stops at the last answer that it got, with what the reading of it failed with. This takes names that
can stand in a path and numbers that are finite, which is a matter of those who give them.

* `IsAccessList` -- an access list as it is read can be changed and written back;
* `Command.Fits` -- what the platform and the administrator may give;
* `Command.reports` -- every command fails in these two ways only;
* `proper_session` -- the session of a broker is one of those that this is about;
* `failure_reported` -- the same over a session, in every world;
* `createUser_escapes` -- a user without a key, who is created and not reported.
-/

namespace StorageBroker.Broker

open Management
open Session (Ordinary)
open Text (Template.Sendable)

variable {b : Broker}

/-! ## 1. Access lists -/

section Access

variable {bucketId userId permissions : Value} {acl : Record}

/-- An entry of an access list, by its user and what the user has been granted. -/
def entryOf (u : Value × Value) : Value := (⟨.userAcl, [u.1, u.2]⟩ : Record).toValue

/-- **An access list as it is read and written back.** -/
def IsAccessList (acl : Record) : Prop :=
  ∃ (bucket ns : Value) (users : List (Value × Value)) (groups customGroups : Value),
    acl = ⟨.bucketAcl, [bucket, ns, .list (users.map entryOf), groups, customGroups]⟩

theorem eq_of_userAcl {user permission : Value} {r : Record}
    (h : Record.userAcl user permission = .ok r) : ∃ ps, r = ⟨.userAcl, [user, .list ps]⟩ := by
  obtain ⟨ps, _, h⟩ := bind_eq_ok.1 h
  exact ⟨ps, pure_eq_ok.1 h⟩

/-- What is read for an entry is one. -/
theorem toValue_of_read {v : Value} {r : Record} (h : Record.ofPlainData .userAcl v = .ok r) :
    ∃ u, r.toValue = entryOf u := by
  obtain ⟨m, _, h⟩ := bind_eq_ok.1 h
  unfold Record.make at h
  dsimp only at h
  split at h
  · obtain ⟨ps, rfl⟩ := eq_of_userAcl h
    exact ⟨(_, _), rfl⟩
  · cases h

theorem map_toValue_of_read {vs : List Value} {rs : List Record}
    (h : vs.mapM (Record.ofPlainData .userAcl) = .ok rs) :
    ∃ users : List (Value × Value), rs.map Record.toValue = users.map entryOf := by
  rw [mapM_eq_ok_iff] at h
  induction h with
  | nil => exact ⟨[], rfl⟩
  | cons hr _ ih =>
    obtain ⟨u, hu⟩ := toValue_of_read hr
    obtain ⟨users, husers⟩ := ih
    exact ⟨u :: users, by rw [List.map_cons, List.map_cons, hu, husers]⟩

theorem isAccessList_of_read {v : Value} (h : Record.ofData .bucketAcl v = .ok acl) :
    IsAccessList acl := by
  have hread : Record.ofAclData v = .ok acl := h
  simp only [Record.ofAclData, bind_eq_ok, pure_eq_ok] at hread
  obtain ⟨_, _, bucket, _, ns, _, _, _, _, _, rs, hrs, groups, _, customGroups, _, rfl⟩ := hread
  obtain ⟨users, husers⟩ := map_toValue_of_read hrs
  exact ⟨bucket, ns, users, _, _, by rw [husers]⟩

/-- An access list can be written back. -/
theorem IsAccessList.bodyOf (h : IsAccessList acl) : ∃ body, bodyOf acl.toValue = .ok body := by
  obtain ⟨bucket, ns, users, groups, customGroups, rfl⟩ := h
  have hentry : ∀ u, ∃ data, Record.dataOf (entryOf u) = .ok data :=
    fun u => ⟨_, Record.toData_of_ne_bucketAcl (r := ⟨.userAcl, [u.1, u.2]⟩) nofun⟩
  have hall : ∃ data, Record.allData (users.map entryOf) = .ok data := by
    induction users with
    | nil => exact ⟨[], rfl⟩
    | cons u users ih =>
      obtain ⟨data, hdata⟩ := ih
      obtain ⟨first, hfirst⟩ := hentry u
      refine ⟨first :: data, ?_⟩
      rw [List.map_cons, Record.allData, hfirst, hdata]
      rfl
  obtain ⟨data, hdata⟩ := hall
  have hbody := Record.toData_bucketAcl bucket ns groups customGroups (users.map entryOf)
  rw [hdata] at hbody
  exact ⟨_, hbody⟩

theorem IsAccessList.withEntry (h : IsAccessList acl) (user : Value) (ps : List Value) :
    ∃ acl', withEntry acl ⟨.userAcl, [user, .list ps]⟩ = .ok acl' ∧ IsAccessList acl' := by
  obtain ⟨bucket, ns, users, groups, customGroups, rfl⟩ := h
  refine ⟨_, rfl, bucket, ns, users ++ [(user, .list ps)], groups, customGroups, ?_⟩
  rw [List.map_append]
  rfl

theorem IsAccessList.withoutUser (h : IsAccessList acl) (user : Value) :
    ∃ acl', withoutUser acl user = .ok acl' ∧ IsAccessList acl' := by
  obtain ⟨bucket, ns, users, groups, customGroups, rfl⟩ := h
  have hkept : (users.map entryOf).filterM (fun entry => do
      return !(← Record.fieldOf entry "user").equal user) =
      .ok ((users.filter fun u => !u.1.equal user).map entryOf) :=
    filterM_map_eq_ok fun u _ => rfl
  exact ⟨_, bind_eq_ok.2 ⟨_, rfl, bind_eq_ok.2 ⟨_, hkept, rfl⟩⟩,
    bucket, ns, _, groups, customGroups, rfl⟩

theorem reports_getAcl {n : Text} {ns : Value} (hn : Template.Sendable n) :
    Reports IsAccessList (Bucket.getAcl (.text n) ns) := by
  obtain ⟨p, hp⟩ := fill_name (t := Bucket.acl) rfl hn
  have hfetches : Fetches { path := .text p, parse := true, params := Bucket.inNamespace ns }
      (Record.ofData .bucketAcl) (Bucket.getAcl (.text n) ns : Operation Record) :=
    fetches_path hp
  refine hfetches.reports ⟨rfl, ⟨p, rfl⟩, _, rfl⟩ .accessList ⟨_, ns, p, hp, rfl⟩ ?_ ?_
  · exact fun v m hm => bind_eq_error.2 (.inl hm)
  · exact fun v acl hacl => isAccessList_of_read hacl

theorem reports_updateAcl {n : Text} (hn : Template.Sendable n) (hacl : IsAccessList acl) :
    Reports (fun _ => True) (Bucket.updateAcl (.text n) acl.toValue) := by
  obtain ⟨body, hbody⟩ := hacl.bodyOf
  exact .path_bind (fill_name rfl hn) fun p _ =>
    .lift_bind hbody (reports_perform ⟨rfl, ⟨p, rfl⟩, _, rfl⟩)

theorem reports_bucketFileEnabled (hid : b.Named bucketId) :
    Reports (fun _ => True) (b.bucketFileEnabled bucketId) := by
  obtain ⟨n, hname, hn⟩ := hid
  obtain ⟨p, hp⟩ := fill_name (t := Bucket.info) rfl hn
  have hfetches : Fetches { path := .text p, parse := true, params := Bucket.inNamespace b.home }
      (Record.ofData .bucketInfo) (Bucket.get (.text n) b.home : Operation Record) :=
    fetches_path hp
  have hget : Reports (fun _ => True) (Bucket.get (.text n) b.home) :=
    hfetches.reports ⟨rfl, ⟨p, rfl⟩, _, rfl⟩ .bucketInfo ⟨_, _, p, hp, rfl⟩
      (fun v m hm => bind_eq_error.2 (.inl hm)) fun _ _ _ => trivial
  exact Reports.reporting (.lift_bind hname (hget.next fun _ => reports_pure trivial))

theorem reports_addUser (hid : b.Named bucketId) (huser : ∃ user, b.nameOf userId = .ok user)
    (hpermissions : permissions = .null ∨ ∃ ps, permissions = .list ps) :
    Reports (fun _ => True) (b.addUser bucketId userId permissions) := by
  obtain ⟨n, hname, hn⟩ := hid
  obtain ⟨user, huser⟩ := huser
  have hentry : ∃ ps, Record.userAcl user (permissionsOr permissions) =
      .ok ⟨.userAcl, [user, .list ps]⟩ := by
    rcases hpermissions with rfl | ⟨ps, rfl⟩
    · exact ⟨_, rfl⟩
    · refine ⟨ps, ?_⟩
      show Record.userAcl user (.list ps) = _
      rw [Record.userAcl, itemsOrNone_list]
      rfl
  obtain ⟨ps, hentry⟩ := hentry
  refine Reports.reporting (.lift_bind hname (.lift_bind huser ((reports_getAcl hn).bind ?_)))
  intro acl hacl
  obtain ⟨acl', hwith, hacl'⟩ := hacl.withEntry user ps
  refine .lift_bind hentry (.lift_bind hwith ((reports_updateAcl hn hacl').next fun _ => ?_))
  refine (reports_bucketFileEnabled ⟨n, hname, hn⟩).next fun enabled => ?_
  split
  · have hkind : (Record.allowAll user (.text n)).kind ≠ .bucketAcl :=
      show RecordKind.bucketPolicy ≠ .bucketAcl by decide
    exact .path_bind (fill_name rfl hn) fun p _ =>
      .lift_bind (Record.toData_of_ne_bucketAcl hkind) (reports_perform ⟨rfl, ⟨p, rfl⟩, _, rfl⟩)
  · exact reports_pure trivial

theorem reports_removeUser (hid : b.Named bucketId) (huser : ∃ user, b.nameOf userId = .ok user) :
    Reports (fun _ => True) (b.removeUser bucketId userId) := by
  obtain ⟨n, hname, hn⟩ := hid
  obtain ⟨user, huser⟩ := huser
  refine Reports.reporting (.lift_bind hname (.lift_bind huser ((reports_getAcl hn).bind ?_)))
  intro acl hacl
  obtain ⟨acl', hwithout, hacl'⟩ := hacl.withoutUser user
  exact .lift_bind hwithout (reports_updateAcl hn hacl')

theorem reports_startWipe (hid : b.Named bucketId)
    (huser : ∃ user, b.nameOf (b.config.value .repositoryUser) = .ok user) :
    Reports (fun _ => True) (b.startWipe bucketId) := by
  refine Reports.reporting (.get_bind fun s => ?_)
  dsimp only
  split
  · exact reports_throw_bind rfl
  · exact reports_addUser hid huser (.inl rfl)

end Access

/-! ## 2. Users, file shares and addresses -/

section Others

variable {id uid namespaceId relative : Value}

theorem reports_userExists (hid : b.Named id) : Reports (fun _ => True) (b.userExists id) := by
  obtain ⟨n, hname, hn⟩ := hid
  refine Reports.reporting (.lift_bind hname (.path_bind (fill_name rfl hn) fun p _ => ?_))
  exact reports_existence ⟨rfl, ⟨p, rfl⟩, _, rfl⟩

/-- **A user is created** unless its keys cannot be read or there is none among them. -/
theorem reports_createUser (hid : b.Named id)
    (hns : namespaceId.truthy → ∃ ns, b.nameOf namespaceId = .ok ns) :
    Reports (fun _ => True) (b.createUser id namespaceId) := by
  obtain ⟨n, hname, hn⟩ := hid
  obtain ⟨ns, hns⟩ : ∃ ns, b.userNamespace namespaceId = .ok ns := by
    unfold userNamespace
    split
    next htruthy => exact hns htruthy
    next => exact ⟨_, rfl⟩
  obtain ⟨p, hp⟩ := fill_name (t := User.secrets) rfl hn
  have hsecret : Reports (fun _ => True) (User.createSecret (.text n)) := by
    have hfetches : Fetches
        { method := "POST", path := .text p, body := .mapping [], parse := true }
        (Record.ofData .userSecretKey) (User.createSecret (.text n) : Operation Record) :=
      fetches_path hp
    exact hfetches.reports ⟨rfl, ⟨p, rfl⟩, _, rfl⟩ .newKey ⟨_, p, hp, rfl⟩
      (fun v m hm => bind_eq_error.2 (.inl hm)) fun _ _ _ => trivial
  have hlist : Fetches { path := .text p, parse := true } Record.secretKeys
      (User.listSecrets (.text n) : Operation (List Record)) := fetches_path hp
  refine Reports.reporting (.lift_bind hns (.lift_bind hname ?_))
  refine (reports_perform ⟨rfl, ⟨_, rfl⟩, _, rfl⟩).next fun _ => hsecret.next fun _ => ?_
  refine hlist.reports_bind ⟨rfl, ⟨p, rfl⟩, _, rfl⟩ .firstKey ⟨_, p, hp, rfl⟩
    (fun v m hm => bind_eq_error.2 (.inl hm)) fun v keys hkeys => ?_
  cases keys with
  | nil =>
    refine .inl ⟨_, ?_, halts_lift rfl⟩
    exact bind_eq_error.2 (.inr ⟨[], hkeys, rfl⟩)
  | cons key rest => exact .inr (.lift rfl trivial)

/-- A call that only names the user of an id. -/
theorem reports_perform_named {k : Value → Call} (hid : ∃ name, b.nameOf id = .ok name)
    (hk : ∀ name, Ordinary (k name)) :
    Reports (fun _ => True) (reporting (liftM (b.nameOf id) >>= fun name => perform (k name))) := by
  obtain ⟨name, hname⟩ := hid
  exact Reports.reporting (.lift_bind hname (reports_perform (hk name)))

/-- The exports in a document, none if there is not a single one. -/
def readExports (document : Value) : Except Malformed (Option (List Record)) := do
  if (← document.get "exports").truthy then return some (← recordsIn .nfsExport document "exports")
  else return none

theorem fetches_exports {p : String} {v : Value} (hp : Export.encoded v = .ok p) :
    Fetches { path := .text (Export.resource ++ "?path=" ++ p), parse := true } readExports
      (Export.list v : Operation (Option (List Record))) := by
  have hread : ∀ document : Value, (do
      let exports ← document.get "exports"
      if exports.truthy then return some (← recordsIn .nfsExport document "exports")
      else return none : Operation (Option (List Record))) = liftM (readExports document) := by
    intro document
    rw [readExports]
    cases document.get "exports" with
    | error m => rfl
    | ok exports =>
      show (if exports.truthy then _ else _ : Operation (Option (List Record))) =
        liftM (if exports.truthy then _ else _ : Except Malformed (Option (List Record)))
      split
      · cases recordsIn .nfsExport document "exports" <;> rfl
      · rfl
  have hlist : (Export.list v : Operation (Option (List Record))) =
      fetch { path := .text (Export.resource ++ "?path=" ++ p) } >>= fun document =>
        liftM (readExports document) := by
    rw [Export.list, hp]
    exact congrArg (fetch _ >>= ·) (funext hread)
  rw [hlist]
  exact fetches_read

/-- What the exports cannot be read for is what their reader refuses. -/
theorem read_exports_of_error {v : Value} {m : Malformed} (h : readExports v = .error m) :
    Reader.exports.read v = .error m := by
  obtain h | ⟨exports, hexports, h⟩ := bind_eq_error.1 h
  · exact bind_eq_error.2 (.inl h)
  refine bind_eq_error.2 (.inr ⟨exports, hexports, ?_⟩)
  split at h
  next htruthy =>
    rw [if_pos htruthy]
    obtain h | ⟨_, _, h⟩ := bind_eq_error.1 h
    · exact bind_eq_error.2 (.inl h)
    · cases h
  next => cases h

theorem reports_addExport (hid : ∃ name, b.nameOf id = .ok name ∧
      Template.Sendable (b.exportPath name relative)) :
    Reports (fun _ => True) (b.addExport id relative) := by
  obtain ⟨name, hname, hsend⟩ := hid
  refine Reports.reporting (.lift_bind hname ?_)
  refine ((fetches_exports (Export.encoded_sendable hsend)).reports ⟨rfl, ⟨_, rfl⟩, _, rfl⟩
    .exports ⟨_, rfl⟩ (fun _ _ => read_exports_of_error) fun _ _ _ => trivial).next
      fun exports => ?_
  split
  · exact reports_pure trivial
  · exact (reports_perform ⟨rfl, ⟨_, rfl⟩, _, rfl⟩).next fun _ => reports_pure trivial

/-- **The base URL is looked up** and asked for under its id, which is the one thing that a listing
gives and that can be used only if it can stand in a path. -/
theorem reports_namespaceUrl {ns parameters settings : Value} {own forced : Mapping}
    (hparameters : Given parameters own) (hsettings : Given settings forced) :
    Reports (fun _ => True) (namespaceUrl ns parameters settings) := by
  have hown : (parameters.orElse (.mapping [])).toMapping = .ok own := by
    cases hparameters with
    | nothing => rfl
    | mapping => rw [orElse_mapping]; rfl
  obtain ⟨m, hm⟩ : ∃ m, Settings.merge (.mapping own) [settings] = .ok (.mapping m) := by
    cases hsettings with
    | nothing => exact ⟨own, rfl⟩
    | mapping =>
      cases forced with
      | nil => exact ⟨own, rfl⟩
      | cons e rest => exact ⟨_, rfl⟩
  have hlist : Fetches { path := .text "/object/baseurl", parse := true }
      (fun v => recordsIn .baseUrl v "base_url") (BaseUrl.list : Operation (List Record)) :=
    fetches_read
  refine Reports.reporting (.lift_bind hown (.lift_bind hm (reports_discovered.next fun d => ?_)))
  refine .lift_bind rfl (.lift_bind rfl ?_)
  generalize (Mapping.get m Settings.baseUrl).getD d.baseUrl = name
  refine hlist.reports_bind ⟨rfl, ⟨_, rfl⟩, _, rfl⟩ (.baseUrl name) rfl
    (fun v e he => bind_eq_error.2 (.inl he)) fun v urls hurls => ?_
  cases hfound : Discovery.findNamed name (urls.map some) with
  | none => exact .inr (reports_throw rfl)
  | some url =>
    dsimp only
    cases hnull : name.isNull with
    | true => exact .inr (reports_throw rfl)
    | false =>
      rw [if_neg Bool.false_ne_true]
      cases hfill : BaseUrl.resource.fill [url.field "id"] with
      | error e =>
        exact .inl ⟨e, Reader.read_baseUrl hurls hfound hnull hfill, (halts_path hfill).bind⟩
      | ok p =>
        have hget : Fetches { path := .text p, parse := true } (Record.ofData .baseUrlInfo)
            (BaseUrl.get (url.field "id") : Operation Record) := fetches_path hfill
        refine .inr (Reports.next (hget.reports ⟨rfl, ⟨p, rfl⟩, _, rfl⟩ .baseUrlInfo
          ⟨_, p, hfill, rfl⟩ (fun v e he => bind_eq_error.2 (.inl he)) fun _ _ _ => trivial)
          fun _ => reports_pure trivial)

end Others

/-! ## 3. Commands -/

/-- **A setting that a provision can take**: its numbers are finite, and where retention classes are
brought in order, names in it can stand in a path. -/
def Provision.Takes (p : Provision) (v : Value) : Prop :=
  Settings.Bounded v ∧ (p = .changeNamespacePlan →
    ∀ q, v = .mapping q → ∀ e ∈ q, Template.Sendable e.1.plain)

/-- **What the platform and the administrator may give**: ids whose names are texts that can be sent
where they stand in a path, mappings for parameters, and settings that can be taken. -/
def Command.Fits (b : Broker) : Command → Prop
  | .provision p id service plan parameters => b.Named id ∧ ∃ m, Given parameters m ∧
      (∀ e ∈ m, p.Takes e.2) ∧ (∀ e ∈ plan.serviceSettings, p.Takes e.2) ∧
      ∀ e ∈ service.serviceSettings, p.Takes e.2
  | .bucketExists id | .bucketFileEnabled id | .deleteBucket id | .userExists id
  | .namespaceExists id | .deleteNamespace id => b.Named id
  | .startWipe id => b.Named id ∧ ∃ user, b.nameOf (b.config.value .repositoryUser) = .ok user
  | .addUser bucketId userId permissions => b.Named bucketId ∧
      (∃ user, b.nameOf userId = .ok user) ∧
      (permissions = .null ∨ ∃ ps, permissions = .list ps)
  | .removeUser bucketId userId => b.Named bucketId ∧ ∃ user, b.nameOf userId = .ok user
  | .addExport id relative => ∃ name, b.nameOf id = .ok name ∧
      Template.Sendable (b.exportPath name relative)
  | .createUser id namespaceId => b.Named id ∧
      (namespaceId.truthy → ∃ ns, b.nameOf namespaceId = .ok ns)
  | .deleteUser id | .createUserMap id _ | .deleteUserMap id _ => ∃ user, b.nameOf id = .ok user
  | .namespaceUrl _ parameters settings =>
      (∃ own, Given parameters own) ∧ ∃ forced, Given settings forced

theorem Provision.reports (p : Provision) {id parameters : Value} {service : ServiceDefinition}
    {plan : Plan} (hfits : (Command.provision p id service plan parameters).Fits b) :
    Reports (fun _ => True) (p.perform b id service plan parameters) := by
  obtain ⟨hid, m, hgiven, hm, hplan, hservice⟩ := hfits
  have hmerged := mergeFor_of_given hgiven plan service
  have htakes := Mapping.forall_update (Mapping.forall_update hm hplan) hservice
  have hbounded := fun e he => (htakes e he).1
  cases p with
  | createBucket => exact reports_createBucket hid hmerged hbounded
  | changeBucketPlan => exact reports_changeBucketPlan hid hmerged hbounded
  | createNamespace => exact reports_createNamespace hid hmerged hbounded
  | changeNamespacePlan =>
    refine reports_changeNamespacePlan hid hmerged hbounded ?_
    rintro name i ⟨cs, v, hcs, hmem, _⟩
    exact (htakes _ (Mapping.mem_of_get hcs)).2 rfl cs rfl _ hmem

/-- **Every command fails as the library does, or at the last answer that it got.** -/
theorem Command.reports (cmd : Command) (hfits : cmd.Fits b) :
    Reports (fun _ => True) (cmd.perform b) := by
  cases cmd with
  | provision p id service plan parameters => exact p.reports hfits
  | bucketExists id => exact reports_bucketExists hfits
  | bucketFileEnabled id => exact reports_bucketFileEnabled hfits
  | deleteBucket id =>
    obtain ⟨n, hname, hn⟩ := hfits
    exact Reports.reporting (.lift_bind hname
      (reports_perform_name rfl hn fun p => ⟨rfl, ⟨p, rfl⟩, _, rfl⟩))
  | startWipe id => exact reports_startWipe hfits.1 hfits.2
  | addUser bucketId userId permissions => exact reports_addUser hfits.1 hfits.2.1 hfits.2.2
  | removeUser bucketId userId => exact reports_removeUser hfits.1 hfits.2
  | addExport id relative => exact reports_addExport hfits
  | createUser id namespaceId => exact reports_createUser hfits.1 hfits.2
  | userExists id => exact reports_userExists hfits
  | deleteUser id => exact reports_perform_named hfits fun _ => ⟨rfl, ⟨_, rfl⟩, _, rfl⟩
  | createUserMap id uid => exact reports_perform_named hfits fun _ => ⟨rfl, ⟨_, rfl⟩, _, rfl⟩
  | deleteUserMap id uid => exact reports_perform_named hfits fun _ => ⟨rfl, ⟨_, rfl⟩, _, rfl⟩
  | namespaceExists id => exact reports_namespaceExists hfits
  | deleteNamespace id =>
    obtain ⟨n, hname, hn⟩ := hfits
    exact Reports.reporting (.lift_bind hname
      (reports_perform_name rfl hn fun p => ⟨rfl, ⟨p, rfl⟩, _, rfl⟩))
  | namespaceUrl ns parameters settings =>
    obtain ⟨⟨own, hown⟩, forced, hforced⟩ := hfits
    exact reports_namespaceUrl hown hforced

/-! ## 4. Commands over a session -/

/-- The session that a configuration asks for is a proper one, as far as small powers of two are no
overflows. -/
theorem proper_session {s : Session}
    (hpower : ∀ k < 3, ((2 : Float).pow (Float.ofNat k)).isInf = false)
    (h : b.session = .ok s) : s.Proper :=
  Session.proper_start (Retry.steady_standard hpower) h

/-- **A command reports its failures as those of the broker**, in every world, for every session
that has been started and whatever the broker knows, unless it stops at an answer that cannot be
read. -/
theorem failure_reported {σ : Type} (w : Dialogue.World Wire σ) (st : σ) (s : Session) (bs : State)
    (cmd : Command) (hfits : cmd.Fits b) (hs : s.Proper)
    (hsend : ∀ e ∈ (Dialogue.run w (Session.carryOut ((cmd.perform b).run bs) s) st).events,
      Session.Possible e) :
    let d := (cmd.perform b).run bs
    let calls := (Session.turns w d s st).map Dialogue.Turn.event
    ∀ f, (Dialogue.run w (Session.carryOut d s) st).result.1.1 = .error f →
      f.isBroker ∨ ∃ m, f = .malformed m ∧ Unread calls m := by
  intro d calls f hf
  let o := Dialogue.run w (Session.carryOut d s) st
  have hcourse : (cmd.perform b).Course bs calls o.result.1.1 o.result.1.2 :=
    Session.course_carryOut w d s st
  rw [hf] at hcourse
  obtain ⟨hordinary, _, htold⟩ := cmd.reports hfits _ _ _ _ hcourse
  have hown : ∀ c g, called c (.error g) ∈ calls → g.isOwn := by
    intro c g hmem
    obtain ⟨_, _, hcall, hc⟩ := hordinary _ hmem
    cases hcall
    exact Session.own_of_turns w d s st hs hsend hc hmem
  refine (htold hown f rfl).imp_left fun h => ?_
  rw [← cmd.wrapped b _ _ _ _ hcourse]
  exact Fault.isBroker_wrap h

/-- A management API that answers all requests alike, but logins. -/
def alike (answer : Reply) : Rehearsal.State := ⟨⟨[], 0, [], [], answer⟩, ⟨none, [], []⟩, 0.5⟩

/-- A session that has not logged in yet, and that tries nothing again. -/
def single : Session := { Session.expired with token := none, retry := none }

/-- The creation of a user on a management API that answers alike. -/
def creatingUser (answer : Reply) :
    Dialogue.Outcome Wire Rehearsal.State ((Except Fault Record × State) × Session) :=
  Dialogue.run Rehearsal.world
    (Session.carryOut ((bare.createUser (.text "u") .null).run discovering) single) (alike answer)

/-- Where requests are forbidden, the creation of a user fails in the name of the broker; where all
documents are empty, it stops at the listing of the keys. -/
theorem failure_reported_keyless :
    (∃ f, (creatingUser forbidden).result.1.1 = .error f ∧ f.isBroker) ∧
      ∃ m, (creatingUser emptyDocument).result.1.1 = .error (.malformed m) ∧
        Unread ((Session.turns Rehearsal.world ((bare.createUser (.text "u") .null).run discovering)
          single (alike emptyDocument)).map Dialogue.Turn.event) m := by
  have hfits : (Command.createUser (.text "u") .null).Fits bare :=
    ⟨named_text rfl (by decide), fun h => absurd h (by decide)⟩
  have hsession : single.Proper :=
    ⟨fun h => absurd h (by decide), fun _ => ⟨_, rfl⟩, Retry.steady_none⟩
  have hcases := fun answer hsend => failure_reported Rehearsal.world (alike answer) single
    discovering (.createUser (.text "u") .null) hfits hsession hsend
  constructor
  · obtain ⟨f, hf, hown⟩ := failure_of_isFailure
      (show isFailure Fault.isOwn (creatingUser forbidden).result.1.1 by decide +kernel)
    obtain hbroker | ⟨m, rfl, _⟩ := hcases forbidden (by decide +kernel) f hf
    · exact ⟨f, hf, hbroker⟩
    · cases hown
  · obtain ⟨f, hf, hother⟩ := failure_of_isFailure
      (show isFailure (!·.isBroker) (creatingUser emptyDocument).result.1.1 by decide +kernel)
    obtain hbroker | ⟨m, rfl, hunread⟩ := hcases emptyDocument (by decide +kernel) f hf
    · rw [hbroker] at hother
      cases hother
    · exact ⟨m, hf, hunread⟩

/-- **A failure that escapes**: the user has been created, and none of its keys is listed. -/
theorem createUser_escapes :
    ∃ f, (creatingUser emptyDocument).result.1.1 = .error f ∧ f.isBroker = false := by
  obtain ⟨f, hf, hother⟩ := failure_of_isFailure
    (show isFailure (!·.isBroker) (creatingUser emptyDocument).result.1.1 by decide +kernel)
  exact ⟨f, hf, by simpa using hother⟩

end StorageBroker.Broker
