import StorageBroker.Proofs.Management.Backend
import StorageBroker.Proofs.Management.Instance
/-!
# Access lists of buckets

The access list of a bucket is a document with an entry for each user that has been let in, and with
entries of groups that are no matter of the broker. The broker reads the whole document, changes the
entries of one user and writes the whole document back, so nothing else may be lost on the way.

* `AccessList`, `Describes` -- access lists, and the documents that describe one;
* `ofData_of_describes`, `bodyOf_record` -- a document is read as its list, and the list is written
  as a document that describes it;
* `accessBackend` -- the management API as far as the access list of one bucket goes;
* `achieves_getAcl`, `achieves_updateAcl` -- reading and writing the list.
-/

namespace StorageBroker.Management

open Record (Named given)
open Text (Template)

/-! ## 1. Objects -/

/-- **A document with given fields**, in whatever order. -/
def IsObject (doc : Value) (fields : Named) : Prop :=
  ∃ named : Named, named.Perm fields ∧ doc = .mapping (Mapping.ofNamed named)

theorem isObject_ofNamed (fields : Named) : IsObject (.mapping (Mapping.ofNamed fields)) fields :=
  ⟨fields, .refl _, rfl⟩

variable {fields named : Named} {doc : Value}

/-- In what order distinct names are given makes no difference. -/
theorem given_of_perm (h : named.Perm fields) (hnodup : (named.map Prod.fst).Nodup)
    (name : Text) : given named name = given fields name := by
  have hfind : named.find? (fun e => e.1 == name) = fields.find? fun e => e.1 == name := by
    induction h with
    | nil => rfl
    | cons e _ ih =>
      rw [List.map_cons, List.nodup_cons] at hnodup
      rw [List.find?_cons, List.find?_cons, ih hnodup.2]
    | swap a b rest =>
      have hne : b.1 ≠ a.1 := by
        rw [List.map_cons, List.nodup_cons] at hnodup
        exact fun heq => hnodup.1 (heq ▸ List.mem_cons_self)
      simp only [List.find?_cons]
      cases ha : a.1 == name with
      | false => rfl
      | true =>
        have hb : (b.1 == name) = false := by
          rw [beq_eq_false_iff_ne, ← eq_of_beq ha]
          exact hne
        rw [hb]
    | trans h₁ _ ih₁ ih₂ => rw [ih₁ hnodup, ih₂ ((h₁.map Prod.fst).nodup hnodup)]
  rw [given, given, hfind]

/-- **A field of a document** is found under its name. -/
theorem get_of_isObject (h : IsObject doc fields) (hnodup : (fields.map Prod.fst).Nodup)
    (name : Text) : doc.get name = .ok (given fields name) := by
  obtain ⟨named, hperm, rfl⟩ := h
  have hget : (Value.mapping (Mapping.ofNamed named)).get name =
      .ok ((Record.entry (.mapping (Mapping.ofNamed named)) name).getD .null) := rfl
  rw [hget, Record.entry_ofNamed,
    ← given_of_perm hperm ((hperm.map Prod.fst).nodup_iff.2 hnodup) name]
  rfl

/-! ## 2. Access lists -/

/-- What a user has been granted. -/
abbrev Grant := Text × List Value

/-- **An access list**: what users have been granted, and the entries of groups. -/
structure AccessList where
  bucket : Value
  ns : Value
  grants : List Grant
  groups : List Value
  customGroups : List Value

/-- An entry of a document that says what a user has been granted. -/
def IsGrant (entry : Value) (g : Grant) : Prop :=
  IsObject entry [("user", .text g.1), ("permission", .list g.2)]

/-- **A document that describes an access list.** -/
def Describes (doc : Value) (l : AccessList) : Prop :=
  ∃ acl entries,
    IsObject doc [("bucket", l.bucket), ("namespace", l.ns), ("acl", acl)] ∧
    IsObject acl [("user_acl", .list entries), ("group_acl", .list l.groups),
      ("customgroup_acl", .list l.customGroups)] ∧
    List.Forall₂ IsGrant entries l.grants

namespace AccessList

/-- A grant as a record. -/
def grantRecord (g : Grant) : Record := ⟨.userAcl, [.text g.1, .list g.2]⟩

/-- A grant as an entry of a document. -/
def grantData (g : Grant) : Value :=
  .mapping (Mapping.ofNamed [("user", .text g.1), ("permission", .list g.2)])

/-- An access list as a record. -/
def record (l : AccessList) : Record :=
  ⟨.bucketAcl, [l.bucket, l.ns, .list (l.grants.map fun g => (grantRecord g).toValue),
    .list l.groups, .list l.customGroups]⟩

/-- An access list as a document. -/
def document (l : AccessList) : Value :=
  .mapping (Mapping.ofNamed
    [("bucket", l.bucket), ("namespace", l.ns),
     ("acl", .mapping (Mapping.ofNamed
       [("user_acl", .list (l.grants.map grantData)), ("group_acl", .list l.groups),
        ("customgroup_acl", .list l.customGroups)]))])

variable {l : AccessList}

theorem describes_document : Describes l.document l := by
  refine ⟨_, _, isObject_ofNamed _, isObject_ofNamed _, ?_⟩
  rw [List.forall₂_map_left_iff, List.forall₂_same]
  exact fun g _ => isObject_ofNamed _

/-- **An access list is written as a document that describes it.** -/
theorem bodyOf_record : bodyOf l.record.toValue = .ok l.document := by
  have hgrants : Record.allData (l.grants.map fun g => (grantRecord g).toValue) =
      .ok (l.grants.map grantData) := by
    have hkinds : ∀ u ∈ l.grants.map grantRecord, u.kind ≠ .bucketAcl := by
      rintro _ hu
      obtain ⟨g, _, rfl⟩ := List.mem_map.1 hu
      exact nofun
    have hdata := Record.allData_map_toValue hkinds
    rwa [List.map_map, List.map_map] at hdata
  show l.record.toData = _
  rw [record, Record.toData_bucketAcl, hgrants]
  rfl

end AccessList

open AccessList (grantRecord)

variable {l : AccessList}

theorem itemsOrNone_list (xs : List Value) : Record.itemsOrNone (.list xs) = .ok xs := by
  cases xs with
  | nil => rfl
  | cons x xs => rfl

theorem listOr_list (xs : List Value) : Record.listOr (.list xs) = .list xs := by
  cases xs with
  | nil => rfl
  | cons x xs => rfl

/-- The entries that are read are fields. -/
theorem contains_of_mem_fieldEntries {kind : RecordKind} {m : Mapping} {f : Text × Value}
    (h : f ∈ Record.fieldEntries kind m) : kind.fields.contains f.1 = true := by
  obtain ⟨entry, _, hf⟩ := List.mem_filterMap.1 h
  split at hf
  next name _ =>
    split at hf
    next hcontains =>
      cases hf
      exact hcontains
    next => cases hf
  next => cases hf

/-- The entries of a document that has nothing but fields are all of them. -/
theorem fieldEntries_ofNamed {kind : RecordKind} (h : ∀ f ∈ named, f.1 ∈ kind.fields) :
    Record.fieldEntries kind (Mapping.ofNamed named) = named := by
  induction named with
  | nil => rfl
  | cons f named ih =>
    obtain ⟨hf, hnamed⟩ := List.forall_mem_cons.1 h
    have hcontains : kind.fields.contains f.1 = true := List.contains_iff_mem.2 hf
    have hfirst : Record.fieldEntries kind (Mapping.ofNamed (f :: named)) =
        f :: Record.fieldEntries kind (Mapping.ofNamed named) := by
      rw [Record.fieldEntries, Mapping.ofNamed, List.map_cons, List.filterMap_cons]
      simp only [hcontains, if_true]
      rfl
    rw [hfirst, ih hnamed]

/-- An entry is read as the grant that it is. -/
theorem ofPlainData_of_isGrant {entry : Value} {g : Grant} (h : IsGrant entry g) :
    Record.ofPlainData .userAcl entry = .ok (grantRecord g) := by
  obtain ⟨named, hperm, rfl⟩ := h
  have hnodup : (named.map Prod.fst).Nodup := by
    refine (hperm.map Prod.fst).nodup_iff.2 ?_
    show (["user", "permission"] : List Text).Nodup
    decide
  have hfields : (named.map Prod.fst).Perm (RecordKind.fields .userAcl) := hperm.map Prod.fst
  have hnames : ∀ f ∈ named, f.1 ∈ RecordKind.fields .userAcl :=
    fun f hf => hfields.mem_iff.1 (List.mem_map_of_mem hf)
  have hnone : (named.map Prod.fst).filter
      (fun name => !(RecordKind.fields .userAcl).contains name) = [] := by
    refine List.filter_eq_nil_iff.2 fun name hname => ?_
    rw [List.contains_iff_mem.2 (hfields.mem_iff.1 hname)]
    exact Bool.false_ne_true
  have huser : given named "user" = .text g.1 := given_of_perm hperm hnodup "user"
  have hpermission : given named "permission" = .list g.2 :=
    given_of_perm hperm hnodup "permission"
  show Record.make .userAcl (Record.fieldEntries .userAcl (Mapping.ofNamed named)) = _
  rw [fieldEntries_ofNamed hnames, Record.make, hnone]
  show Record.userAcl _ _ = _
  rw [huser, hpermission, Record.userAcl, itemsOrNone_list]
  rfl

/-- **A document with entries that can be read** is read as an access list with these entries. -/
theorem ofData_of_entries {acl bucket ns : Value} {entries groups customGroups : List Value}
    {us : List Record}
    (hdoc : IsObject doc [("bucket", bucket), ("namespace", ns), ("acl", acl)])
    (hacl : IsObject acl [("user_acl", .list entries), ("group_acl", .list groups),
      ("customgroup_acl", .list customGroups)])
    (hread : entries.mapM (Record.ofPlainData .userAcl) = .ok us) :
    Record.ofData .bucketAcl doc = .ok ⟨.bucketAcl, [bucket, ns, .list (us.map Record.toValue),
      .list groups, .list customGroups]⟩ := by
  have hget := get_of_isObject hdoc (by simp)
  have hentry := get_of_isObject hacl (by simp)
  have hset : acl.orElse (.mapping []) = acl := by
    obtain ⟨named, hperm, rfl⟩ := hacl
    cases named with
    | nil => cases hperm.length_eq
    | cons f named => rfl
  refine bind_eq_ok.2 ⟨acl, hget "acl", ?_⟩
  rw [hset]
  refine bind_eq_ok.2 ⟨bucket, hget "bucket", bind_eq_ok.2 ⟨ns, hget "namespace", ?_⟩⟩
  refine bind_eq_ok.2 ⟨.list entries, hentry "user_acl", ?_⟩
  refine bind_eq_ok.2 ⟨entries, itemsOrNone_list entries, bind_eq_ok.2 ⟨_, hread, ?_⟩⟩
  refine bind_eq_ok.2 ⟨.list groups, hentry "group_acl", ?_⟩
  refine bind_eq_ok.2 ⟨.list customGroups, hentry "customgroup_acl", ?_⟩
  rw [listOr_list, listOr_list]
  rfl

/-- **A document is read as the access list that it describes.** -/
theorem ofData_of_describes (h : Describes doc l) : Record.ofData .bucketAcl doc = .ok l.record := by
  obtain ⟨acl, entries, hdoc, hacl, hgrants⟩ := h
  have hread : entries.mapM (Record.ofPlainData .userAcl) = .ok (l.grants.map grantRecord) := by
    refine mapM_eq_ok_iff.2 (List.forall₂_map_right_iff.2 ?_)
    exact hgrants.imp fun _ _ h => ofPlainData_of_isGrant h
  rw [ofData_of_entries hdoc hacl hread, List.map_map]
  rfl

/-- Named values that are all fields make a record. -/
theorem makePlain_of_fields {kind : RecordKind} (h : ∀ f ∈ named, f.1 ∈ kind.fields) :
    Record.makePlain kind named = .ok (Record.ofNamed kind named) := by
  have hnone : (named.map Prod.fst).filter (fun name => !kind.fields.contains name) = [] := by
    refine List.filter_eq_nil_iff.2 fun name hname => ?_
    obtain ⟨f, hf, rfl⟩ := List.mem_map.1 hname
    rw [List.contains_iff_mem.2 (h f hf)]
    exact Bool.false_ne_true
  rw [Record.makePlain, hnone]

/-- Nothing that is read for a record is unexpected. -/
theorem makePlain_fieldEntries (kind : RecordKind) (m : Mapping) :
    Record.makePlain kind (Record.fieldEntries kind m) =
      .ok (Record.ofNamed kind (Record.fieldEntries kind m)) :=
  makePlain_of_fields fun _ hf => List.contains_iff_mem.1 (contains_of_mem_fieldEntries hf)

/-- Details of a bucket are read from any object. -/
theorem bucketInfo_mapping (m : Mapping) :
    ∃ r, Record.ofData .bucketInfo (.mapping m) = .ok r :=
  ⟨_, makePlain_fieldEntries .bucketInfo m⟩

/-! ## 3. The management API -/

/-- **A response of a management API that holds an access list** and accepts every request. It gives
the document that it holds and an object with details of the bucket, and it holds the document that
was written last. -/
structure Consults (acl info : Text) (d : Demand) (doc : Value) (r : Response) (doc' : Value) :
    Prop where
  accepted : r.status = 200
  given : d.method = "GET" → d.url = acl → r.document? = some doc
  detailed : d.method = "GET" → d.url = info → ∃ m, r.document? = some (.mapping m)
  written : d.method = "PUT" → d.url = acl → doc' = d.body
  kept : d.method ≠ "PUT" ∨ d.url ≠ acl → doc' = doc

/-- The management API as far as the access list and the details of one bucket go. -/
def accessBackend (acl info : Text) : Backend Value := ⟨Consults acl info⟩

theorem calm_accessBackend {acl info : Text} : (accessBackend acl info).Calm :=
  fun _ _ _ _ h => .inl h.accepted

section Calls

variable {σ : Type} {e name : Text} {ns : Value}

theorem get_ne_put : ("GET" : Value) ≠ "PUT" := fun h => absurd (Value.text.inj h) (by decide)

/-- The access list of a bucket below an endpoint, and its details. -/
abbrev accessOf (e name : Text) : Backend Value :=
  accessBackend (e ++ Resource.bucket.address name "/acl")
    (e ++ Resource.bucket.address name "/info")

/-- Parts of a bucket that differ have addresses that differ. -/
theorem address_ne_of_part_ne {k : Resource} {part part' : String} (h : part ≠ part') :
    e ++ k.address name part ≠ e ++ k.address name part' := by
  intro heq
  have hlist := congrArg String.toList (Text.plain.inj ((Text.append_right_inj e).1 heq))
  rw [toList_address, toList_address, List.append_cancel_left_eq, List.cons.injEq,
    List.append_cancel_left_eq] at hlist
  exact h (String.toList_injective hlist.2)

variable (hname : Template.Sendable name)

include hname in
/-- **The list is read as it is held.** -/
theorem achieves_getAcl (hdoc : Describes doc l) :
    Achieves (accessOf e name) e doc (Bucket.getAcl (.text name) ns : Calls σ Record)
      fun r doc' => r = l.record ∧ doc' = doc := by
  refine .path_bind (fill_of_sendable .bucket "/acl" hname) (.bind ?_)
  refine achieves_fetch rfl rfl fun r doc' hanswer => ?_
  obtain rfl := hanswer.kept (.inl get_ne_put)
  have hdocument := hanswer.given rfl rfl
  refine ⟨Session.accept_standard rfl hanswer.accepted fun _ => by rw [hdocument]; rfl, ?_⟩
  rw [Response.document, hdocument]
  exact achieves_lift (ofData_of_describes hdoc) ⟨rfl, rfl⟩

include hname in
/-- **The list is held as it was written.** -/
theorem achieves_updateAcl :
    Achieves (accessOf e name) e doc (Bucket.updateAcl (.text name) l.record.toValue : Calls σ Unit)
      fun _ doc' => doc' = l.document := by
  refine .path_bind (fill_of_sendable .bucket "/acl" hname) (.lift_bind AccessList.bodyOf_record ?_)
  refine achieves_perform rfl rfl fun r doc' hanswer => ?_
  exact ⟨Session.accept_standard rfl hanswer.accepted nofun, hanswer.written rfl rfl⟩

include hname in
/-- Asking for the details of the bucket leaves the list alone. -/
theorem achieves_get :
    Achieves (accessOf e name) e doc (Bucket.get (.text name) ns : Calls σ Record)
      fun _ doc' => doc' = doc := by
  refine .path_bind (fill_of_sendable .bucket "/info" hname) (.bind ?_)
  refine achieves_fetch rfl rfl fun r doc' hanswer => ?_
  obtain rfl := hanswer.kept (.inl get_ne_put)
  obtain ⟨m, hdocument⟩ := hanswer.detailed rfl rfl
  obtain ⟨info, hinfo⟩ := bucketInfo_mapping m
  refine ⟨Session.accept_standard rfl hanswer.accepted fun _ => by rw [hdocument]; rfl, ?_⟩
  rw [Response.document, hdocument]
  exact achieves_lift hinfo rfl

include hname in
/-- Setting the policy of the bucket leaves the list alone. -/
theorem achieves_updatePolicy {rules data : Value} (hbody : bodyOf rules = .ok data) :
    Achieves (accessOf e name) e doc (Bucket.updatePolicy (.text name) rules ns : Calls σ Unit)
      fun _ doc' => doc' = doc := by
  refine .path_bind (fill_of_sendable .bucket "/policy" hname) (.lift_bind hbody ?_)
  refine achieves_perform rfl rfl fun r doc' hanswer => ?_
  refine ⟨Session.accept_standard rfl hanswer.accepted nofun, hanswer.kept (.inr ?_)⟩
  exact address_ne_of_part_ne (by decide)

end Calls

end StorageBroker.Management
