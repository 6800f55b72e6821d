import StorageBroker.Proofs.Management.Resources
import StorageBroker.Proofs.Record
import StorageBroker.Proofs.Session.Standing
import StorageBroker.Proofs.Text.Percent
import StorageBroker.Proofs.Text.Template
/-!
# Resources of instances

An instance stands for a bucket or for a namespace. Such a resource is created by a request that
names it in its body, and is reached by an address of which its name is one segment; what follows
that segment tells a part of the resource.

* `Resource`, `Resource.address` -- the two kinds of resources, and where each resource is reached;
* `Keeps` -- the calls that keep to one resource;
* `Leads` -- the requests that lead to one resource;
* `leads_of_requestOf` -- a call that keeps to a resource sends nothing that leads elsewhere;
* `leads_unique` -- a request leads to one resource at most.
-/

namespace StorageBroker.Management

open Text
open Record (entry)

/-! ## 1. Names and addresses -/

/-- The kinds of resources that stand for instances; a space is a namespace. -/
inductive Resource where
  | bucket
  | space
deriving DecidableEq, Repr

namespace Resource

/-- Where the resources of a kind are created. -/
def root : Resource → String
  | .bucket => "/object/bucket"
  | .space => "/object/namespaces/namespace"

/-- The entry of the body of a creation that names the resource. -/
def key : Resource → Text
  | .bucket => "name"
  | .space => "namespace"

/-- The path of a part of the resource whose encoded name is given. -/
def path (k : Resource) (cs : List Char) (part : String) : String :=
  String.ofList ((k.root ++ "/").toList ++ cs ++ part.toList)

/-- **Where a part of a resource is reached**, below the endpoint, if its name can be sent. -/
def address (k : Resource) (name : Text) (part : String) : String :=
  k.path (Percent.encode name.scalars) part

/-- The parts that every resource of a kind has; the first one of a space is the space itself. -/
def parts : Resource → List String
  | .bucket => ["/quota", "/retention", "/acl", "/policy", "/deactivate"]
  | .space => ["", "/quota", "/retention", "/deactivate"]

/-- **The parts of a resource that may be changed**; a space has its retention classes besides. -/
inductive Part : Resource → String → Prop where
  | own {k : Resource} {part : String} (h : part ∈ k.parts) : Part k part
  | retentionClass (className : Text) :
      Part .space ("/retention/" ++ String.ofList (Percent.encode className.scalars))

/-- What can stand behind the name of a resource in an address. -/
def Below (part : String) : Prop := Percent.Follows part.toList

instance (part : String) : Decidable (Below part) :=
  inferInstanceAs (Decidable (Percent.Follows _))

theorem below_class (cs : List Char) : Below ("/retention/" ++ String.ofList cs) := by
  unfold Below
  rw [String.toList_append]
  rfl

theorem Part.below {k : Resource} {part : String} (h : k.Part part) : Below part := by
  have hparts : ∀ k : Resource, ∀ part ∈ k.parts, Below part := by
    intro k
    cases k <;> decide
  cases h with
  | own h => exact hparts k part h
  | retentionClass className => exact below_class _

end Resource

/-! ## 2. Calls -/

/-- **A call that keeps to one resource**: it creates the resource, or is made at a path of it;
where it does more than read, at one of the parts that may be changed. -/
inductive Keeps (k : Resource) (name : Text) (c : Call) : Prop where
  | creation (hmethod : c.method = "POST") (hpath : c.path = .text k.root)
      (hname : entry c.body k.key = some (.text name))
  | part {part : String} (hpart : k.Part part ∨ (Resource.Below part ∧ c.method = "GET"))
      (hsend : Template.Sendable name) (hpath : c.path = .text (k.address name part))

/-- The template of the paths of a part. -/
def Resource.template (k : Resource) (part : String) : Template :=
  [.literal (k.root ++ "/").toList, .hole, .literal part.toList]

theorem bucket_resource (part : String) :
    Bucket.resource part = Resource.bucket.template part := rfl

theorem namespace_resource (part : String) :
    Namespace.resource part = Resource.space.template part := rfl

variable {k : Resource} {name : Text} {part p : String} {c : Call}

theorem fill_template {v : Value} : (k.template part).fill [v] = .ok p ↔
    ∃ cs, Template.encoded v = .ok cs ∧ p = k.path cs part := Template.fill_one

theorem address_of_fill (h : (k.template part).fill [.text name] = .ok p) :
    Template.Sendable name ∧ p = k.address name part := by
  obtain ⟨cs, hcs, rfl⟩ := fill_template.1 h
  obtain ⟨hsend, rfl⟩ := Template.encoded_eq_ok.1 hcs
  exact ⟨hsend, rfl⟩

/-- A name that can be sent has a path for each of its parts. -/
theorem fill_of_sendable (k : Resource) (part : String) (h : Template.Sendable name) :
    (k.template part).fill [.text name] = .ok (k.address name part) := by
  refine fill_template.2 ⟨Percent.encode name.scalars, ?_, rfl⟩
  exact Template.encoded_eq_ok.2 ⟨h, rfl⟩

/-- A value whose text can be sent names a resource by that text. -/
theorem fill_of_plain {v : Value} (k : Resource) (part : String)
    (h : Template.Sendable v.plain) :
    (k.template part).fill [v] = .ok (k.address v.plain part) :=
  fill_template.2 ⟨_, Template.encoded_eq_ok.2 ⟨h, rfl⟩, rfl⟩

/-- The path of a retention class is that of a part of the namespace. -/
theorem address_of_fill_class {className : Value}
    (h : Namespace.retentionClass.fill [.text name, className] = .ok p) :
    Template.Sendable name ∧ p = Resource.space.address name
      ("/retention/" ++ String.ofList (Percent.encode className.plain.scalars)) := by
  obtain ⟨cs, ds, hcs, hds, rfl⟩ := Template.fill_two.1 h
  obtain ⟨hsend, rfl⟩ := Template.encoded_eq_ok.1 hcs
  obtain ⟨_, rfl⟩ := Template.encoded_eq_ok.1 hds
  have hpart : ("/retention/" ++ String.ofList (Percent.encode className.plain.scalars)).toList =
      "/retention/".toList ++ Percent.encode className.plain.scalars := by
    rw [String.toList_append, @String.toList_ofList (Percent.encode _)]
  refine ⟨hsend, ?_⟩
  rw [Value.plain_text, Resource.address, Resource.path, hpart, ← List.append_assoc]
  rfl

theorem fill_class_of_sendable {className : Text} (h : Template.Sendable name)
    (hclass : Template.Sendable className) :
    Namespace.retentionClass.fill [.text name, .text className] = .ok (Resource.space.address name
      ("/retention/" ++ String.ofList (Percent.encode className.scalars))) := by
  have hfill : ∃ p, Namespace.retentionClass.fill [.text name, .text className] = .ok p :=
    ⟨_, Template.fill_two.2 ⟨_, _, Template.encoded_eq_ok.2 ⟨h, rfl⟩,
      Template.encoded_eq_ok.2 ⟨hclass, rfl⟩, rfl⟩⟩
  obtain ⟨p, hp⟩ := hfill
  rw [hp, (address_of_fill_class hp).2, Value.plain_text]

theorem keeps_of_filled {t : Template} {f : Value → Call} (ht : t = k.template part)
    (hf : ∀ p, (f p).path = p)
    (hpart : k.Part part ∨ (Resource.Below part ∧ ∀ p, (f p).method = "GET"))
    (h : Filled t [.text name] f c) : Keeps k name c := by
  subst ht
  obtain ⟨p, hp, rfl⟩ := h
  obtain ⟨hsend, rfl⟩ := address_of_fill hp
  rcases hpart with hpart | ⟨hbelow, hget⟩
  · exact .part (.inl hpart) hsend (hf _)
  · exact .part (.inr ⟨hbelow, hget _⟩) hsend (hf _)

theorem keeps_of_written {t : Template} {f : Value → Value → Call} {v : Value}
    (ht : t = k.template part) (hf : ∀ p body, (f p body).path = p) (hpart : k.Part part)
    (h : Written t [.text name] v f c) : Keeps k name c := by
  subst ht
  obtain ⟨p, body, hp, _, rfl⟩ := h
  obtain ⟨hsend, rfl⟩ := address_of_fill hp
  exact .part (.inl hpart) hsend (hf _ _)

theorem keeps_of_class {className : Value} {f : Value → Call} (hf : ∀ p, (f p).path = p)
    (h : Filled Namespace.retentionClass [.text name, className] f c) :
    Keeps .space name c := by
  obtain ⟨p, hp, rfl⟩ := h
  obtain ⟨hsend, rfl⟩ := address_of_fill_class hp
  exact .part (.inl (.retentionClass className.plain)) hsend (hf _)

/-! ## 3. Requests -/

/-- The body of a request; a login has none. -/
def bodyIn : Request → Value
  | .login .. => .null
  | .resource _ _ _ _ body .. => body

/-- **A request that leads to a resource**: it creates the resource, or is sent to an address of
it, with one of the given parts behind the name. A name that cannot be sent has no address. -/
inductive Leads (parts : String → Prop) (k : Resource) (endpoint name : Text) (q : Request) :
    Prop where
  | creation (hmethod : q.method = "POST") (hurl : q.url = endpoint ++ k.root)
      (hname : entry (bodyIn q) k.key = some (.text name))
  | part {part : String} (hpart : parts part) (hsend : Template.Sendable name)
      (hurl : q.url = endpoint ++ k.address name part)

/-- An address that can be built is that of the endpoint with the path behind it. -/
theorem urlText_eq_ok {s : Session} {t u : Text} (h : s.urlText (.text t) = .ok u) :
    ∃ e, s.endpoint = .text e ∧ u = e ++ t := by
  have hw : ∃ w, s.url (.text t) = .ok w := by
    obtain ⟨w, hw, _⟩ := bind_eq_ok.1 h
    exact ⟨w, hw⟩
  obtain ⟨w, hw⟩ := hw
  obtain ⟨e, he, _⟩ := Session.joined_eq_text hw
  rw [Session.urlText_of_endpoint he] at h
  exact ⟨e, he, (Except.ok.inj h).symm⟩

/-- **A call that keeps to a resource sends requests that lead to it**, and logins; a request that
does more than read leads to a part that may be changed. -/
theorem leads_of_requestOf {s : Session} {q : Request} {x : Reply} (hc : Keeps k name c)
    (h : Session.RequestOf s c (Session.sent q x)) :
    q.isLogin ∨ ∃ e, s.endpoint = .text e ∧ Leads Resource.Below k e name q ∧
      (q.method ≠ "GET" → Leads k.Part k e name q) := by
  generalize hev : Session.sent q x = ev at h
  cases h with
  | login hu =>
    cases hev
    exact .inl rfl
  | pause => cases hev
  | random => cases hev
  | call hu =>
    cases hev
    right
    cases hc with
    | creation hmethod hpath hname =>
      rw [hpath] at hu
      obtain ⟨e, he, rfl⟩ := urlText_eq_ok hu
      exact ⟨e, he, .creation hmethod rfl hname, fun _ => .creation hmethod rfl hname⟩
    | part hpart hsend hpath =>
      rw [hpath] at hu
      obtain ⟨e, he, rfl⟩ := urlText_eq_ok hu
      rcases hpart with hpart | ⟨hbelow, hget⟩
      · exact ⟨e, he, .part hpart.below hsend rfl, fun _ => .part hpart hsend rfl⟩
      · exact ⟨e, he, .part hbelow hsend rfl, fun hne => absurd hget hne⟩

/-! ## 4. One resource for each request -/

/-- The characters of an address. -/
theorem toList_address : (k.address name part).toList =
    k.root.toList ++ '/' :: (Percent.encode name.scalars ++ part.toList) := by
  rw [Resource.address, Resource.path, String.toList_ofList, String.toList_append,
    List.append_assoc, List.append_assoc]
  rfl

theorem address_ne_root : k.address name part ≠ k.root := by
  intro h
  have hlist := congrArg String.toList h
  rw [toList_address, List.append_right_eq_self] at hlist
  cases hlist

/-- **An address leads to one resource of a kind.** -/
theorem address_unique {name' : Text} {part' : String} (hpart : Resource.Below part)
    (hpart' : Resource.Below part') (hsend : Template.Sendable name)
    (hsend' : Template.Sendable name') (h : k.address name part = k.address name' part') :
    name = name' := by
  obtain ⟨s, rfl⟩ := Template.sendable_iff.1 hsend
  obtain ⟨s', rfl⟩ := Template.sendable_iff.1 hsend'
  have hlist := congrArg String.toList h
  rw [toList_address, toList_address, List.append_cancel_left_eq, List.cons.injEq] at hlist
  exact congrArg Text.plain (String.toList_injective (Percent.segment_unique hpart hpart' hlist.2))

/-- **A request leads to one resource of a kind at most**, whatever characters its name has. -/
theorem leads_unique {endpoint name' : Text} {q : Request}
    (h : Leads Resource.Below k endpoint name q) (h' : Leads Resource.Below k endpoint name' q) :
    name = name' := by
  cases h with
  | creation _ hurl hname =>
    cases h' with
    | creation _ _ hname' =>
      rw [hname] at hname'
      exact Value.text.inj (Option.some.inj hname')
    | part _ _ hurl' =>
      rw [hurl, Text.append_right_inj] at hurl'
      exact absurd (Text.plain.inj hurl').symm address_ne_root
  | part hpart hsend hurl =>
    cases h' with
    | creation _ hurl' _ =>
      rw [hurl, Text.append_right_inj] at hurl'
      exact absurd (Text.plain.inj hurl') address_ne_root
    | part hpart' hsend' hurl' =>
      rw [hurl, Text.append_right_inj] at hurl'
      exact address_unique hpart hpart' hsend hsend' (Text.plain.inj hurl')

end StorageBroker.Management
