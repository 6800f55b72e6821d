import StorageBroker.Proofs.Broker.Access
import StorageBroker.Proofs.Broker.Forced
import StorageBroker.Proofs.Broker.Life
import StorageBroker.Proofs.Broker.Reading
import StorageBroker.Proofs.Session.Pages
/-!
# The object endpoint and the address of a namespace

A start finds out where objects are served: it lists the base URLs, chooses one of them, and keeps
its name. The address of a namespace is found out later by that name, in a listing of its own. If
the management API answers the same reading request always in the same way, both lead to one base
URL, and to the same address.

* `PageTells` -- what the page at a path is read as;
* `findNamed_chosen` -- whichever base URL a start chooses, it is the first one of its name;
* `course_findObjectEndpoint` -- what a start has read that has found an address;
* `course_namespaceUrl` -- what is read for the address of a namespace, and what it comes to;
* `namespaceUrl_eq_objectEndpoint` -- the two over a session, in any worlds.
-/

namespace StorageBroker.Broker

open Management
open Session (Pages Shows Admits accept reading read readAll visit)

/-! ## 1. Pages that are read -/

section PageTells

variable {σ α β : Type} {page : Pages} {e p : Text} {rd : Value → Except Malformed α} {a : α}

/-- **What the page at a path is read as.** -/
def PageTells (page : Pages) (e : Text) (rd : Value → Except Malformed α) (p : Text) (a : α) :
    Prop :=
  ∃ r, page (e ++ p) = .response r ∧ accept (reading p) r = .ok r ∧ rd r.document = .ok a

/-- Readings that came through as the pages are. -/
def FromPages (page : Pages) (e : Text) (es : List (Dialogue.Event Remote)) : Prop :=
  ∀ p r, read p (.ok r) ∈ es → page (e ++ p) = .response r ∧ accept (reading p) r = .ok r

/-- Readings that come through wherever the page is accepted. -/
def Readable (page : Pages) (e : Text) (es : List (Dialogue.Event Remote)) : Prop :=
  ∀ p x r, read p x ∈ es → page (e ++ p) = .response r → accept (reading p) r = .ok r → x = .ok r

variable {x : Calls σ α} {f : α → Calls σ β} {s s' : σ} {es : List (Dialogue.Event Remote)}

/-- **What is read of an answer on the way to a success** is what the page is read as. -/
theorem tells_of_course {b : β} (hx : Fetches (reading p) rd x) (hpages : FromPages page e es)
    (h : (x >>= f).Course s es (.ok b) s') :
    ∃ r a s₁ rest, es = read p (.ok r) :: rest ∧ PageTells page e rd p a ∧
      (f a).Course s₁ rest (.ok b) s' := by
  obtain ⟨es₁, a, s₁, rest, hfirst, hnext, rfl⟩ := Action.course_bind_ok.1 h
  obtain ⟨answer, rfl, hread⟩ := hx _ _ _ _ hfirst
  cases answer with
  | error g => cases hread
  | ok r =>
    have hdocument : (rd r.document).mapError Fault.malformed = .ok a := hread.symm
    obtain ⟨hr, haccept⟩ := hpages p r List.mem_cons_self
    exact ⟨r, a, s₁, rest, rfl, ⟨r, hr, haccept, mapError_eq_ok.1 hdocument⟩, hnext⟩

/-- **What a page is read as** is what an action goes on with that reads it. -/
theorem course_of_tells {y : Except Fault β} (hx : Fetches (reading p) rd x)
    (htells : PageTells page e rd p a) (hreadable : Readable page e es)
    (h : (x >>= f).Course s es y s') :
    ∃ r s₁ rest, es = read p (.ok r) :: rest ∧ (f a).Course s₁ rest y s' := by
  obtain ⟨r, hr, haccept, hread⟩ := htells
  have hanswer : ∀ {answer}, read p answer ∈ es → answer = .ok r :=
    fun hmem => hreadable p _ r hmem hr haccept
  have hdocument : (rd r.document).mapError Fault.malformed = .ok a := mapError_eq_ok.2 hread
  obtain ⟨g, hfirst, _⟩ | ⟨es₁, a', s₁, rest, hfirst, hnext, rfl⟩ := Action.course_bind.1 h
  · obtain ⟨answer, rfl, hg⟩ := hx _ _ _ _ hfirst
    obtain rfl := hanswer List.mem_cons_self
    cases hg.trans hdocument
  · obtain ⟨answer, rfl, ha⟩ := hx _ _ _ _ hfirst
    obtain rfl := hanswer List.mem_cons_self
    cases ha.trans hdocument
    exact ⟨r, s₁, rest, rfl, hnext⟩

end PageTells

/-! ## 2. The choice of a base URL -/

/-- Where the base URLs are listed. -/
def urlsPath : Text := "/object/baseurl"

/-- The base URLs in a listing. -/
def readUrls (v : Value) : Except Malformed (List Record) := recordsIn .baseUrl v "base_url"

/-- What is told of one base URL. -/
def readInfo : Value → Except Malformed Record := Record.ofData .baseUrlInfo

/-- A base URL has a name, which is a text and not empty. -/
def HasName (url : Record) : Prop := ∃ n : Text, n ≠ "" ∧ url.field "name" = .text n

/-- **An API whose base URLs have names**, and that names each one alike where it lists it and where
it tells of it alone. Several of them may have one name. -/
structure Names (page : Pages) (e : Text) : Prop where
  listed : ∀ urls, PageTells page e readUrls urlsPath urls → ∀ url ∈ urls, HasName url
  alone : ∀ urls, PageTells page e readUrls urlsPath urls → ∀ url ∈ urls, ∀ p info,
    BaseUrl.resource.fill [url.field "id"] = .ok p → PageTells page e readInfo p info →
      info.field "name" = url.field "name"

section Choice

variable {name configured : Value} {first url : Record} {urls rest : List Record}

theorem findNamed_map_some :
    Discovery.findNamed name (urls.map some) =
      urls.find? fun url => (url.field "name").equal name := by
  have hpresent : (urls.map some).filterMap id = urls := by simp
  rw [Discovery.findNamed, hpresent]

/-- **A base URL that is found by a name is found by its own.** -/
theorem findNamed_own (h : Discovery.findNamed name (urls.map some) = some url)
    (hnamed : ∀ url ∈ urls, HasName url) :
    url ∈ urls ∧ Discovery.findNamed (url.field "name") (urls.map some) = some url := by
  have hfound : (urls.find? fun url => (url.field "name").equal name) = some url :=
    findNamed_map_some.symm.trans h
  have hmem : url ∈ urls := List.mem_of_find?_eq_some hfound
  obtain ⟨n, _, hn⟩ := hnamed url hmem
  have hequal : (url.field "name").equal name :=
    List.find?_some (p := fun url : Record => (url.field "name").equal name) hfound
  rw [hn, Value.equal_text_iff] at hequal
  refine ⟨hmem, ?_⟩
  rwa [hn, ← hequal]

/-- The first of all base URLs is the first one of its name. -/
theorem findNamed_first (hnamed : HasName first) :
    Discovery.findNamed (first.field "name") ((first :: rest).map some) = some first := by
  obtain ⟨n, _, hn⟩ := hnamed
  have hequal : (first.field "name").equal (first.field "name") := by
    rw [hn]
    exact Value.equal_text_iff.2 rfl
  rw [findNamed_map_some, List.find?_cons, hequal]

/-- **Whichever base URL is chosen, it is the first one of its name.** -/
theorem findNamed_chosen
    (h : Discovery.chooseBaseUrl configured first ((first :: rest).map some) = .ok url)
    (hnamed : ∀ url ∈ first :: rest, HasName url) :
    url ∈ first :: rest ∧
      Discovery.findNamed (url.field "name") ((first :: rest).map some) = some url := by
  unfold Discovery.chooseBaseUrl at h
  split at h
  · cases hname : Discovery.findNamed configured ((first :: rest).map some) with
    | none => rw [hname] at h; cases h
    | some found =>
      rw [hname] at h
      cases h
      exact findNamed_own hname hnamed
  · cases hname : Discovery.findNamed Discovery.standardName ((first :: rest).map some) with
    | some found =>
      rw [hname] at h
      cases h
      exact findNamed_own hname hnamed
    | none =>
      rw [hname] at h
      obtain rfl : first = url := Except.ok.inj h
      exact ⟨List.mem_cons_self, findNamed_first (hnamed first List.mem_cons_self)⟩

end Choice

/-! ## 3. The two operations -/

section Courses

variable {σ : Type} {page : Pages} {e : Text} {es : List (Dialogue.Event Remote)}

theorem fetches_list :
    Fetches (reading urlsPath) readUrls (BaseUrl.list : Calls σ (List Record)) := fetches_read

theorem fetches_get {id : Value} {p : String} (hp : BaseUrl.resource.fill [id] = .ok p) :
    Fetches (reading p) readInfo (BaseUrl.get id : Calls σ Record) := fetches_path hp

/-- What is read out of parameters that have it is at hand. -/
theorem course_given_bind {α β : Type} {x : Except Malformed α} {a : α} {f : α → Calls σ β}
    {s s' : σ} {y : Except Fault β} (hx : x = .ok a)
    (h : (liftM x >>= f : Calls σ β).Course s es y s') : (f a).Course s es y s' := by
  subst hx
  exact h

/-- A base URL that is told of has an id that can stand in a path. -/
theorem fill_of_get {β : Type} {id : Value} {f : Record → Calls σ β} {b : β} {s s' : σ}
    (h : (BaseUrl.get id >>= f : Calls σ β).Course s es (.ok b) s') :
    ∃ p, BaseUrl.resource.fill [id] = .ok p := by
  obtain ⟨_, _, _, _, hfirst, _, _⟩ := Action.course_bind_ok.1 h
  obtain ⟨m, _, _, hm, _⟩ | ⟨p, hp, _⟩ := course_path_bind.1 hfirst
  · cases hm
  · exact ⟨p, hp⟩

/-- **The base URL of a configuration**: it is listed and chosen, and told of at a path. -/
structure Selected (page : Pages) (e : Text) (config : Configuration) (urls : List Record)
    (url info : Record) (p : String) : Prop where
  listed : PageTells page e readUrls urlsPath urls
  chosen : ∃ first rest, urls = first :: rest ∧
    Discovery.chooseBaseUrl (config.value .baseUrl) first (urls.map some) = .ok url
  path : BaseUrl.resource.fill [url.field "id"] = .ok p
  told : PageTells page e readInfo p info

/-- **What a start has read that has found an address**: the listing, and the base URL that it has
chosen. -/
theorem course_findObjectEndpoint {config : Configuration} {endpoint name : Value} {s s' : σ}
    (hopen : (config.value .objectEndpoint).truthy = false) (hpages : FromPages page e es)
    (h : (Discovery.findObjectEndpoint config : Calls σ (Value × Value)).Course s es
      (.ok (endpoint, name)) s') :
    ∃ urls url info p r r', Selected page e config urls url info p ∧
      es = readAll [(urlsPath, r), (p, r')] ∧
      endpoint = .text (info.namespaceUrl (config.value .namespaceName) false) ∧
      name = (info.field "name").orElse (config.value .baseUrl) := by
  unfold Discovery.findObjectEndpoint at h
  dsimp only at h
  rw [if_neg (by rw [hopen]; exact Bool.false_ne_true)] at h
  obtain ⟨r, urls, s₁, rest, rfl, hlisted, h⟩ := tells_of_course fetches_list hpages h
  cases urls with
  | nil => cases (Action.course_throw.1 h).2.1
  | cons first others =>
    dsimp only at h
    obtain ⟨_, _, _, hf, _⟩ | ⟨url, hchosen, h⟩ := Action.course_lift_bind.1 h
    · cases hf
    obtain ⟨p, hp⟩ := fill_of_get h
    have hrest : FromPages page e rest :=
      fun p r hmem => hpages p r (List.mem_cons_of_mem _ hmem)
    obtain ⟨r', info, s₂, last, rfl, htold, h⟩ := tells_of_course (fetches_get hp) hrest h
    obtain ⟨rfl, hresult, _⟩ := Action.course_pure.1 h
    cases hresult
    exact ⟨_, url, info, p, r, r', ⟨hlisted, ⟨first, others, rfl, hchosen⟩, hp, htold⟩, rfl, rfl,
      rfl⟩

/-- **What is read for the address of a namespace** where the parameters name no base URL: the
listing, and the first base URL of the name that was discovered. -/
theorem course_namespaceUrl {d : Discovery} {ns parameters : Value} {m : Mapping}
    {urls : List Record} {url info : Record} {p : String} {bs bs' : State}
    {y : Except Fault Text} (hd : bs.discovery = some d) (hgiven : Given parameters m)
    (hbase : Mapping.get m Settings.baseUrl = none)
    (hssl : ((Mapping.get m Settings.useSsl).getD (.bool false)).truthy = false)
    (hlisted : PageTells page e readUrls urlsPath urls)
    (hfound : Discovery.findNamed d.baseUrl (urls.map some) = some url)
    (hname : d.baseUrl.isNull = false) (hp : BaseUrl.resource.fill [url.field "id"] = .ok p)
    (htold : PageTells page e readInfo p info) (hreadable : Readable page e es)
    (h : (namespaceUrl ns parameters .null).Course bs es y bs') :
    y = .ok (info.namespaceUrl ns false) ∧ ∃ r r', es = readAll [(urlsPath, r), (p, r')] := by
  have hown : (parameters.orElse (.mapping [])).toMapping = .ok m := by
    cases hgiven with
    | nothing => rfl
    | mapping => rw [orElse_mapping]; rfl
  have hmerged : Settings.merge (.mapping m) [.null] = .ok (.mapping m) := rfl
  have hbaseUrl : (Value.mapping m).getD Settings.baseUrl d.baseUrl = .ok d.baseUrl := by
    show Except.ok ((Mapping.get m Settings.baseUrl).getD d.baseUrl) = _
    rw [hbase]
    rfl
  have huseSsl : (Value.mapping m).getD Settings.useSsl (.bool false) =
      .ok ((Mapping.get m Settings.useSsl).getD (.bool false)) := rfl
  obtain ⟨y', hinner, rfl⟩ := Action.course_mapFault.1 h
  replace hinner := course_given_bind hown hinner
  replace hinner := course_given_bind hmerged hinner
  replace hinner := course_discovered_bind hd hinner
  replace hinner := course_given_bind hbaseUrl hinner
  replace hinner := course_given_bind huseSsl hinner
  dsimp only at hinner
  rw [hssl] at hinner
  obtain ⟨r, s₁, rest, rfl, hchoice⟩ := course_of_tells fetches_list hlisted hreadable hinner
  rw [hfound] at hchoice
  dsimp only at hchoice
  rw [hname] at hchoice
  have hrest : Readable page e rest :=
    fun p x r hmem => hreadable p x r (List.mem_cons_of_mem _ hmem)
  obtain ⟨r', s₂, last, rfl, hend⟩ := course_of_tells (fetches_get hp) htold hrest hchoice
  obtain ⟨rfl, rfl, _⟩ := Action.course_pure.1 hend
  exact ⟨rfl, r, r', rfl⟩

end Courses

/-! ## 4. Over a session -/

/-- **The address of the broker's namespace is the object endpoint.** Let a start find an object
endpoint that is not configured, at an API that answers the same reading request always in the same
way and whose base URLs have names. A broker that has discovered the name of the base URL tells the
same address for its namespace, whatever parameters are given that name no base URL and ask for no
encryption; and it reads the same two pages for it, the listing and that of the one base URL. A
session that is logged in before the start has been let in by the same API. -/
theorem namespaceUrl_eq_objectEndpoint {σ ρ τ : Type} (w : Dialogue.World Wire σ) (st : σ)
    (config : Configuration) (x : τ) {page : Pages} {e : Text} {s : Session}
    {endpoint name : Value} (hopen : (config.value .objectEndpoint).truthy = false)
    (he : s.endpoint = .text e) (hheld : s.isLoggedIn → Admits page s) (hnames : Names page e)
    (hpage : Shows page (Dialogue.run w (Session.carryOut
      ((Discovery.findObjectEndpoint config : Calls τ (Value × Value)).run x) s) st).events)
    (hfound : (Dialogue.run w (Session.carryOut
      ((Discovery.findObjectEndpoint config : Calls τ (Value × Value)).run x) s) st).result.1.1 =
        .ok (endpoint, name)) :
    let o := Dialogue.run w (Session.carryOut
      ((Discovery.findObjectEndpoint config : Calls τ (Value × Value)).run x) s) st
    ∃ address p, endpoint = .text address ∧
      noted some o.events = [visit (e ++ urlsPath), visit (e ++ p)] ∧
      ∀ (w₂ : Dialogue.World Wire ρ) (st₂ : ρ) (token : Option Text) (bs : State)
        (d : Discovery) (parameters : Value) (m : Mapping), bs.discovery = some d →
        d.baseUrl = name → Given parameters m → Mapping.get m Settings.baseUrl = none →
        ((Mapping.get m Settings.useSsl).getD (.bool false)).truthy = false →
          let o₂ := Dialogue.run w₂ (Session.carryOut
            ((namespaceUrl (config.value .namespaceName) parameters .null).run bs)
            (s.withToken token)) st₂
          Shows page o₂.events →
            o₂.result.1.1 = .ok address ∧ noted some o₂.events = noted some o.events := by
  intro o
  have hcourse : (Discovery.findObjectEndpoint config : Calls τ (Value × Value)).Course x _
      o.result.1.1 o.result.1.2 := Session.course_carryOut w _ s st
  rw [show o.result.1.1 = _ from hfound] at hcourse
  obtain ⟨urls, url, info, p, r, r', hselected, hreads, rfl, rfl⟩ := course_findObjectEndpoint hopen
    (fun _ _ hmem => Session.page_of_turns hmem hpage he) hcourse
  have hadmits : Admits page s := Session.admits_of_first hreads hpage hheld
  have hasked := Session.demands_of_readings hreads hadmits he hpage
  obtain ⟨first, rest, rfl, hchosen⟩ := hselected.chosen
  have hlisted := hnames.listed _ hselected.listed
  obtain ⟨hmem, hfirst⟩ := findNamed_chosen hchosen hlisted
  obtain ⟨n, hn, hname⟩ := hlisted url hmem
  -- The base URL told of alone has the name of the listed one, which is not empty and so is kept.
  have hkept : (info.field "name").orElse (config.value .baseUrl) = url.field "name" := by
    rw [hnames.alone _ hselected.listed url hmem p info hselected.path hselected.told, hname]
    exact Value.orElse_of_truthy _ (by simpa [Value.truthy] using hn)
  refine ⟨_, p, rfl, hasked, ?_⟩
  intro w₂ st₂ token bs d parameters m hd hbaseUrl hgiven hbase hssl o₂ hpage₂
  have hdiscovered : d.baseUrl = url.field "name" := hbaseUrl.trans hkept
  have hcourse₂ : (namespaceUrl (config.value .namespaceName) parameters .null).Course bs _
      o₂.result.1.1 o₂.result.1.2 := Session.course_carryOut w₂ _ (s.withToken token) st₂
  obtain ⟨haddress, r₂, r₂', hreads₂⟩ := course_namespaceUrl hd hgiven hbase hssl hselected.listed
    (by rw [hdiscovered]; exact hfirst) (by rw [hdiscovered, hname]; rfl) hselected.path
    hselected.told (fun _ _ _ hmem hr haccept =>
      Session.read_of_turns hmem (hadmits.withToken token) he hr haccept hpage₂) hcourse₂
  refine ⟨haddress, ?_⟩
  exact (Session.demands_of_readings hreads₂ (hadmits.withToken token) he hpage₂).trans hasked.symm

/-- A base URL as it is listed. -/
def listedUrl (id name : Text) : Value :=
  .mapping (Mapping.ofNamed [("id", .text id), ("name", .text name)])

/-- A base URL as it is told of alone. -/
def toldUrl (name host : Text) : Value :=
  .mapping (Mapping.ofNamed
    [("name", .text name), ("baseurl", .text host), ("namespace_in_host", .text "yes")])

/-- Two base URLs of one name. -/
def twins : Value :=
  .mapping (Mapping.ofNamed [("base_url", .list [listedUrl "1" "twin", listedUrl "2" "twin"])])

/-- The pages of an API that lists two base URLs of one name. -/
def twinPages : Pages := fun u =>
  if u = "https://ecs:4443/login" then Rehearsal.Server.freshToken 0
  else if u = "https://ecs:4443/object/baseurl" then .response (responseOf twins)
  else if u = "https://ecs:4443/object/baseurl/1" then
    .response (responseOf (toldUrl "twin" "first"))
  else if u = "https://ecs:4443/object/baseurl/2" then
    .response (responseOf (toldUrl "twin" "second"))
  else .response ⟨404, [], []⟩

theorem read_of_twinPages {α : Type} {rd : Value → Except Malformed α} {p : Text} {v : Value}
    {a : α} (hback : isReadBack v)
    (h : twinPages ("https://ecs:4443" ++ p) = .response (responseOf v))
    (htells : PageTells twinPages "https://ecs:4443" rd p a) : rd v = .ok a := by
  obtain ⟨r, hr, _, hread⟩ := htells
  obtain rfl : responseOf v = r := Reply.response.inj (h.symm.trans hr)
  rwa [Response.document, document?_responseOf hback] at hread

/-- Whether a record has the name that both base URLs have. -/
def isTwin (url : Record) : Bool := (Value.text "twin").equal (url.field "name")

/-- Whether a base URL is one of the two. -/
def isListedTwin (url : Record) : Bool :=
  isTwin url && (["1", "2"] : List Text).any fun id => (Value.text id).equal (url.field "id")

theorem listed_twinPages {urls : List Record} {url : Record}
    (h : PageTells twinPages "https://ecs:4443" readUrls urlsPath urls) (hurl : url ∈ urls) :
    url.field "name" = .text "twin" ∧
      ∃ id ∈ (["1", "2"] : List Text), url.field "id" = .text id := by
  have hlisting : (readUrls twins).toOption.all fun urls => urls.all isListedTwin := by
    decide +kernel
  rw [read_of_twinPages (by decide +kernel) rfl h] at hlisting
  obtain ⟨hname, hid⟩ := Bool.and_eq_true_iff.1 (List.all_eq_true.1 hlisting url hurl)
  obtain ⟨id, hmem, hid⟩ := List.any_eq_true.1 hid
  exact ⟨Value.equal_text_iff.1 hname, id, hmem, Value.equal_text_iff.1 hid⟩

theorem names_twinPages : Names twinPages "https://ecs:4443" := by
  have hfirst : (readInfo (toldUrl "twin" "first")).toOption.all isTwin := by decide +kernel
  have hsecond : (readInfo (toldUrl "twin" "second")).toOption.all isTwin := by decide +kernel
  refine ⟨fun urls htells url hurl => ?_, fun urls htells url hurl p info hp htold => ?_⟩
  · exact ⟨"twin", by decide, (listed_twinPages htells hurl).1⟩
  · obtain ⟨hname, id, hid, hfield⟩ := listed_twinPages htells hurl
    rw [hfield] at hp
    rw [hname]
    rcases List.mem_pair.1 hid with rfl | rfl
    · obtain rfl : "/object/baseurl/1" = p := Except.ok.inj hp
      rw [read_of_twinPages (by decide +kernel) rfl htold] at hfirst
      exact Value.equal_text_iff.1 hfirst
    · obtain rfl : "/object/baseurl/2" = p := Except.ok.inj hp
      rw [read_of_twinPages (by decide +kernel) rfl htold] at hsecond
      exact Value.equal_text_iff.1 hsecond

/-- Parameters that ask for no encryption. -/
def unencrypted : Mapping := Mapping.ofNamed [("use-ssl", .bool false)]

/-- Of two base URLs of one name the first one is taken by the start, and by every request after
it. -/
theorem namespaceUrl_eq_objectEndpoint_twins :
    let s := Session.expired.withToken none
    let o := Dialogue.run (Session.worldOfPages twinPages) (Session.carryOut
      ((Discovery.findObjectEndpoint bare.config : Calls Unit (Value × Value)).run ()) s) ()
    let found := o.result.1.1.toOption.getD (.null, .null)
    let d : Discovery := ⟨found.1, found.1, found.2, .null, .null, .null⟩
    let bs := { State.start with discovery := some d }
    let o₂ := Dialogue.run (Session.worldOfPages twinPages) (Session.carryOut
      ((namespaceUrl (bare.config.value .namespaceName) (.mapping unencrypted) .null).run bs) s) ()
    o.result.1.1.isOk ∧ found.1 = .text "http://ns.first:9020" ∧
      o₂.result.1.1 = .ok "http://ns.first:9020" ∧ noted some o₂.events = noted some o.events ∧
      (noted some o.events).map Demand.url =
        (["https://ecs:4443/object/baseurl", "https://ecs:4443/object/baseurl/1"] : List Text) := by
  intro s o found d bs o₂
  have hok : o.result.1.1.isOk := by decide +kernel
  have hfound : o.result.1.1 = .ok (found.1, found.2) := by
    cases hresult : o.result.1.1 with
    | ok v => simp [found, hresult, Except.toOption]
    | error f => rw [hresult] at hok; cases hok
  obtain ⟨address, p, haddress, hvisits, hagain⟩ := namespaceUrl_eq_objectEndpoint
    (Session.worldOfPages twinPages) () bare.config () rfl rfl (fun h => by cases h) names_twinPages
    (Session.shows_worldOfPages twinPages _) hfound
  obtain ⟨hsame, hasked⟩ := hagain (Session.worldOfPages twinPages) () none bs _ _ unencrypted
    rfl rfl (.mapping _) (Option.isNone_iff_eq_none.1 (by decide +kernel)) (by decide +kernel)
    (Session.shows_worldOfPages twinPages _)
  have hshown : o₂.result.1.1.toOption = some "http://ns.first:9020" := by decide +kernel
  have hresult : o₂.result.1.1 = .ok address := hsame
  rw [hresult] at hshown
  obtain rfl : address = "http://ns.first:9020" := Option.some.inj hshown
  exact ⟨hok, haddress, hresult, hasked, by decide +kernel⟩

end StorageBroker.Broker
