import Mathlib.Data.List.TakeWhile
import StorageBroker.Proofs.Management.Resources
import StorageBroker.Proofs.Text.Segments
/-!
# Names in addresses

The names that a call is about stand in its address: in segments of the path, or in the query where
exports are looked up. Whatever is in a name, the address says nothing but that: every hole of a
path holds one name, and the query is one field with one path in it. A name that cannot be sent, as
it has a half in it, has no address.

* `templates` -- the paths with holes that calls are made with;
* `query`, `fields` -- what the query of an address says;
* `path_isOk`, `path_injective` -- the paths of names, and the names of paths;
* `asks_list` -- the address under which exports are looked up;
* `names_stay_in_place`, `unpaired_in_no_path` -- all addresses, and a name that has none.
-/

namespace StorageBroker

/-! ## 1. Queries -/

namespace Text

/-- What is behind the question mark of an address, up to its fragment. -/
def query (address : List Char) : List Char :=
  ((address.dropWhile (· != '?')).drop 1).takeWhile (· != '#')

/-- A part of a query read back; a plus sign stands for a blank there. -/
def readForm (cs : List Char) : Option Text :=
  Percent.decode (cs.map fun c => if c = '+' then ' ' else c)

/-- The fields of a query: each name with its value. -/
def fields (query : List Char) : List (Option Text × Option Text) :=
  (query.splitOn '&').map fun field =>
    (readForm (field.takeWhile (· != '=')), readForm ((field.dropWhile (· != '=')).drop 1))

theorem readForm_encode (s : String) : readForm (Percent.encode s.toList) = some (s : Text) := by
  have hplain : (Percent.encode s.toList).map (fun c => if c = '+' then ' ' else c) =
      Percent.encode s.toList := by
    refine (List.map_congr_left fun c hc => if_neg ?_).trans (List.map_id _)
    rintro rfl
    exact Percent.not_mem_encode (by decide) (by decide) s.toList hc
  rw [readForm, hplain, Percent.decode_encode, String.ofList_toList]

/-- The form of a field of a query. -/
def field (name value : String) : List Char :=
  Percent.encode name.toList ++ '=' :: Percent.encode value.toList

theorem not_mem_field {c : Char} (hreserved : Percent.isUnreserved c = false) (hpercent : c ≠ '%')
    (hequals : c ≠ '=') (name value : String) : c ∉ field name value := by
  intro hc
  rcases List.mem_append.1 hc with hc | hc
  · exact Percent.not_mem_encode hreserved hpercent _ hc
  rcases List.mem_cons.1 hc with hc | hc
  · exact hequals hc
  · exact Percent.not_mem_encode hreserved hpercent _ hc

/-- **One field says one thing**, whatever is in its name and in its value. -/
theorem fields_field (name value : String) :
    fields (field name value) = [(some (name : Text), some (value : Text))] := by
  have hequals : '=' ∉ Percent.encode name.toList :=
    Percent.not_mem_encode (by decide) (by decide) _
  have hone : (field name value).splitOn '&' = [field name value] :=
    List.splitOn_eq_singleton (not_mem_field (by decide) (by decide) (by decide) name value)
  rw [fields, hone, List.map_singleton, field, takeWhile_separator hequals,
    drop_dropWhile_separator hequals, readForm_encode, readForm_encode]

/-- The query of an address with one field in it is that field. -/
theorem query_field {front : List Char} (h : '?' ∉ front) (name value : String) :
    query (front ++ '?' :: field name value) = field name value := by
  rw [query, drop_dropWhile_separator h]
  exact List.takeWhile_eq_self_iff.2
    (bne_of_not_mem (not_mem_field (by decide) (by decide) (by decide) name value))

end Text

/-! ## 2. Paths -/

namespace Management

open Text (Template Template.Sendable unpaired)

variable {σ : Type}

/-- **The paths with holes** of the management API. -/
def templates : List Template :=
  [BaseUrl.resource,
    Bucket.info, Bucket.deactivation, Bucket.quota, Bucket.retention, Bucket.acl, Bucket.policy,
    Namespace.self, Namespace.deactivation, Namespace.quota, Namespace.retention,
    Namespace.retentionClass,
    User.info, User.secrets]

/-- **Every hole is a segment of its own.** -/
theorem clean_templates : ∀ t ∈ templates, t.Clean := by decide +kernel

example : templates.map (fun t => String.ofList t.written) =
    ["/object/baseurl/%s", "/object/bucket/%s/info", "/object/bucket/%s/deactivate",
      "/object/bucket/%s/quota", "/object/bucket/%s/retention", "/object/bucket/%s/acl",
      "/object/bucket/%s/policy", "/object/namespaces/namespace/%s",
      "/object/namespaces/namespace/%s/deactivate", "/object/namespaces/namespace/%s/quota",
      "/object/namespaces/namespace/%s/retention", "/object/namespaces/namespace/%s/retention/%s",
      "/object/users/%s/info", "/object/user-secret-keys/%s"] := rfl

/-- Filling in a path asks for nothing and changes nothing. -/
theorem path_run (t : Template) (args : List Value) (s : σ) :
    (path t args : Calls σ Value).run s =
      .done (((t.fill args).map fun p : String => .text p).mapError .malformed, s) := by
  rw [path]
  cases t.fill args <;> rfl

theorem path_run_ok {t : Template} {args : List Value} {v : Value} {s : σ} :
    (path t args : Calls σ Value).run s = .done (.ok v, s) ↔
      ∃ p : String, t.fill args = .ok p ∧ v = .text p := by
  rw [path_run]
  constructor
  · intro h
    obtain ⟨hresult, _⟩ := Prod.mk.inj (Dialogue.done.inj h)
    exact map_eq_ok.1 (mapError_eq_ok.1 hresult)
  · rintro ⟨p, hp, rfl⟩
    rw [hp]
    rfl

/-! ## 3. Lookups -/

namespace Export

/-- **An address that asks for the exports of a path**: a query with one field, and nothing behind
it. -/
structure LooksUp (exportPath : Text) (address : String) : Prop where
  resource : address.toList.takeWhile (· != '?') = resource.toList
  fragment : '#' ∉ address.toList
  fields : Text.fields (Text.query address.toList) = [(some (.plain "path"), some exportPath)]

/-- The address of a path that can be sent. -/
def address (exportPath : Text) : String :=
  resource ++ "?path=" ++ String.ofList (Text.Percent.encode exportPath.scalars)

theorem toList_address (exportPath : String) :
    (address exportPath).toList = resource.toList ++ '?' :: Text.field "path" exportPath := by
  have hname : Text.Percent.encode "path".toList = "path".toList := by decide +kernel
  rw [Text.field, hname]
  simp only [address, Text.scalars_plain, String.toList_append, String.toList_ofList,
    List.append_assoc]
  rfl

/-- **The address of a path asks for its exports.** -/
theorem looksUp_address {exportPath : Text} (h : Template.Sendable exportPath) :
    LooksUp exportPath (address exportPath) := by
  obtain ⟨s, rfl⟩ := Template.sendable_iff.1 h
  refine ⟨?_, ?_, ?_⟩ <;> rw [toList_address]
  · exact Text.takeWhile_separator (by decide +kernel)
  · intro h
    rcases List.mem_append.1 h with h | h
    · exact absurd h (by decide +kernel)
    rcases List.mem_cons.1 h with h | h
    · exact absurd h (by decide)
    · exact Text.not_mem_field (by decide) (by decide) (by decide) _ _ h
  · rw [Text.query_field (by decide +kernel), Text.fields_field]

/-- **A path that can be sent is looked up under its address**, and a path that cannot be sent is
not looked up. -/
theorem asks_list {exportPath : Text} {s s' : σ} {es : List (Dialogue.Event Remote)}
    {r : Except Fault (Option (List Record))}
    (h : (list (.text exportPath) : Calls σ (Option (List Record))).Course s es r s') :
    (Template.Sendable exportPath →
        ∃ a, es = [called { path := .text (address exportPath), parse := true } a]) ∧
      (¬ Template.Sendable exportPath →
        es = [] ∧ r = .error (.malformed (.unencodable "surrogates not allowed"))) := by
  obtain ⟨_, ⟨m, hm, rfl, rfl⟩ | ⟨p, a, hp, rfl, _⟩⟩ := course_list h
  · refine ⟨fun hsend => ?_, fun hsend => ?_⟩
    · cases hm.symm.trans (encoded_sendable hsend)
    · cases hm.symm.trans (encoded_unsendable hsend)
      exact ⟨rfl, rfl⟩
  · refine ⟨fun hsend => ?_, fun hsend => ?_⟩
    · cases hp.symm.trans (encoded_sendable hsend)
      exact ⟨a, rfl⟩
    · cases hp.symm.trans (encoded_unsendable hsend)

end Export

/-! ## 4. All addresses -/

/-- **Names that can be sent fill a path**: the text form of the template makes the same path, and
every name is in its place there. -/
theorem path_isOk {t : Template} (ht : t ∈ templates) {names : List Text}
    (hcount : names.length = t.holes) (hsend : ∀ name ∈ names, Template.Sendable name) (s : σ) :
    ∃ p : String, (path t (names.map .text) : Calls σ Value).run s = .done (.ok (.text p), s) ∧
      Text.Format.fill (.text (String.ofList t.written)) (names.map .text) = .ok (.text p) ∧
      t.Placed names p := by
  have hargs : ∀ v ∈ names.map Value.text, Template.Sendable v.plain :=
    List.forall_mem_map.2 fun name hname => by
      rw [Value.plain_text]
      exact hsend name hname
  obtain ⟨p, hp⟩ := Template.fill_isOk (by rw [List.length_map, hcount]) hargs
  have hclean := clean_templates t ht
  refine ⟨p, path_run_ok.2 ⟨p, hp, rfl⟩, ?_, hclean.placed hcount hp⟩
  rw [Text.Format.fill_written hclean.percent, hp]
  rfl

/-- **A name that cannot be sent is in no path.** -/
theorem path_isError {t : Template} {names : List Text}
    (h : ∃ name ∈ names, ¬ Template.Sendable name) (s : σ) :
    (path t (names.map .text) : Calls σ Value).run s =
      .done (.error (.malformed (.unencodable "surrogates not allowed")), s) := by
  obtain ⟨name, hname, hsend⟩ := h
  rw [path_run, Template.fill_eq_error ⟨.text name, List.mem_map_of_mem hname, by
    rwa [Value.plain_text]⟩]
  rfl

/-- **Different names have different paths.** -/
theorem path_injective {t : Template} (ht : t ∈ templates) {names names' : List Text} {v : Value}
    {s : σ} (hcount : names.length = t.holes) (hcount' : names'.length = t.holes)
    (h : (path t (names.map .text) : Calls σ Value).run s = .done (.ok v, s))
    (h' : (path t (names'.map .text) : Calls σ Value).run s = .done (.ok v, s)) :
    names = names' := by
  obtain ⟨p, hp, rfl⟩ := path_run_ok.1 h
  obtain ⟨p', hp', heq⟩ := path_run_ok.1 h'
  cases heq
  have hclean := clean_templates t ht
  exact (hclean.placed hcount hp).unique (hclean.placed hcount' hp')

/-- **What is in a name stays in its place.** A path with names in it has the segments of its
template with one name in each hole, neither query nor fragment, and tells the names apart; the
lookup of an export has one path in its query. Where a name cannot be sent, there is no path and no
lookup. -/
theorem names_stay_in_place (s : σ) :
    (∀ t ∈ templates, ∀ names : List Text, names.length = t.holes →
      ((∀ name ∈ names, Template.Sendable name) → ∃ p : String,
        (path t (names.map .text) : Calls σ Value).run s = .done (.ok (.text p), s) ∧
        Text.Format.fill (.text (String.ofList t.written)) (names.map .text) = .ok (.text p) ∧
        t.Placed names p) ∧
      ((∃ name ∈ names, ¬ Template.Sendable name) →
        (path t (names.map .text) : Calls σ Value).run s =
          .done (.error (.malformed (.unencodable "surrogates not allowed")), s))) ∧
    (∀ t ∈ templates, ∀ (names names' : List Text) (v : Value),
      names.length = t.holes → names'.length = t.holes →
      (path t (names.map .text) : Calls σ Value).run s = .done (.ok v, s) →
      (path t (names'.map .text) : Calls σ Value).run s = .done (.ok v, s) → names = names') ∧
    ∀ exportPath : Text,
      (Template.Sendable exportPath → ∃ address, Export.LooksUp exportPath address ∧
        ∀ es r s',
          (Export.list (.text exportPath) : Calls σ (Option (List Record))).Course s es r s' →
          ∃ a, es = [called { path := .text address, parse := true } a]) ∧
      (¬ Template.Sendable exportPath →
        ∀ es r s',
          (Export.list (.text exportPath) : Calls σ (Option (List Record))).Course s es r s' →
          es = [] ∧ r = .error (.malformed (.unencodable "surrogates not allowed"))) := by
  refine ⟨fun t ht names hcount => ⟨fun hsend => ?_, fun h => path_isError h s⟩,
    fun t ht names names' v => path_injective ht, fun exportPath => ⟨fun hsend => ?_, ?_⟩⟩
  · exact path_isOk ht hcount hsend s
  · exact ⟨Export.address exportPath, Export.looksUp_address hsend,
      fun es r s' h => (Export.asks_list h).1 hsend⟩
  · exact fun hsend es r s' h => (Export.asks_list h).2 hsend

/-- The names of a retention class and of its namespace with all in them that addresses are made of,
and a path to export with fields of a query in it. -/
theorem names_stay_in_place_reserved :
    (∃ p : String,
      (path Namespace.retentionClass [.text "a/b?", .text "50%#ü"] : Calls Unit Value).run () =
        .done (.ok (.text p), ()) ∧
      Namespace.retentionClass.Placed ["a/b?", "50%#ü"] p) ∧
    (∀ v, (path Namespace.retentionClass [.text "a/b", .text "c"] : Calls Unit Value).run () =
        .done (.ok v, ()) →
      (path Namespace.retentionClass [.text "a", .text "b/c"] : Calls Unit Value).run () ≠
        .done (.ok v, ())) ∧
    ∃ address, Export.LooksUp "/b/a c&path=/b#+" address ∧
      ∀ es r s', (Export.list (.text "/b/a c&path=/b#+") :
          Calls Unit (Option (List Record))).Course () es r s' →
        ∃ a, es = [called { path := .text address, parse := true } a] := by
  have ht : Namespace.retentionClass ∈ templates := by decide +kernel
  obtain ⟨hpaths, hinjective, hlookups⟩ := names_stay_in_place ()
  refine ⟨?_, ?_, ?_⟩
  · obtain ⟨p, hp, _, hplaced⟩ :=
      (hpaths _ ht ["a/b?", "50%#ü"] rfl).1 (by decide +kernel)
    exact ⟨p, hp, hplaced⟩
  · intro v h h'
    have heq := hinjective _ ht ["a/b", "c"] ["a", "b/c"] v rfl rfl h h'
    exact absurd heq (by decide)
  · exact (hlookups "/b/a c&path=/b#+").1 (by decide +kernel)

/-- **There is a name without a path**, though it is a text: half of a pair cannot be encoded. -/
theorem unpaired_in_no_path :
    Bucket.info ∈ templates ∧ [unpaired].length = Bucket.info.holes ∧
      ∀ v, (path Bucket.info [.text unpaired] : Calls Unit Value).run () ≠ .done (.ok v, ()) := by
  have hsend : ¬ Template.Sendable unpaired := by decide +kernel
  refine ⟨by decide +kernel, rfl, fun v h => ?_⟩
  have hrefused : (path Bucket.info ([unpaired].map .text) : Calls Unit Value).run () =
      .done (.error (.malformed (.unencodable "surrogates not allowed")), ()) :=
    path_isError ⟨unpaired, List.mem_singleton_self _, hsend⟩ ()
  rw [List.map_singleton, h] at hrefused
  cases hrefused

end Management

end StorageBroker
