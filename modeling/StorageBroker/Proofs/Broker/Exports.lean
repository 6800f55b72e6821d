import StorageBroker.Proofs.Broker.Access
import StorageBroker.Proofs.Broker.Failures
import StorageBroker.Proofs.Broker.Forced
import StorageBroker.Proofs.Text.Path
/-!
# The directories that are exported

A bucket is exported under the path that a request gives below it. The path is looked up, and
exported where there is nothing yet, just as it is put together: what the request gives is not
looked into, so where it leads depends on its segments alone. It leads out of the bucket if it goes
back further than it has gone on, unless it goes into the bucket again.

* `Exporting` -- how a path comes to be exported;
* `course_addExport` -- every request for an export goes in one of these ways;
* `export_inside_bucket_iff` -- which requests stay inside their bucket, in every world;
* `export_beside_bucket` -- one that does not.
-/

namespace StorageBroker.Broker

open Management
open Text (Path.IsName Path.Route Path.Descends Template.Sendable)
open Text.Path (placeOf moves)

/-! ## 1. How a path is exported -/

/-- **The call that looks a path up.** -/
def lookup (path : Text) : Call where
  path := .text (Export.resource ++ "?path=" ++ String.ofList (Text.Percent.encode path.scalars))
  parse := true

/-- **The call that exports a path.** -/
def share (path : Text) : Call where
  method := "POST"
  path := .text Export.resource
  body := .mapping (Mapping.ofNamed
    [("path", .text path), ("export_configs", .list [Export.openAccess])])

/-- **How a path comes to be exported**: it is looked up, unless it cannot be written into an
address, and exported if nothing was found. Only then, and if there was something already, the path
is given back. -/
inductive Exporting (path : Text) :
    List (Dialogue.Event Remote) → Except Fault Text → Prop where
  | unsendable {f : Fault} (h : ¬ Template.Sendable path) : Exporting path [] (.error f)
  | refused {f : Fault} : Exporting path [called (lookup path) (.error f)] (.error f.wrap)
  | unread {y : Response} {m : Malformed} (h : readExports y.document = .error m) :
      Exporting path [called (lookup path) (.ok y)] (.error (Fault.malformed m).wrap)
  | found {y : Response} {exports : List Record} (h : readExports y.document = .ok (some exports)) :
      Exporting path [called (lookup path) (.ok y)] (.ok path)
  | missing {y : Response} {a : Except Fault Response} (h : readExports y.document = .ok none) :
      Exporting path [called (lookup path) (.ok y), called (share path) a]
        ((a.map fun _ => path).mapError Fault.wrap)

/-- No other path is given back. -/
theorem Exporting.eq_path {path q : Text} {es : List (Dialogue.Event Remote)}
    (h : Exporting path es (.ok q)) : q = path := by
  generalize hr : (Except.ok q : Except Fault Text) = r at h
  cases h with
  | found => exact Except.ok.inj hr
  | @missing _ a =>
    cases a with
    | ok => exact Except.ok.inj hr
    | error => cases hr
  | unsendable => cases hr
  | refused => cases hr
  | unread => cases hr

/-- Nothing else is asked for, and nothing is exported that was not looked up before. -/
theorem Exporting.questions {path : Text} {es : List (Dialogue.Event Remote)}
    {r : Except Fault Text} (h : Exporting path es r) :
    es.map Dialogue.Event.question <+: [.call (lookup path), .call (share path)] := by
  cases h with
  | unsendable => exact List.nil_prefix
  | refused => exact ⟨[.call (share path)], rfl⟩
  | unread => exact ⟨[.call (share path)], rfl⟩
  | found => exact ⟨[.call (share path)], rfl⟩
  | missing => exact List.prefix_refl _

section Courses

variable {b : Broker} {id name relative : Value} {s s' : State}
  {es : List (Dialogue.Event Remote)}

/-- A path that is exported is given back if it is. -/
theorem course_share {path : Text} {r : Except Fault Text}
    (h : (Export.create (.text path) >>= fun _ => pure path : Operation Text).Course s es r s') :
    ∃ a, es = [called (share path) a] ∧ r = a.map fun _ => path := by
  obtain ⟨e, hcreate, rfl⟩ | ⟨_, _, _, _, hcreate, hpure, rfl⟩ := Action.course_bind.1 h
  · obtain ⟨a, rfl, ha, _⟩ := course_perform.1 hcreate
    cases a with
    | ok y => cases ha
    | error f => cases ha; exact ⟨.error e, rfl, rfl⟩
  · obtain ⟨a, rfl, ha, _⟩ := course_perform.1 hcreate
    obtain ⟨rfl, rfl, _⟩ := Action.course_pure.1 hpure
    cases a with
    | ok y => exact ⟨.ok y, rfl, rfl⟩
    | error f => cases ha

/-- **Every request for an export goes in one of its ways.** -/
theorem course_addExport {r : Except Fault Text} (hname : b.nameOf id = .ok name)
    (h : (b.addExport id relative).Course s es r s') :
    Exporting (b.exportPath name relative) es r := by
  obtain ⟨r', hinner, rfl⟩ := Action.course_mapFault.1 h
  obtain ⟨m, hm, _⟩ | ⟨name', hname', hinner⟩ := Action.course_lift_malformed_bind.1 hinner
  · cases hname.symm.trans hm
  cases hname.symm.trans hname'
  generalize b.exportPath name relative = path at hinner
  by_cases hsend : Template.Sendable path
  · have hfetches := fetches_exports (Export.encoded_sendable hsend)
    obtain ⟨e, hlist, rfl⟩ | ⟨es₁, exports, s₁, es₂, hlist, hinner, rfl⟩ :=
      Action.course_bind.1 hinner
    · obtain ⟨a, rfl, ha⟩ := hfetches _ _ _ _ hlist
      obtain rfl | ⟨y, rfl, hread⟩ := bind_eq_error.1 ha.symm
      · exact .refused
      · obtain ⟨m, hm, rfl⟩ := mapError_eq_error.1 hread
        exact .unread hm
    · obtain ⟨a, rfl, ha⟩ := hfetches _ _ _ _ hlist
      obtain ⟨y, rfl, hread⟩ := bind_eq_ok.1 ha.symm
      replace hread := mapError_eq_ok.1 hread
      cases exports with
      | some exports =>
        obtain ⟨rfl, rfl, _⟩ := Action.course_pure.1 hinner
        exact .found hread
      | none =>
        obtain ⟨a, rfl, rfl⟩ := course_share hinner
        exact .missing hread
  · have hm := Export.encoded_unsendable hsend
    obtain ⟨e, hlist, rfl⟩ | ⟨_, _, _, _, hlist, _⟩ := Action.course_bind.1 hinner
    · obtain ⟨_, _, rfl, _⟩ | ⟨_, hok, _⟩ := Action.course_lift_malformed_bind.1 hlist
      · exact .unsendable hsend
      · cases hm.symm.trans hok
    · obtain ⟨_, hok, _⟩ := Action.course_lift_malformed_bind_ok.1 hlist
      cases hm.symm.trans hok

end Courses

/-! ## 2. Where the path leads -/

variable (b : Broker)

/-- The path of an export is put together as it comes. -/
theorem exportPath_text {ns : Text} (hhome : b.home = .text ns) (name relative : Text) :
    b.exportPath (.text name) (.text relative) =
      "/" ++ ns ++ "/" ++ name ++ "/" ++ relative := by
  have hrelative : ((Value.text relative).orElse (.text "")).plain = relative := by
    rw [Value.orElse]
    split
    next => rfl
    next hfalse =>
      have hempty : relative = "" := by simpa [Value.truthy] using hfalse
      rw [hempty, Value.plain_text]
  rw [exportPath, hhome, hrelative]
  rfl

/-- **Whether an export stays inside its bucket is told by its relative path.** The path that is
looked up, exported if nothing is found, and given back is that of the bucket with the relative one
behind it. Its place is the bucket or below it exactly if the relative path goes into again what it
leaves of the way to the bucket, so always if it leaves nothing; then its place is the one that the
relative path has below the bucket. -/
theorem export_inside_bucket_iff {ns p i : Text} (hhome : b.home = .text ns)
    (hconfig : b.config.value .idPrefix = .text p) (hns : Path.IsName ns)
    (hname : Path.IsName (p ++ i)) (relative : Text) (bs : State) {σ : Type}
    (w : Dialogue.World Wire σ) (st : σ) (s : Session) :
    let x := (b.addExport (.text i) (.text relative)).run bs
    let o := Dialogue.run w (Session.carryOut x s) st
    let path := "/" ++ ns ++ "/" ++ (p ++ i) ++ "/" ++ relative
    let bucket := [ns, p ++ i]
    let route := Path.Route.of relative
    Exporting path ((Session.turns w x s st).map Dialogue.Turn.event) o.result.1.1 ∧
      (∀ q, o.result.1.1 = .ok q → q = path) ∧
      (bucket <+: placeOf path ↔ bucket.drop (bucket.length - route.climbs) <+: route.names) ∧
      (Path.Descends (moves relative) → placeOf path = bucket ++ placeOf relative) := by
  intro x o path bucket route
  have hcourse := course_addExport (b.nameOf_prefixed hconfig)
    (Action.course_iff.1 (Session.course_carryOut w x s st))
  rw [b.exportPath_text hhome] at hcourse
  have hplace : placeOf path = route.lead bucket := by
    rw [Text.Path.placeOf_below hns hname, Text.Path.walk_eq_lead]
    rfl
  refine ⟨hcourse, fun q hq => ?_, ?_, fun hdescends => ?_⟩
  · have hresult : (Dialogue.run w (Session.carryOut x s) st).result.1.1 = .ok q := hq
    rw [hresult] at hcourse
    exact hcourse.eq_path
  · rw [hplace, Text.Path.prefix_lead_iff]
  · have hclimbs : route.climbs = 0 := (Text.Path.climbs_eq_zero_iff _).2 hdescends
    rw [hplace, Path.Route.lead_of_climbs_eq_zero bucket hclimbs, Text.Path.placeOf_eq_names]

/-- A path that leaves the bucket and comes back to it is exported, and stays inside. -/
theorem export_inside_bucket_iff_return :
    let relative : Text := "../ecs-cf-broker-b/d"
    let path : Text := "/ns/ecs-cf-broker-b/" ++ relative
    let x := (bare.addExport (.text "b") (.text relative)).run discovering
    let o := Dialogue.run Rehearsal.world
      (Session.carryOut x (Session.expired.withToken none)) singleObject
    Path.Route.of relative = ⟨1, ["ecs-cf-broker-b", "d"]⟩ ∧
      o.result.1.1.isOk ∧ (∀ q, o.result.1.1 = .ok q → q = path) ∧
      (["ns", "ecs-cf-broker-b"] : List Text) <+: placeOf path ∧
      ¬ Path.Descends (moves relative) := by
  -- the run has to stand in the goal as it does below, or it would be evaluated to compare the two
  intro relative path
  dsimp only
  have hhome : bare.home = .text "ns" := rfl
  have hconfig : bare.config.value .idPrefix = .text "ecs-cf-broker-" := rfl
  obtain ⟨_, hpath, hinside, _⟩ := bare.export_inside_bucket_iff (i := "b") hhome hconfig
    (by decide +kernel) (by decide +kernel) relative discovering Rehearsal.world singleObject
    (Session.expired.withToken none)
  have hform : "/" ++ ("ns" : Text) ++ "/" ++ ("ecs-cf-broker-" ++ "b") ++ "/" ++ relative =
      path := by decide +kernel
  have hbucket : ("ecs-cf-broker-" ++ "b" : Text) = "ecs-cf-broker-b" := by decide +kernel
  have hroute : Path.Route.of relative = ⟨1, ["ecs-cf-broker-b", "d"]⟩ := by decide +kernel
  rw [hform] at hpath
  rw [hform, hbucket, hroute] at hinside
  refine ⟨hroute, by decide +kernel, hpath, hinside.2 ⟨["d"], rfl⟩, ?_⟩
  rw [← Text.Path.climbs_eq_zero_iff]
  decide +kernel

/-- **A path that goes back once is exported beside its bucket**: it is looked up, found missing and
exported, and leads to another bucket of the namespace. -/
theorem export_beside_bucket :
    let relative : Text := "../other"
    let path : Text := "/ns/ecs-cf-broker-b/../other"
    let s := Session.expired.withToken none
    let x := (bare.addExport (.text "b") (.text relative)).run discovering
    let o := Dialogue.run Rehearsal.world (Session.carryOut x s) singleObject
    bare.home = .text "ns" ∧ bare.nameOf (.text "b") = .ok (.text "ecs-cf-broker-b") ∧
      Path.IsName "ns" ∧ Path.IsName "ecs-cf-broker-b" ∧
      o.result.1.1.toOption = some path ∧
      (Session.turns Rehearsal.world x s singleObject).map
        (fun t => t.event.question) = [.call (lookup path), .call (share path)] ∧
      placeOf path = (["ns", "other"] : List Text) ∧
      ¬ (["ns", "ecs-cf-broker-b"] : List Text) <+: placeOf path := by
  intro relative path s x o
  have hname : bare.nameOf (.text "b") = .ok (.text "ecs-cf-broker-b") := rfl
  have hrun : o.result.1.1.toOption = some path ∧
      (Session.turns Rehearsal.world x s singleObject).length = 2 := by
    decide +kernel
  obtain ⟨hresult, hlength⟩ := hrun
  have hplace : placeOf path = (["ns", "other"] : List Text) := by decide +kernel
  refine ⟨rfl, hname, by decide +kernel, by decide +kernel, hresult, ?_, hplace, ?_⟩
  · have hcourse := course_addExport hname (Action.course_iff.1
      (Session.course_carryOut Rehearsal.world x s singleObject))
    have hquestions := hcourse.questions
    rw [List.map_map] at hquestions
    exact hquestions.eq_of_length (by rw [List.length_map, hlength]; rfl)
  · rw [hplace]
    decide +kernel

end StorageBroker.Broker
