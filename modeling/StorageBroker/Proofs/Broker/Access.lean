import StorageBroker.Proofs.Broker.Wiping
import StorageBroker.Proofs.Management.Access
/-!
# Users let into a bucket and taken out again

Letting a user into a bucket and taking one out both rewrite the access list of the bucket as a
whole. What comes of any sequence of such calls is told from the calls alone.

* `AccessCall` -- a call that lets a user in or takes one out, and what it does to the grants;
* `changeAll_eq`, `filter_changeAll` -- the grants after a sequence of calls;
* `achieves_performAll` -- the calls do to the list that is held what they do to the grants;
* `access_maintained` -- a sequence of calls over a session;
* `talk_holding` -- a world that holds a list, in which there are such sequences.
-/

namespace StorageBroker.Broker

open Management
open Text (Template.Sendable)

/-! ## 1. Grants -/

/-- **A call about the access of a user**, with the permissions to grant if there are any. -/
inductive AccessCall where
  | add (user : Text) (permissions : Option (List Value))
  | remove (user : Text)

namespace AccessCall

/-- The user that a call names. -/
def user : AccessCall → Text
  | .add u _ | .remove u => u

/-- What a call grants to a user whose name gets a prefix. -/
def granted? (p : Text) : AccessCall → Option Grant
  | .add u permissions => some (p ++ u, permissions.getD [.text Record.fullControl])
  | .remove _ => none

/-- Whom a call takes out. -/
def removed? (p : Text) : AccessCall → Option Text
  | .add .. => none
  | .remove u => some (p ++ u)

/-- **What a call does to grants**: one is put at the end, or those of a user are left out. -/
def change (p : Text) : AccessCall → List Grant → List Grant
  | .add u permissions, gs => gs ++ [(p ++ u, permissions.getD [.text Record.fullControl])]
  | .remove u, gs => gs.filter fun g => g.1 ≠ p ++ u

end AccessCall

variable {p i u name : Text} {calls before after : List AccessCall} {gs : List Grant}

/-- What a sequence of calls does to grants. -/
def changeAll (p : Text) (calls : List AccessCall) (gs : List Grant) : List Grant :=
  calls.foldl (fun gs c => c.change p gs) gs

/-- The users that a sequence of calls takes out. -/
def removals (p : Text) (calls : List AccessCall) : List Text :=
  calls.filterMap (AccessCall.removed? p)

/-- The grants that a sequence of calls makes. -/
def additions (p : Text) (calls : List AccessCall) : List Grant :=
  calls.filterMap (AccessCall.granted? p)

/-- **After a sequence of calls** there are first the grants of those that no call has taken out, as
they were, and then some of the grants that the calls have made, in order. -/
theorem changeAll_eq (p : Text) (calls : List AccessCall) (gs : List Grant) :
    ∃ added, changeAll p calls gs = (gs.filter fun g => g.1 ∉ removals p calls) ++ added ∧
      added.Sublist (additions p calls) := by
  induction calls generalizing gs with
  | nil => exact ⟨[], by simp [changeAll, removals], .slnil⟩
  | cons c calls ih =>
    cases c with
    | add u permissions =>
      obtain ⟨added, hadded, hsublist⟩ := ih (AccessCall.change p (.add u permissions) gs)
      rw [AccessCall.change, List.filter_append, List.append_assoc] at hadded
      refine ⟨_, hadded, ?_⟩
      exact List.Sublist.append List.filter_sublist hsublist
    | remove u =>
      obtain ⟨added, hadded, hsublist⟩ := ih (AccessCall.change p (.remove u) gs)
      refine ⟨added, hadded.trans ?_, hsublist⟩
      have hremovals : removals p (.remove u :: calls) = (p ++ u) :: removals p calls := rfl
      rw [AccessCall.change, List.filter_filter, hremovals]
      congr 2
      funext g
      simp only [List.mem_cons, not_or, Bool.decide_and, Bool.and_comm]

/-- A call has no effect on the grants of a user that it does not name. -/
theorem filter_change {c : AccessCall} (h : p ++ c.user ≠ name) :
    ((c.change p gs).filter fun g => g.1 = name) = gs.filter fun g => g.1 = name := by
  cases c with
  | add v permissions =>
    have hv : p ++ v ≠ name := h
    rw [AccessCall.change, List.filter_append, List.filter_cons_of_neg (by simpa using hv),
      List.filter_nil, List.append_nil]
  | remove v =>
    rw [AccessCall.change, List.filter_filter]
    refine List.filter_congr fun g _ => ?_
    by_cases hg : g.1 = name
    · rw [hg, decide_eq_true rfl, Bool.true_and]
      exact decide_eq_true (Ne.symm h)
    · rw [decide_eq_false hg, Bool.false_and]

theorem filter_changeAll (h : ∀ c ∈ calls, p ++ c.user ≠ name) :
    ((changeAll p calls gs).filter fun g => g.1 = name) = gs.filter fun g => g.1 = name := by
  induction calls generalizing gs with
  | nil => rfl
  | cons c calls ih =>
    obtain ⟨hc, hcalls⟩ := List.forall_mem_cons.1 h
    exact (ih hcalls).trans (filter_change hc)

/-- **The grants of a user are those after the last call that names it.** -/
theorem filter_changeAll_last {c : AccessCall} (h : ∀ c ∈ after, c.user ≠ u) :
    ((changeAll p (before ++ c :: after) gs).filter fun g => g.1 = p ++ u) =
      (c.change p (changeAll p before gs)).filter fun g => g.1 = p ++ u := by
  have hsplit : changeAll p (before ++ c :: after) gs =
      changeAll p after (c.change p (changeAll p before gs)) := List.foldl_append
  rw [hsplit, filter_changeAll fun c hc heq => h c hc ((Text.append_right_inj p).1 heq)]

/-- Whether no call names the user of a grant. -/
def isUnnamed (p : Text) (calls : List AccessCall) (g : Grant) : Bool :=
  calls.all fun c => p ++ c.user != g.1

theorem not_mem_removals_of_isUnnamed {g : Grant} (h : isUnnamed p calls g) :
    g.1 ∉ removals p calls := by
  intro hmem
  obtain ⟨c, hc, hremoved⟩ := List.mem_filterMap.1 hmem
  cases c with
  | add v permissions => cases hremoved
  | remove v =>
    have hname := bne_iff_ne.1 (List.all_eq_true.1 h _ hc)
    exact hname (Option.some.inj hremoved)

theorem not_isUnnamed_of_mem_additions {g : Grant} (h : g ∈ additions p calls) :
    ¬ isUnnamed p calls g := by
  intro hunnamed
  obtain ⟨c, hc, hgranted⟩ := List.mem_filterMap.1 h
  cases c with
  | add v permissions =>
    have hname := bne_iff_ne.1 (List.all_eq_true.1 hunnamed _ hc)
    exact hname (congrArg Prod.fst (Option.some.inj hgranted))
  | remove v => cases hgranted

/-- **What a sequence of calls makes of an access list.** All but the grants stays. The grants of
those that no call takes out come first, as they were, and then some that the calls have made, so
the grants of those that no call names are the same. For a user it is the last call that counts:
behind a removal there is no grant, and behind an addition the grant of this call is the last one. -/
structure Maintained (p : Text) (calls : List AccessCall) (l l' : AccessList) : Prop where
  bucket : l'.bucket = l.bucket
  ns : l'.ns = l.ns
  groups : l'.groups = l.groups
  customGroups : l'.customGroups = l.customGroups
  grants : ∃ added, l'.grants = (l.grants.filter fun g => g.1 ∉ removals p calls) ++ added ∧
    added.Sublist (additions p calls)
  unnamed : l'.grants.filter (isUnnamed p calls) = l.grants.filter (isUnnamed p calls)
  removed : ∀ u before after, calls = before ++ .remove u :: after → (∀ c ∈ after, c.user ≠ u) →
    ∀ g ∈ l'.grants, g.1 ≠ p ++ u
  added : ∀ u permissions before after, calls = before ++ .add u permissions :: after →
    (∀ c ∈ after, c.user ≠ u) → (l'.grants.filter fun g => g.1 = p ++ u).getLast? =
      some (p ++ u, permissions.getD [.text Record.fullControl])

theorem maintained_changeAll (p : Text) (calls : List AccessCall) (l : AccessList) :
    Maintained p calls l { l with grants := changeAll p calls l.grants } where
  bucket := rfl
  ns := rfl
  groups := rfl
  customGroups := rfl
  grants := changeAll_eq p calls l.grants
  unnamed := by
    obtain ⟨added, hadded, hsublist⟩ := changeAll_eq p calls l.grants
    have hnone : added.filter (isUnnamed p calls) = [] :=
      List.filter_eq_nil_iff.2 fun g hg => not_isUnnamed_of_mem_additions (hsublist.subset hg)
    show (changeAll p calls l.grants).filter _ = _
    rw [hadded, List.filter_append, hnone, List.append_nil, List.filter_filter]
    refine List.filter_congr fun g _ => ?_
    cases hg : isUnnamed p calls g with
    | true => exact decide_eq_true (not_mem_removals_of_isUnnamed hg)
    | false => rfl
  removed u before after hcalls hafter g hg heq := by
    subst hcalls
    have hmem : g ∈ (changeAll p (before ++ .remove u :: after) l.grants).filter
        fun g => g.1 = p ++ u := List.mem_filter.2 ⟨hg, decide_eq_true heq⟩
    rw [filter_changeAll_last hafter, AccessCall.change, List.mem_filter, List.mem_filter] at hmem
    exact of_decide_eq_true hmem.1.2 heq
  added u permissions before after hcalls hafter := by
    subst hcalls
    show List.getLast? (List.filter _ (changeAll p _ l.grants)) = _
    rw [filter_changeAll_last hafter, AccessCall.change, List.filter_append,
      List.filter_cons_of_pos (by simp), List.filter_nil, List.getLast?_concat]

/-! ## 2. Calls -/

variable {e : Text} {doc : Value} {l : AccessList}

/-- An access list with one more grant. -/
theorem withEntry_record {g : Grant} : withEntry l.record (AccessList.grantRecord g) =
    .ok { l with grants := l.grants ++ [g] }.record := by
  have hrecord : ({ l with grants := l.grants ++ [g] } : AccessList).record =
      l.record.setField "user_acl"
        (.list ((l.grants.map fun g => (AccessList.grantRecord g).toValue) ++
          [(AccessList.grantRecord g).toValue])) := by
    rw [AccessList.record, List.map_append]
    rfl
  rw [hrecord]
  rfl

/-- An access list without the grants of a user. -/
theorem withoutUser_record {user : Text} : withoutUser l.record (.text user) =
    .ok { l with grants := l.grants.filter fun g => g.1 ≠ user }.record := by
  refine bind_eq_ok.2 ⟨_, rfl, bind_eq_ok.2 ⟨_, filterM_map_eq_ok fun g _ => ?_, rfl⟩⟩
  show Except.ok (!Value.equal (.text g.1) (.text user)) = _
  rw [Mapping.text_equal_text, decide_not]

variable (b : Broker)

/-- The operation of a call for the bucket of an id. -/
def AccessCall.perform (id : Value) : AccessCall → Operation Unit
  | .add u permissions => b.addUser id (.text u) ((permissions.map .list).getD .null)
  | .remove u => b.removeUser id (.text u)

/-- **A sequence of calls**, one after the other. -/
def performAll (id : Value) : List AccessCall → Operation Unit
  | [] => pure ()
  | c :: calls => do
    c.perform b id
    performAll id calls

section

variable (hconfig : b.config.value .idPrefix = .text p)

include hconfig in
theorem nameOf_prefixed : b.nameOf (.text i) = .ok (.text (p ++ i)) := by
  rw [nameOf, hconfig]
  rfl

variable (hsend : Template.Sendable (p ++ i))

include hconfig hsend in
theorem achieves_bucketFileEnabled :
    Achieves (accessOf e (p ++ i)) e doc (b.bucketFileEnabled (.text i))
      fun _ doc' => doc' = doc := by
  refine .mapFault (.lift_bind (b.nameOf_prefixed hconfig) (.bind ?_))
  refine (achieves_get hsend).mono ?_
  rintro info _ rfl
  exact achieves_pure rfl

include hconfig hsend in
theorem achieves_addUser (hdoc : Describes doc l) (permissions : Option (List Value)) :
    Achieves (accessOf e (p ++ i)) e doc
      (b.addUser (.text i) (.text u) ((permissions.map .list).getD .null)) fun _ doc' =>
        Describes doc' { l with grants := AccessCall.change p (.add u permissions) l.grants } := by
  have hentry : Record.userAcl (.text (p ++ u)) (permissionsOr ((permissions.map .list).getD .null)) =
      .ok (AccessList.grantRecord (p ++ u, permissions.getD [.text Record.fullControl])) := by
    cases permissions with
    | none => rfl
    | some ps =>
      show Record.userAcl _ (.list ps) = _
      rw [Record.userAcl, itemsOrNone_list]
      rfl
  refine .mapFault (.lift_bind (b.nameOf_prefixed hconfig) ?_)
  refine .lift_bind (b.nameOf_prefixed hconfig) (.bind ?_)
  refine (achieves_getAcl hsend hdoc).mono ?_
  rintro acl doc ⟨rfl, rfl⟩
  refine .lift_bind hentry (.lift_bind withEntry_record (.bind ?_))
  refine (achieves_updateAcl hsend).mono ?_
  rintro _ doc' rfl
  refine .bind ((b.achieves_bucketFileEnabled hconfig hsend).mono ?_)
  rintro enabled _ rfl
  cases enabled with
  | true => exact achieves_pure AccessList.describes_document
  | false =>
    have hpolicy : bodyOf (Record.allowAll (.text (p ++ u)) (.text (p ++ i))).toValue =
        .ok (Record.allowAll (.text (p ++ u)) (.text (p ++ i))).simpleData :=
      Record.toData_of_ne_bucketAcl (by show RecordKind.bucketPolicy ≠ .bucketAcl; decide)
    refine (achieves_updatePolicy hsend hpolicy).mono ?_
    rintro _ _ rfl
    exact AccessList.describes_document

include hconfig hsend in
theorem achieves_removeUser (hdoc : Describes doc l) :
    Achieves (accessOf e (p ++ i)) e doc (b.removeUser (.text i) (.text u)) fun _ doc' =>
      Describes doc' { l with grants := AccessCall.change p (.remove u) l.grants } := by
  refine .mapFault (.lift_bind (b.nameOf_prefixed hconfig) ?_)
  refine .lift_bind (b.nameOf_prefixed hconfig) (.bind ?_)
  refine (achieves_getAcl hsend hdoc).mono ?_
  rintro acl doc ⟨rfl, rfl⟩
  refine .lift_bind withoutUser_record ?_
  refine (achieves_updateAcl hsend).mono ?_
  rintro _ doc' rfl
  exact AccessList.describes_document

include hconfig hsend in
/-- **The calls do to the list that is held what they do to the grants.** -/
theorem achieves_performAll (hdoc : Describes doc l) :
    Achieves (accessOf e (p ++ i)) e doc (b.performAll (.text i) calls) fun _ doc' =>
      Describes doc' { l with grants := changeAll p calls l.grants } := by
  induction calls generalizing doc l with
  | nil => exact achieves_pure hdoc
  | cons c calls ih =>
    have hcall : Achieves (accessOf e (p ++ i)) e doc (c.perform b (.text i)) fun _ doc' =>
        Describes doc' { l with grants := c.change p l.grants } := by
      cases c with
      | add u permissions => exact b.achieves_addUser hconfig hsend hdoc permissions
      | remove u => exact b.achieves_removeUser hconfig hsend hdoc
    exact .bind (hcall.mono fun _ _ hdoc => ih hdoc)

end

/-! ## 3. Sequences of calls over a session -/

/-- **Calls about the access of users touch only the users that they name.** Against a management
API that holds an access list of a bucket as it was last written, every sequence of calls comes to
its end, and what is held then describes the list that the calls make of the first one. This is
about a bucket that calls can be made for, one whose name can be sent, and about a session that can
make them. -/
theorem access_maintained {σ : Type} (w : Dialogue.World Wire σ) (st : σ) (bs : State)
    {s : Session} {doc' : Value} (calls : List AccessCall)
    (hconfig : b.config.value .idPrefix = .text p) (hsend : Template.Sendable (p ++ i))
    (hdoc : Describes doc l) (hs : s.Usable) (he : s.endpoint = .text e)
    (htalk : Talk (accessOf e (p ++ i)) doc (Dialogue.run w
      (Session.carryOut ((b.performAll (.text i) calls).run bs) s) st).events doc') :
    (Dialogue.run w (Session.carryOut ((b.performAll (.text i) calls).run bs) s) st).result.1.1 =
        .ok () ∧
      ∃ l', Describes doc' l' ∧ Maintained p calls l l' := by
  obtain ⟨_, hok, hdoc'⟩ := (b.achieves_performAll hconfig hsend hdoc).run calm_accessBackend w hs
    he bs st htalk
  exact ⟨hok, _, hdoc', maintained_changeAll p calls l⟩

/-! ## 4. A world that holds a list -/

/-- Whether two values are one and the same value of texts, lists and mappings, down to a depth. -/
def alikeWithin : (depth : Nat) → Value → Value → Bool
  | 0, _, _ => false
  | _ + 1, .text s, .text s' => s == s'
  | depth + 1, .list xs, .list ys => xs.isEqv ys (alikeWithin depth)
  | depth + 1, .mapping m, .mapping n =>
    m.isEqv n fun x y => alikeWithin depth x.1 y.1 && alikeWithin depth x.2 y.2
  | _, _, _ => false

theorem eq_of_isEqv {α : Type} {r : α → α → Bool} (h : ∀ x y, r x y → x = y) {xs ys : List α}
    (hr : xs.isEqv ys r) : xs = ys := by
  induction xs generalizing ys with
  | nil =>
    cases ys with
    | nil => rfl
    | cons y ys => cases hr
  | cons x xs ih =>
    cases ys with
    | nil => cases hr
    | cons y ys =>
      rw [List.isEqv, Bool.and_eq_true] at hr
      rw [h x y hr.1, ih hr.2]

theorem eq_of_alikeWithin {depth : Nat} {v w : Value} (h : alikeWithin depth v w) : v = w := by
  induction depth generalizing v w with
  | zero => exact absurd h Bool.false_ne_true
  | succ depth ih =>
    unfold alikeWithin at h
    split at h
    next heq => cases heq
    next => rw [eq_of_beq h]
    next heq =>
      cases heq
      rw [eq_of_isEqv (fun _ _ => ih) h]
    next heq =>
      cases heq
      refine congrArg Value.mapping (eq_of_isEqv (fun x y hxy => ?_) h)
      rw [Bool.and_eq_true] at hxy
      exact Prod.ext (ih hxy.1) (ih hxy.2)
    next => cases h

/-- A value of plain texts, lists and mappings as it is written, down to a depth. -/
def writtenWithin : (depth : Nat) → Value → List Char
  | _ + 1, .text s => '"' :: (s.scalars ++ ['"'])
  | depth + 1, .list xs => '[' :: ([','].intercalate (xs.map (writtenWithin depth)) ++ [']'])
  | depth + 1, .mapping m =>
    let entries := m.map fun e => writtenWithin depth e.1 ++ ':' :: writtenWithin depth e.2
    '\x7b' :: ([','].intercalate entries ++ ['\x7d'])
  | _, _ => []

/-- How deep an access list goes. -/
def listDepth : Nat := 7

/-- A response with a document. -/
def responseOf (doc : Value) : Response :=
  ⟨200, [], (writtenWithin listDepth doc).map fun c => c.toNat.toUInt8⟩

/-- Whether a document is read back as it was written. -/
def isReadBack (doc : Value) : Bool :=
  match (responseOf doc).document? with
  | some doc' => alikeWithin listDepth doc' doc
  | none => false

theorem document?_responseOf (h : isReadBack doc) : (responseOf doc).document? = some doc := by
  unfold isReadBack at h
  split at h
  next doc' hdoc => rw [hdoc, eq_of_alikeWithin h]
  next => cases h

/-- Whether a demand is to write what stands at an address. -/
def writes (acl : Text) (d : Demand) : Bool :=
  match d.method with
  | .text m => m == "PUT" && d.url == acl
  | _ => false

/-- The answers of a management API that holds a document at an address and nothing elsewhere. -/
def holdingAnswer (acl : Text) (d : Demand) (doc : Value) : Response × Value :=
  (responseOf (if d.url = acl then doc else .mapping []), if writes acl d then d.body else doc)

theorem consults_holdingAnswer {acl info : Text} (hne : info ≠ acl) (d : Demand)
    (hdoc : isReadBack doc) :
    Consults acl info d doc (holdingAnswer acl d doc).1 (holdingAnswer acl d doc).2 where
  accepted := rfl
  given _ hurl := by
    rw [holdingAnswer, if_pos hurl]
    exact document?_responseOf hdoc
  detailed _ hurl := by
    rw [holdingAnswer, if_neg (hurl ▸ hne)]
    exact ⟨[], document?_responseOf (by decide +kernel)⟩
  written hmethod hurl := by
    have hwrites : writes acl d = true := by simp [writes, hmethod, hurl]
    rw [holdingAnswer, if_pos hwrites]
  kept h := by
    have hwrites : ¬ writes acl d = true := by
      unfold writes
      split
      next m hm =>
        rw [Bool.and_eq_true, beq_iff_eq, beq_iff_eq]
        rintro ⟨rfl, hurl⟩
        exact h.elim (fun hne => hne hm) fun hne => hne hurl
      next => exact Bool.false_ne_true
    rw [holdingAnswer, if_neg hwrites]

/-- **Every exchange in the world that holds a list** fits, as long as what is written can be read
back. -/
theorem talk_holding {acl info : Text} (hne : info ≠ acl) {α : Type} (d : Dialogue Wire α)
    (hdoc : isReadBack doc)
    (hwritten : ((Dialogue.run (worldOf (holdingAnswer acl)) d doc).events.filterMap demand?).all
      fun q => !writes acl q || isReadBack q.body) :
    Talk (accessBackend acl info) doc (Dialogue.run (worldOf (holdingAnswer acl)) d doc).events
      (Dialogue.run (worldOf (holdingAnswer acl)) d doc).state := by
  refine talk_worldOf_of (P := fun doc => isReadBack doc)
    (A := fun q => writes acl q → isReadBack q.body) (fun q doc hq hdoc => ?_) d doc hdoc ?_
  · refine ⟨consults_holdingAnswer hne q hdoc, ?_⟩
    by_cases hwrites : writes acl q
    · rw [holdingAnswer, if_pos hwrites]
      exact hq hwrites
    · rw [holdingAnswer, if_neg hwrites]
      exact hdoc
  · intro q hq hwrites
    have hreads := List.all_eq_true.1 hwritten q hq
    rwa [hwrites, Bool.not_true, Bool.false_or] at hreads

/-- A list with a grant to a user of an instance and one to somebody else. -/
def sharedList : AccessList where
  bucket := "ecs-cf-broker-b"
  ns := "ns"
  grants := [("somebody", [.text "read"]), ("ecs-cf-broker-u", [.text "write"])]
  groups := [.text "everyone"]
  customGroups := []

/-- One user is let in and another one is taken out. -/
def turnover : List AccessCall := [.add "v" none, .remove "u"]

/-- The address of the access list of a bucket. -/
def aclAddress : Text := "https://ecs:4443" ++ Resource.bucket.address "ecs-cf-broker-b" "/acl"

/-- Behind a turnover the grant of a third one is left alone, the user that was taken out has none,
and the one that was let in has full control. -/
theorem access_maintained_turnover :
    let o := Dialogue.run (worldOf (holdingAnswer aclAddress))
      (Session.carryOut ((bare.performAll (.text "b") turnover).run .start)
        (Session.expired.withToken none)) sharedList.document
    o.result.1.1 = .ok () ∧ ∃ l', Describes o.state l' ∧ l'.groups = [.text "everyone"] ∧
      l'.grants.filter (isUnnamed "ecs-cf-broker-" turnover) =
        ([("somebody", [.text "read"])] : List Grant) ∧
      (∀ g ∈ l'.grants, g.1 ≠ "ecs-cf-broker-" ++ "u") ∧
      (l'.grants.filter fun g => g.1 = ("ecs-cf-broker-" ++ "v" : Text)).getLast? =
        some (("ecs-cf-broker-" ++ "v" : Text), [.text Record.fullControl]) := by
  intro o
  have hdoc : isReadBack sharedList.document := by decide +kernel
  have hwritten : (o.events.filterMap demand?).all fun q =>
      !writes aclAddress q || isReadBack q.body := by decide +kernel
  have htalk : Talk (accessOf "https://ecs:4443" ("ecs-cf-broker-" ++ "b")) sharedList.document
      o.events o.state :=
    talk_holding (address_ne_of_part_ne (by decide)) _ hdoc hwritten
  obtain ⟨hok, l', hl', h⟩ := bare.access_maintained (worldOf (holdingAnswer aclAddress))
    sharedList.document .start turnover rfl (by decide +kernel) AccessList.describes_document
    (Session.usable_expired.withToken none) rfl htalk
  refine ⟨hok, l', hl', h.groups, ?_, ?_, ?_⟩
  · rw [h.unnamed]
    simp [sharedList, turnover, isUnnamed, AccessCall.user]
  · exact h.removed "u" [.add "v" none] [] rfl nofun
  · exact h.added "v" none [] [.remove "u"] rfl (List.forall_mem_singleton.2 (by decide))

end StorageBroker.Broker
