import Mathlib.Logic.Function.Basic
import StorageBroker.Proofs.Management.Backend
import StorageBroker.Proofs.Management.Instance
/-!
# Retention classes of a namespace

The management API keeps the retention classes of a namespace as a finite map from names to periods.
Requests below the address of the namespace look a class up, create it, change it or remove it. To
bring the classes to what is asked for, each one is looked up and then dealt with on its own.

* `Errand`, `Errand.of?` -- what a request does to the classes;
* `classBackend` -- the management API as far as the classes of one namespace go;
* `errands` -- what is done to bring the classes to periods that are asked for;
* `careful_errands`, `changed_errands`, `reaches_errands` -- nothing is done in vain, no class is
  changed twice, and it leads to what is asked for.
-/

namespace StorageBroker.Management

open Text
open Record (entry)

/-! ## 1. Errands -/

/-- The retention classes of a namespace: the period of each class that there is. -/
abbrev Classes := Text → Option Value

/-- **What a request does to the retention classes.** -/
inductive Errand where
  | look (name : Text)
  | create (name : Text) (period : Value)
  | change (name : Text) (period : Value)
  | remove (name : Text)

namespace Errand

/-- The classes behind an errand. -/
def after : Errand → Classes → Classes
  | .look _, held => held
  | .create name period, held | .change name period, held => Function.update held name (some period)
  | .remove name, held => Function.update held name none

/-- **An errand fits the classes** if it creates one that is not there, or changes or removes one
that is. -/
def Fits : Errand → Classes → Prop
  | .look _, _ => True
  | .create name _, held => held name = none
  | .change name _, held | .remove name, held => (held name).isSome

/-- The class that an errand does something to. -/
def changed? : Errand → Option Text
  | .look _ => none
  | .create name _ | .change name _ | .remove name => some name

/-- The status of the answer to an errand. -/
def status : Errand → Classes → Int
  | .look name, held => if (held name).isSome then 200 else 404
  | _, _ => 200

end Errand

/-- The classes behind errands in a row. -/
def afterAll (es : List Errand) (held : Classes) : Classes :=
  es.foldl (fun held e => e.after held) held

/-- Errands in a row each of which fits the classes that it meets. -/
def Careful : List Errand → Classes → Prop
  | [], _ => True
  | e :: es, held => e.Fits held ∧ Careful es (e.after held)

variable {held : Classes} {es es' : List Errand}

theorem afterAll_append : afterAll (es ++ es') held = afterAll es' (afterAll es held) :=
  List.foldl_append

theorem careful_append :
    Careful (es ++ es') held ↔ Careful es held ∧ Careful es' (afterAll es held) := by
  induction es generalizing held with
  | nil => exact ⟨fun h => ⟨trivial, h⟩, fun h => h.2⟩
  | cons e es ih => rw [List.cons_append, Careful, Careful, ih, and_assoc]; rfl

/-! ## 2. What is asked for -/

/-- Retention classes with the periods that are asked for. -/
abbrev Periods := List (Text × Int)

/-- What is to be held of a class; a period that is unset asks for its removal. -/
def wanted (period : Int) : Option Value :=
  if period = Settings.unset then none else some (.int period)

/-- The errands for one class. -/
def errandsFor (name : Text) (period : Int) (there : Bool) : List Errand :=
  .look name ::
    if period = Settings.unset then if there then [.remove name] else []
    else if there then [.change name (.int period)] else [.create name (.int period)]

/-- **The errands for all classes**, one class after the other. -/
def errands : Periods → Classes → List Errand
  | [], _ => []
  | (name, period) :: rest, held =>
    let first := errandsFor name period (held name).isSome
    first ++ errands rest (afterAll first held)

/-- **Classes as they are asked for**, all others as they have been. -/
structure Reaches (periods : Periods) (held held' : Classes) : Prop where
  asked : ∀ c ∈ periods, held' c.1 = wanted c.2
  other : ∀ name, name ∉ periods.map Prod.fst → held' name = held name

variable {periods : Periods} {name : Text} {period : Int}

/-- **The errands for one class** set what is asked for it. -/
theorem afterAll_errandsFor : afterAll (errandsFor name period (held name).isSome) held =
    Function.update held name (wanted period) := by
  unfold errandsFor wanted
  cases h : held name with
  | none =>
    by_cases hperiod : period = Settings.unset
    · rw [if_pos hperiod, if_pos hperiod]
      exact (Function.update_eq_self_iff.2 h.symm).symm
    · rw [if_neg hperiod, if_neg hperiod]
      rfl
  | some v =>
    by_cases hperiod : period = Settings.unset
    · rw [if_pos hperiod, if_pos hperiod]
      rfl
    · rw [if_neg hperiod, if_neg hperiod]
      rfl

theorem careful_errandsFor : Careful (errandsFor name period (held name).isSome) held := by
  unfold errandsFor
  cases h : held name with
  | none =>
    by_cases hperiod : period = Settings.unset
    · rw [if_pos hperiod]
      exact ⟨trivial, trivial⟩
    · rw [if_neg hperiod]
      exact ⟨trivial, h, trivial⟩
  | some v =>
    have hthere : (held name).isSome := Option.isSome_iff_exists.2 ⟨v, h⟩
    by_cases hperiod : period = Settings.unset
    · rw [if_pos hperiod]
      exact ⟨trivial, hthere, trivial⟩
    · rw [if_neg hperiod]
      exact ⟨trivial, hthere, trivial⟩

/-- At most one of the errands for a class changes something, and that is the class. -/
theorem changed_errandsFor (there : Bool) :
    ((errandsFor name period there).filterMap Errand.changed?).Sublist [name] := by
  unfold errandsFor
  by_cases hperiod : period = Settings.unset
  · rw [if_pos hperiod]
    cases there with
    | true => exact List.Sublist.refl _
    | false => exact List.nil_sublist _
  · rw [if_neg hperiod]
    cases there with
    | true => exact List.Sublist.refl _
    | false => exact List.Sublist.refl _

/-- **No errand is done in vain**: what is created is not there, what is changed or removed is. -/
theorem careful_errands (periods : Periods) (held : Classes) :
    Careful (errands periods held) held := by
  induction periods generalizing held with
  | nil => trivial
  | cons c rest ih => exact careful_append.2 ⟨careful_errandsFor, ih _⟩

/-- **Each class is changed once at most**, in the order in which they are asked for. -/
theorem changed_errands (periods : Periods) (held : Classes) :
    ((errands periods held).filterMap Errand.changed?).Sublist (periods.map Prod.fst) := by
  induction periods generalizing held with
  | nil => exact List.nil_sublist _
  | cons c rest ih =>
    rw [errands, List.filterMap_append, List.map_cons, ← List.singleton_append]
    exact (changed_errandsFor _).append (ih _)

/-- **The errands lead to what is asked for.** -/
theorem reaches_errands (hnodup : (periods.map Prod.fst).Nodup) :
    Reaches periods held (afterAll (errands periods held) held) := by
  induction periods generalizing held with
  | nil => exact ⟨fun c hc => absurd hc List.not_mem_nil, fun _ _ => rfl⟩
  | cons c rest ih =>
    rw [List.map_cons, List.nodup_cons] at hnodup
    obtain ⟨hc, hnodup⟩ := hnodup
    have hrest := @ih (Function.update held c.1 (wanted c.2)) hnodup
    rw [errands, afterAll_append, afterAll_errandsFor]
    refine ⟨List.forall_mem_cons.2 ⟨?_, hrest.asked⟩, fun name hname => ?_⟩
    · rw [hrest.other c.1 hc, Function.update_self]
    · rw [List.map_cons, List.mem_cons, not_or] at hname
      rw [hrest.other name hname.2, Function.update_of_ne hname.1]

/-! ## 3. Requests -/

/-- Where the retention classes of a namespace are. -/
def classesAt (e ns : Text) : Text := e ++ Resource.space.address ns "/retention"

/-- The class that an address below that of the classes leads to. -/
def classAt? (base url : Text) : Option Text :=
  if (base ++ "/").toList.isPrefixOf url.toList then
    (ofList (url.toList.drop (base ++ "/").toList.length)).string?.bind fun name =>
      Percent.decode name.toList
  else none

/-- The period in a body. -/
def periodIn (body : Value) : Value := (entry body "period").getD .null

/-- **The errand of a request**, if it does anything to the classes at an address. -/
def Errand.of? (base : Text) (d : Demand) : Option Errand :=
  if d.url = base then
    match d.method, entry d.body "name" with
    | .text "POST", some (.text name) => some (.create name (periodIn d.body))
    | _, _ => none
  else
    match classAt? base d.url with
    | none => none
    | some name => match d.method with
      | .text "GET" => some (.look name)
      | .text "PUT" => some (.change name (periodIn d.body))
      | .text "DELETE" => some (.remove name)
      | _ => none

/-- The status of the answer to a request that may be an errand; all others succeed. -/
def statusOf (errand : Option Errand) (held : Classes) : Int :=
  match errand with
  | some e => e.status held
  | none => 200

/-- **The management API as far as the retention classes at an address go.** -/
def classBackend (base : Text) : Backend Classes where
  answers d held r held' :=
    r.status = statusOf (Errand.of? base d) held ∧
      held' = afterAll (Errand.of? base d).toList held

/-- The response to a request that may be an errand, and the classes behind it. -/
def classAnswer (base : Text) (d : Demand) (held : Classes) : Response × Classes :=
  (⟨statusOf (Errand.of? base d) held, [], []⟩, afterAll (Errand.of? base d).toList held)

theorem classAnswer_fits (base : Text) (d : Demand) (held : Classes) :
    (classBackend base).answers d held (classAnswer base d held).1 (classAnswer base d held).2 :=
  ⟨rfl, rfl⟩

variable {base e ns : Text} {method body : Value}

/-- The path of a retention class. -/
def classPath (ns name : Text) : String :=
  Resource.space.address ns ("/retention/" ++ String.ofList (Percent.encode name.scalars))

theorem classPath_eq :
    classPath ns name = Resource.space.address ns "/retention" ++ "/" ++
      String.ofList (Percent.encode name.scalars) := by
  have hpart : "/retention/".toList = "/retention".toList ++ "/".toList := by rfl
  apply String.toList_injective
  rw [classPath]
  simp only [String.toList_append, toList_address, String.toList_ofList, hpart, List.append_assoc,
    List.cons_append]

/-- The address of a class is below that of the classes. -/
theorem append_classPath : e ++ classPath ns name =
    classesAt e ns ++ "/" ++ String.ofList (Percent.encode name.scalars) := by
  rw [classPath_eq, classesAt, ← plain_append_plain, ← plain_append_plain, append_assoc,
    append_assoc, append_assoc]

theorem classPath_ne : e ++ classPath ns name ≠ classesAt e ns := by
  intro h
  have hlist := congrArg toList h
  rw [append_classPath, toList_append, toList_append, List.append_assoc,
    List.append_right_eq_self] at hlist
  cases hlist

section ClassPaths

variable (hname : Template.Sendable name)

include hname in
/-- **A class is found where it is.** -/
theorem classAt?_classPath : classAt? (classesAt e ns) (e ++ classPath ns name) = some name := by
  obtain ⟨s, rfl⟩ := Template.sendable_iff.1 hname
  rw [classAt?, append_classPath, toList_append (classesAt e ns ++ "/"), if_pos (by simp),
    List.drop_left, ofList_toList, scalars_plain, string?, Option.bind_some, String.toList_ofList,
    Percent.decode_encode, String.ofList_toList]

include hname in
theorem of?_classPath : Errand.of? (classesAt e ns) ⟨method, e ++ classPath ns name, body⟩ =
    match method with
    | .text "GET" => some (.look name)
    | .text "PUT" => some (.change name (periodIn body))
    | .text "DELETE" => some (.remove name)
    | _ => none := by
  rw [Errand.of?, if_neg classPath_ne]
  dsimp only
  rw [classAt?_classPath hname]

include hname in
theorem of?_look : Errand.of? (classesAt e ns) ⟨"GET", e ++ classPath ns name, body⟩ =
    some (.look name) := of?_classPath hname

include hname in
theorem of?_remove : Errand.of? (classesAt e ns) ⟨"DELETE", e ++ classPath ns name, body⟩ =
    some (.remove name) := of?_classPath hname

include hname in
/-- The body of a change holds the period. -/
theorem of?_change {v : Value} : Errand.of? (classesAt e ns)
    ⟨"PUT", e ++ classPath ns name, .mapping (Mapping.ofNamed [("period", v)])⟩ =
      some (.change name v) := by
  have hperiod : periodIn (.mapping (Mapping.ofNamed [("period", v)])) = v := by
    rw [periodIn, Record.entry_ofNamed]
    rfl
  exact (of?_classPath hname).trans (congrArg (fun w => some (Errand.change name w)) hperiod)

end ClassPaths

/-- The body of a creation holds the name and the period. -/
theorem of?_create : Errand.of? (classesAt e ns)
    ⟨"POST", classesAt e ns, (Record.retentionClass (.text name) (.int period)).plainData⟩ =
      some (.create name (.int period)) := by
  have hname : entry (Record.retentionClass (.text name) (.int period)).plainData "name" =
      some (.text name) := by
    rw [Record.entry_plainData]
    rfl
  have hperiod : periodIn (Record.retentionClass (.text name) (.int period)).plainData =
      .int period := by
    rw [periodIn, Record.entry_plainData]
    rfl
  rw [Errand.of?, if_pos rfl]
  dsimp only
  rw [hname, hperiod]
  rfl

/-- What is reached by a shorter address than the classes is none of them. -/
theorem of?_of_length_lt {url : Text}
    (h : url.toList.length < (classesAt e ns).toList.length) :
    Errand.of? (classesAt e ns) ⟨method, url, body⟩ = none := by
  have hne : url ≠ classesAt e ns := by
    rintro rfl
    exact Nat.lt_irrefl _ h
  have hnone : classAt? (classesAt e ns) url = none := by
    refine if_neg fun hpart => ?_
    have hle := (List.isPrefixOf_iff_prefix.1 hpart).length_le
    rw [toList_append, List.length_append] at hle
    omega
  rw [Errand.of?, if_neg hne, hnone]

/-- A part of a namespace that has a shorter name than the classes is none of them. -/
theorem of?_part {part : String} (h : part.toList.length < "/retention".toList.length) :
    Errand.of? (classesAt e ns) ⟨method, e ++ Resource.space.address ns part, body⟩ = none := by
  refine of?_of_length_lt ?_
  simp only [classesAt, toList_append, toList_plain, List.length_map, toList_address,
    List.length_append, List.length_cons]
  omega

/-- The namespace itself is none of its classes. -/
theorem of?_self : Errand.of? (classesAt e ns) ⟨method, e ++ Resource.space.address ns "", body⟩ =
    none := of?_part (by decide)

/-! ## 4. Calls -/

/-- The classes at an address, with the errands that have been done to them. -/
abbrev classLog (base : Text) : Backend (Classes × List Errand) :=
  (classBackend base).noting (Errand.of? base)

theorem calm_classBackend : (classBackend base).Calm := by
  rintro d held r held' ⟨hstatus, _⟩
  rw [hstatus]
  cases h : Errand.of? base d with
  | none => exact .inl rfl
  | some errand =>
    cases errand with
    | look name =>
      cases hthere : (held name).isSome with
      | true => exact .inl (if_pos hthere)
      | false => exact .inr (if_neg (by rw [hthere]; exact Bool.false_ne_true))
    | _ => exact .inl rfl

variable {σ : Type} {log : List Errand} {c : Call} {p : Text} {errand : Option Errand}

theorem answers_classLog {d : Demand} {r : Response} {t : Classes × List Errand}
    (herrand : Errand.of? base d = errand) (h : (classLog base).answers d (held, log) r t) :
    r.status = statusOf errand held ∧ t = (afterAll errand.toList held, log ++ errand.toList) := by
  obtain ⟨⟨hr, hheld⟩, hlog⟩ := h
  rw [herrand] at hr hheld hlog
  exact ⟨hr, Prod.ext hheld hlog⟩

/-- **A call that succeeds whatever it finds** does its errand. -/
theorem achieves_errand {Q : Unit → Classes × List Errand → Prop} (hheaders : c.headers = .null)
    (hpath : c.path = .text p) (herrand : Errand.of? base ⟨c.method, e ++ p, c.body⟩ = errand)
    (hstatus : statusOf errand held = 200)
    (haccept : ∀ r, r.status = 200 → Session.accept c r = .ok r)
    (hQ : Q () (afterAll errand.toList held, log ++ errand.toList)) :
    Achieves (classLog base) e (held, log) (perform c : Calls σ Unit) Q := by
  refine achieves_perform hheaders hpath fun r t hanswer => ?_
  obtain ⟨hr, rfl⟩ := answers_classLog herrand hanswer
  exact ⟨haccept r (hr.trans hstatus), hQ⟩

theorem accept_removed {r : Response} (hc : c.accepted = removed) (hparse : c.parse = false)
    (hr : r.status = 200) : Session.accept c r = .ok r := by
  refine Session.accept_eq_ok.2 ⟨rfl, ?_, by simp [hparse]⟩
  rw [hc, hr]
  simp [removed, Value.holds, Value.equal_int_int]

section Calls

variable (hns : Template.Sendable ns) (hname : Template.Sendable name)

include hns hname in
theorem fill_classPath :
    Namespace.retentionClass.fill [.text ns, .text name] = .ok (classPath ns name) :=
  fill_class_of_sendable hns hname

include hns in
/-- The namespace itself is changed without a look at its classes. -/
theorem achieves_update {changes data : Value} (hbody : bodyOf changes = .ok data) :
    Achieves (classLog (classesAt e ns)) e (held, log)
      (Namespace.update (.text ns) changes : Calls σ Unit) fun _ t => t = (held, log) := by
  refine .path_bind (fill_of_sendable .space "" hns) (.lift_bind hbody ?_)
  refine achieves_errand rfl rfl of?_self rfl (fun r hr => ?_) ?_
  · exact Session.accept_standard rfl hr (by simp)
  · rw [Option.toList_none, List.append_nil]
    rfl

include hns hname in
/-- **Looking a class up** tells whether it is there. -/
theorem achieves_retentionExist :
    Achieves (classLog (classesAt e ns)) e (held, log)
      (Namespace.retentionExist (.text ns) (.text name) : Calls σ Bool) fun there t =>
        there = (held name).isSome ∧ t = (held, log ++ [.look name]) := by
  refine .path_bind (fill_classPath hns hname) (achieves_existence rfl rfl rfl rfl ?_)
  intro r t hanswer
  obtain ⟨hr, ht⟩ := answers_classLog (of?_look hname) hanswer
  cases hthere : (held name).isSome with
  | true => exact .inl ⟨hr.trans (if_pos hthere), rfl, ht⟩
  | false => exact .inr ⟨hr.trans (if_neg (by rw [hthere]; exact Bool.false_ne_true)), rfl, ht⟩

include hns hname in
theorem achieves_updateRetention :
    Achieves (classLog (classesAt e ns)) e (held, log)
      (Namespace.updateRetention (.text ns) (.text name) (.int period) : Calls σ Unit) fun _ t =>
        t = (afterAll [.change name (.int period)] held, log ++ [.change name (.int period)]) := by
  refine .path_bind (fill_classPath hns hname) ?_
  refine achieves_errand rfl rfl (of?_change hname) rfl (fun r hr => ?_) rfl
  exact Session.accept_standard rfl hr (by simp)

include hns hname in
theorem achieves_deleteRetention :
    Achieves (classLog (classesAt e ns)) e (held, log)
      (Namespace.deleteRetention (.text ns) (.text name) : Calls σ Unit) fun _ t =>
        t = (afterAll [.remove name] held, log ++ [.remove name]) := by
  refine .path_bind (fill_classPath hns hname) ?_
  exact achieves_errand rfl rfl (of?_remove hname) rfl (fun r hr => accept_removed rfl rfl hr) rfl

include hns in
theorem achieves_createRetention :
    Achieves (classLog (classesAt e ns)) e (held, log)
      (Namespace.createRetention (.text ns) (.text name) (.int period) : Calls σ Unit) fun _ t =>
        t = (afterAll [.create name (.int period)] held, log ++ [.create name (.int period)]) := by
  refine .path_bind (fill_of_sendable .space "/retention" hns) ?_
  refine achieves_errand rfl rfl of?_create rfl (fun r hr => ?_) rfl
  exact Session.accept_standard rfl hr (by simp)

end Calls

end StorageBroker.Management
