import StorageBroker.Proofs.Management
import StorageBroker.Proofs.Session.Backend
/-!
# Operations that come to their end

Against a backend that grants what is asked of it an operation comes to a result. What the result
and the state of the backend are is found by going through the operation forwards: each call takes
the state of the backend on, and everything between the calls leaves it alone.

* `Achieves` -- an action comes to a result, and result and state of the backend are as wanted;
* `Achieves.bind` and what follows it -- one rule for each way in which actions are put together;
* `achieves_perform`, `achieves_fetch`, `achieves_existence` -- the three kinds of calls;
* `Achieves.run` -- the same of an operation over a session, in any world.
-/

namespace StorageBroker

open Session (accept)

/-! ## 1. Responses that are accepted -/

theorem holds_standard {r : Response} (h : r.status = 200) :
    (Value.list [.int 200]).holds (.int r.status) = .ok true := by
  rw [h]
  simp [Value.holds, Value.equal_int_int]

/-- A response with the standard status is accepted, if it is a document where one is wanted. -/
theorem Session.accept_standard {c : Call} {r : Response} (hc : c.accepted = .list [.int 200])
    (hr : r.status = 200) (hparse : c.parse → r.document?.isSome) : accept c r = .ok r :=
  Session.accept_eq_ok.2 ⟨rfl, by rw [hc]; exact holds_standard hr, hparse⟩

/-- The report that there is nothing is refused as such. -/
theorem Session.accept_absent {c : Call} {r : Response} (hc : c.accepted = .list [.int 200])
    (hr : r.status = 404) : accept c r = .error r.fault ∧ r.fault.isAbsence := by
  have hstatus : c.accepted.holds (.int r.status) = .ok false := by
    rw [hc, hr]
    simp [Value.holds, Value.equal_int_int]
  have hkind : HttpKind.ofCode? 404 = some .notFound := by decide
  refine ⟨?_, ?_⟩
  · rw [accept, hstatus]
    rfl
  · rw [Response.fault, hr, HttpFault.ofCode, hkind]
    rfl

namespace Management

variable {τ σ α β : Type} {B : Backend τ} {e : Text} {t : τ}

/-! ## 2. Actions -/

/-- **An action comes to a result** against a backend in a state; the result and the state of the
backend after it are as wanted. -/
def Achieves (B : Backend τ) (e : Text) (t : τ) (x : Calls σ α) (Q : α → τ → Prop) : Prop :=
  ∀ s es r s' t', x.Course s es r s' → Speaks B e t es t' → ∃ a, r = .ok a ∧ Q a t'

variable {Q Q' : α → τ → Prop}

theorem Achieves.mono {x : Calls σ α} (h : Achieves B e t x Q) (hQ : ∀ a t', Q a t' → Q' a t') :
    Achieves B e t x Q' := by
  intro s es r s' t' hcourse hspeaks
  obtain ⟨a, rfl, ha⟩ := h _ _ _ _ _ hcourse hspeaks
  exact ⟨a, rfl, hQ a t' ha⟩

theorem achieves_pure {a : α} (h : Q a t) : Achieves B e t (pure a : Calls σ α) Q := by
  intro s es r s' t' hcourse hspeaks
  obtain ⟨rfl, rfl, rfl⟩ := Action.course_pure.1 hcourse
  obtain rfl := speaks_nil.1 hspeaks
  exact ⟨a, rfl, h⟩

/-- **Two actions in a row**: the second one starts with what the first one has achieved. -/
theorem Achieves.bind {x : Calls σ β} {f : β → Calls σ α}
    (h : Achieves B e t x fun b t₁ => Achieves B e t₁ (f b) Q) : Achieves B e t (x >>= f) Q := by
  intro s es r s' t' hcourse hspeaks
  obtain ⟨g, hx, _⟩ | ⟨es₁, b, s₁, es₂, hx, hf, rfl⟩ := Action.course_bind.1 hcourse
  · obtain ⟨_, hg, _⟩ := h _ _ _ _ _ hx hspeaks
    cases hg
  · obtain ⟨t₁, hfirst, hrest⟩ := hspeaks.append
    obtain ⟨b', hb, hachieves⟩ := h _ _ _ _ _ hx hfirst
    cases hb
    exact hachieves _ _ _ _ _ hf hrest

theorem Achieves.lift_bind {x : Except Malformed β} {f : β → Calls σ α} {b : β} (hx : x = .ok b)
    (h : Achieves B e t (f b) Q) : Achieves B e t (liftM x >>= f) Q := by
  intro s es r s' t' hcourse hspeaks
  obtain ⟨m, hm, _⟩ | ⟨b', hb, hcourse⟩ := Action.course_lift_malformed_bind.1 hcourse
  · rw [hx] at hm
    cases hm
  · rw [hx] at hb
    cases hb
    exact h _ _ _ _ _ hcourse hspeaks

theorem achieves_lift {x : Except Malformed α} {a : α} (hx : x = .ok a) (h : Q a t) :
    Achieves B e t (liftM x : Calls σ α) Q := by
  intro s es r s' t' hcourse hspeaks
  obtain ⟨rfl, rfl, rfl⟩ := Action.course_lift_malformed.1 hcourse
  obtain rfl := speaks_nil.1 hspeaks
  rw [hx]
  exact ⟨a, rfl, h⟩

theorem Achieves.modify_bind {g : σ → σ} {f : PUnit → Calls σ α}
    (h : Achieves B e t (f ()) Q) : Achieves B e t (modify g >>= f) Q :=
  fun _ _ _ _ _ hcourse hspeaks => h _ _ _ _ _ (Action.course_modify_bind.1 hcourse) hspeaks

theorem Achieves.mapFault {x : Calls σ α} {g : Fault → Fault} (h : Achieves B e t x Q) :
    Achieves B e t (x.mapFault g) Q := by
  intro s es r s' t' hcourse hspeaks
  obtain ⟨r', hx, rfl⟩ := Action.course_mapFault.1 hcourse
  obtain ⟨a, rfl, ha⟩ := h _ _ _ _ _ hx hspeaks
  exact ⟨a, rfl, ha⟩

theorem Achieves.path_bind {tpl : Text.Template} {args : List Value} {f : Value → Calls σ α}
    {p : String} (hp : tpl.fill args = .ok p) (h : Achieves B e t (f (.text p)) Q) :
    Achieves B e t (path tpl args >>= f) Q := by
  intro s es r s' t' hcourse hspeaks
  obtain ⟨m, hm, _⟩ | ⟨p', hp', hcourse⟩ := course_path_bind.1 hcourse
  · rw [hp] at hm
    cases hm
  · rw [hp] at hp'
    cases hp'
    exact h _ _ _ _ _ hcourse hspeaks

/-! ## 3. Calls -/

variable {c : Call} {p : Text}

/-- The one call of an action against a backend. -/
theorem speaks_called {a : Except Fault Response} {t' : τ} (hheaders : c.headers = .null)
    (hpath : c.path = .text p) (h : Speaks B e t [called c a] t') :
    ∃ r, a = accept c r ∧ B.answers ⟨c.method, e ++ p, c.body⟩ t r t' := by
  cases h with
  | call hanswer rest =>
    obtain rfl := speaks_nil.1 rest
    exact hanswer hheaders p hpath

theorem achieves_perform {Q : Unit → τ → Prop} (hheaders : c.headers = .null)
    (hpath : c.path = .text p)
    (h : ∀ r t', B.answers ⟨c.method, e ++ p, c.body⟩ t r t' → accept c r = .ok r ∧ Q () t') :
    Achieves B e t (perform c : Calls σ Unit) Q := by
  intro s es r s' t' hcourse hspeaks
  obtain ⟨a, rfl, rfl, rfl⟩ := course_perform.1 hcourse
  obtain ⟨r, rfl, hanswer⟩ := speaks_called hheaders hpath hspeaks
  obtain ⟨haccept, hQ⟩ := h r t' hanswer
  rw [haccept]
  exact ⟨(), rfl, hQ⟩

theorem achieves_fetch {Q : Value → τ → Prop} (hheaders : c.headers = .null)
    (hpath : c.path = .text p)
    (h : ∀ r t', B.answers ⟨c.method, e ++ p, c.body⟩ t r t' →
      accept { c with parse := true } r = .ok r ∧ Q r.document t') :
    Achieves B e t (fetch c : Calls σ Value) Q := by
  intro s es r s' t' hcourse hspeaks
  obtain ⟨a, rfl, rfl, rfl⟩ := course_fetch.1 hcourse
  obtain ⟨r, rfl, hanswer⟩ := @speaks_called _ B e t { c with parse := true } p a t' hheaders hpath
    hspeaks
  obtain ⟨haccept, hQ⟩ := h r t' hanswer
  rw [haccept]
  exact ⟨_, rfl, hQ⟩

theorem achieves_existence {Q : Bool → τ → Prop} (hheaders : c.headers = .null)
    (hpath : c.path = .text p) (haccepted : c.accepted = .list [.int 200])
    (hparse : c.parse = false)
    (h : ∀ r t', B.answers ⟨c.method, e ++ p, c.body⟩ t r t' →
      (r.status = 200 ∧ Q true t') ∨ (r.status = 404 ∧ Q false t')) :
    Achieves B e t (existence c : Calls σ Bool) Q := by
  intro s es x s' t' hcourse hspeaks
  obtain ⟨a, rfl, hprobed, rfl⟩ := course_existence hcourse
  obtain ⟨r, rfl, hanswer⟩ := speaks_called hheaders hpath hspeaks
  rcases h r t' hanswer with ⟨hr, hQ⟩ | ⟨hr, hQ⟩
  · rw [Session.accept_standard haccepted hr (by rw [hparse]; exact fun h => by cases h)] at hprobed
    rcases hprobed with ⟨_, _, rfl⟩ | ⟨f, hf, _⟩ | ⟨f, hf, _⟩
    · exact ⟨true, rfl, hQ⟩
    · cases hf
    · cases hf
  · obtain ⟨haccept, habsent⟩ := Session.accept_absent haccepted hr
    rw [haccept] at hprobed
    rcases hprobed with ⟨_, hx, _⟩ | ⟨f, _, _, rfl⟩ | ⟨f, hf, hpresent, _⟩
    · cases hx
    · exact ⟨false, rfl, hQ⟩
    · cases hf
      rw [habsent] at hpresent
      cases hpresent

/-! ## 4. Operations over a session -/

/-- **What an action achieves** it achieves over every usable session, in every world that answers
as the backend does. -/
theorem Achieves.run {ρ : Type} {x : Calls σ α} (h : Achieves B e t x Q) (hB : B.Calm)
    (w : Dialogue.World Wire ρ) {s : Session} (hs : s.Usable) (he : s.endpoint = .text e)
    (state : σ) (st : ρ) {t' : τ}
    (htalk : Talk B t (Dialogue.run w (Session.carryOut (x.run state) s) st).events t') :
    ∃ a, (Dialogue.run w (Session.carryOut (x.run state) s) st).result.1.1 = .ok a ∧ Q a t' :=
  h _ _ _ _ _ (Session.course_carryOut w (x.run state) s st)
    (speaks_of_run w hB (x.run state) hs he st htalk)

end Management

end StorageBroker
