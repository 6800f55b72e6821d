import Mathlib.Data.Int.Basic
import Mathlib.Tactic.Ring
import StorageBroker.Value.Mapping
/-!
# Keys

The values that can be keys of a mapping are told apart by equality: it is symmetric and transitive
on them, though a key need not be equal to itself. So setting a key changes what is found under the
keys equal to it, and under no other.

* `equal_symm`, `equal_trans` -- equality of keys;
* `find?_insert` -- what is found once a key has been set;
* `find?_update` -- and once all entries of a mapping have been;
* `Agree` -- mappings in which the same is found under every key;
* `mem_of_get`, `get_of_mem` -- what is found under a name, and what stands under it;
* `forall_update` -- what the values of a mapping have in common.
-/

namespace StorageBroker

/-! ## 1. Numbers -/

namespace Number

open Float.Model (UnpackedFloat)
open Float.Model.UnpackedFloat (Sign)

theorem compare_sign_eq_iff {s t : Sign} : compare s t = .eq ↔ s = t := by
  cases s <;> cases t <;> simp [compare]

/-- Mantissas and exponents are compared by both. -/
theorem compare_parts_eq_iff {m n : Nat} {e f : Int} :
    ((compare e f).then (compare m n) = .eq) ↔ e = f ∧ m = n := by
  rw [Ordering.then_eq_eq, Std.LawfulEqCmp.compare_eq_iff_eq, Std.LawfulEqCmp.compare_eq_iff_eq]

theorem eq_of_unpacked_beq {u v : UnpackedFloat} (h : u.beq v = true) :
    (u = v ∧ u ≠ .notANumber) ∨ ∃ s t, u = .zero s ∧ v = .zero t := by
  cases u with
  | notANumber => exact absurd h Bool.false_ne_true
  | infinity s =>
    cases v with
    | infinity t =>
      have hsign : compare s t = .eq := Option.some.inj (eq_of_beq h)
      rw [compare_sign_eq_iff.1 hsign]
      exact .inl ⟨rfl, nofun⟩
    | _ => cases s <;> exact absurd h Bool.false_ne_true
  | zero s =>
    cases v with
    | zero t => exact .inr ⟨s, t, rfl, rfl⟩
    | notANumber => exact absurd h Bool.false_ne_true
    | infinity t | finite t => cases t <;> exact absurd h Bool.false_ne_true
  | finite s m e hm =>
    cases v with
    | finite t n f hn =>
      have hsame : s = t ∧ (compare e f).then (compare m n) = .eq := by
        cases s <;> cases t
        case positive.positive => exact ⟨rfl, Option.some.inj (eq_of_beq h)⟩
        case negative.negative =>
          have hswap : ((compare e f).then (compare m n)).swap = .eq := Option.some.inj (eq_of_beq h)
          exact ⟨rfl, Ordering.swap_eq_eq.1 hswap⟩
        all_goals exact absurd h Bool.false_ne_true
      obtain ⟨rfl, hparts⟩ := hsame
      obtain ⟨rfl, rfl⟩ := compare_parts_eq_iff.1 hparts
      exact .inl ⟨rfl, nofun⟩
    | notANumber => exact absurd h Bool.false_ne_true
    | infinity t => cases t <;> exact absurd h Bool.false_ne_true
    | zero t => cases s <;> exact absurd h Bool.false_ne_true

theorem unpacked_beq_self {u : UnpackedFloat} (h : u ≠ .notANumber) : u.beq u = true := by
  cases u with
  | notANumber => exact absurd rfl h
  | infinity s => cases s <;> rfl
  | zero s => rfl
  | finite s m e hm =>
    have hparts : (compare e e).then (compare m m) = .eq := compare_parts_eq_iff.2 ⟨rfl, rfl⟩
    cases s with
    | positive =>
      show (some ((compare e e).then (compare m m)) == some Ordering.eq) = true
      rw [hparts]
      rfl
    | negative =>
      show (some ((compare e e).then (compare m m)).swap == some Ordering.eq) = true
      rw [hparts]
      rfl

/-- A double equals those that are the same, unless it is no number, and zero equals zero. -/
theorem unpacked_beq_iff {u v : UnpackedFloat} : u.beq v = true ↔
    (u = v ∧ u ≠ .notANumber) ∨ ∃ s t, u = .zero s ∧ v = .zero t := by
  refine ⟨eq_of_unpacked_beq, ?_⟩
  rintro (⟨rfl, hnumber⟩ | ⟨s, t, rfl, rfl⟩)
  · exact unpacked_beq_self hnumber
  · rfl

theorem float_beq_iff {x y : Float} :
    (x == y) = true ↔ x.toModel.unpack.beq y.toModel.unpack = true := Iff.rfl

theorem float_beq_symm {x y : Float} (h : (x == y) = true) : (y == x) = true := by
  rw [float_beq_iff, unpacked_beq_iff] at h ⊢
  obtain ⟨hsame, hnumber⟩ | ⟨s, t, hx, hy⟩ := h
  · exact .inl ⟨hsame.symm, hsame ▸ hnumber⟩
  · exact .inr ⟨t, s, hy, hx⟩

theorem float_beq_trans {x y z : Float} (h : (x == y) = true) (h' : (y == z) = true) :
    (x == z) = true := by
  rw [float_beq_iff, unpacked_beq_iff] at h h' ⊢
  obtain ⟨hsame, hnumber⟩ | ⟨s, t, hx, hy⟩ := h
  · rw [hsame]
    obtain ⟨hsame', hnumber'⟩ | ⟨s, t, hy, hz⟩ := h'
    · exact .inl ⟨hsame', hnumber'⟩
    · exact .inr ⟨s, t, hy, hz⟩
  · obtain ⟨hsame', _⟩ | ⟨s', t', _, hz⟩ := h'
    · exact .inr ⟨s, t, hx, hsame' ▸ hy⟩
    · exact .inr ⟨s, t', hx, hz⟩

/-- The denominator of a number is positive. -/
theorem fraction?_pos {a : Number} {n : Int} {d : Nat} (h : a.fraction? = some (n, d)) : 0 < d := by
  cases a with
  | int i =>
    cases h
    exact Nat.one_pos
  | float x =>
    obtain ⟨y, _, hy⟩ := Option.map_eq_some_iff.1 h
    cases hy
    exact y.denominator_pos

end Number

namespace Value

/-- Two numbers are the same as fractions, or are doubles beyond the fractions that are equal. -/
theorem sameNumber_iff {a b : Number} : sameNumber a b = true ↔
    (∃ n d m e, a.fraction? = some (n, d) ∧ b.fraction? = some (m, e) ∧ n * e = m * d) ∨
      (a.fraction? = none ∧ b.fraction? = none ∧
        ∃ x y, a = .float x ∧ b = .float y ∧ (x == y) = true) := by
  unfold sameNumber
  cases ha : a.fraction? with
  | none =>
    cases hb : b.fraction? with
    | none => cases a <;> cases b <;> simp
    | some q => simp
  | some p =>
    cases hb : b.fraction? with
    | none => simp
    | some q =>
      obtain ⟨n, d⟩ := p
      obtain ⟨m, e⟩ := q
      simp

theorem sameNumber_symm {a b : Number} (h : sameNumber a b) : sameNumber b a := by
  rw [sameNumber_iff] at h ⊢
  obtain ⟨n, d, m, e, ha, hb, h⟩ | ⟨ha, hb, x, y, hx, hy, h⟩ := h
  · exact .inl ⟨m, e, n, d, hb, ha, h.symm⟩
  · exact .inr ⟨hb, ha, y, x, hy, hx, Number.float_beq_symm h⟩

theorem sameNumber_trans {a b c : Number} (h : sameNumber a b) (h' : sameNumber b c) :
    sameNumber a c := by
  rw [sameNumber_iff] at h h' ⊢
  obtain ⟨n, d, m, e, ha, hb, h⟩ | ⟨ha, hb, x, y, hx, hy, h⟩ := h
  · obtain ⟨m', e', k, g, hb', hc, h'⟩ | ⟨hb', _⟩ := h'
    · rw [hb] at hb'
      cases hb'
      refine .inl ⟨n, d, k, g, ha, hc, ?_⟩
      have he : (e : Int) ≠ 0 := by
        have := Number.fraction?_pos hb
        omega
      have hscaled : (n * g) * e = (k * d) * e := by
        calc (n * g) * e = (n * e) * g := by ring
          _ = (m * d) * g := by rw [h]
          _ = (m * g) * d := by ring
          _ = (k * e) * d := by rw [h']
          _ = (k * d) * e := by ring
      exact Int.eq_of_mul_eq_mul_right he hscaled
    · rw [hb] at hb'
      cases hb'
  · obtain ⟨m', e', k, g, hb', _⟩ | ⟨_, hc, y', z, hy', hz, h'⟩ := h'
    · rw [hb] at hb'
      cases hb'
    · rw [hy] at hy'
      cases hy'
      exact .inr ⟨ha, hc, x, z, hx, hz, Number.float_beq_trans h h'⟩

/-! ## 2. Keys -/

/-- The point of time that a moment names, and whether it is one of the common time. -/
def pointOf (m : Moment) : Bool × Int := (m.ahead.isSome, m.clock - m.ahead.getD 0 * 1000000)

theorem moment_same_iff {m n : Moment} : m.same n ↔ pointOf m = pointOf n := by
  unfold Moment.same pointOf
  cases hm : m.ahead <;> cases hn : n.ahead <;> simp

/-- What a number is equal to are the numbers that are the same. -/
theorem equal_of_number {v w : Value} {a : Number} (h : v.number? = some a) :
    v.equal w = true ↔ ∃ b, w.number? = some b ∧ sameNumber a b := by
  cases v <;> cases h <;> cases hw : w.number? <;> simp [equal, hw]

mutual

/-- **Equality of keys is symmetric.** -/
theorem equal_symm : ∀ {v w : Value}, v.isKey → v.equal w → w.equal v
  | .null, w, _, h => by
    cases equal_null_iff.1 h
    exact h
  | .text s, w, _, h => by
    cases equal_text_iff.1 h
    exact h
  | .policy p, w, _, h => by
    cases equal_policy_iff.1 h
    exact h
  | .bool _, w, _, h | .int _, w, _, h | .float _, w, _, h => by
    obtain ⟨b, hb, hsame⟩ := (equal_of_number rfl).1 h
    exact (equal_of_number hb).2 ⟨_, rfl, sameNumber_symm hsame⟩
  | .bytes a, w, _, h => by
    cases w with
    | bytes b =>
      rw [equal, beq_iff_eq] at h ⊢
      exact h.symm
    | _ => simp [equal] at h
  | .date d, w, _, h => by
    cases w with
    | date e =>
      rw [equal, beq_iff_eq] at h ⊢
      exact h.symm
    | _ => simp [equal] at h
  | .moment m, w, _, h => by
    cases w with
    | moment n =>
      rw [equal, moment_same_iff] at h ⊢
      exact h.symm
    | _ => simp [equal] at h
  | .tuple xs, w, hv, h => by
    cases w with
    | tuple ys =>
      rw [equal] at h ⊢
      rw [isKey] at hv
      exact equalList_symm hv h
    | _ => simp [equal] at h

theorem equalList_symm : ∀ {xs ys : List Value}, areKeys xs → equalList xs ys → equalList ys xs
  | [], [], _, h => h
  | [], _ :: _, _, h => by simp [equalList] at h
  | _ :: _, [], _, h => by simp [equalList] at h
  | x :: xs, y :: ys, hkeys, h => by
    rw [areKeys, Bool.and_eq_true] at hkeys
    rw [equalList, Bool.and_eq_true] at h ⊢
    exact ⟨equal_symm hkeys.1 h.1, equalList_symm hkeys.2 h.2⟩

end

mutual

/-- **Equality of keys is transitive.** -/
theorem equal_trans : ∀ {u v w : Value}, u.isKey → u.equal v → v.equal w → u.equal w
  | .null, v, w, _, h, h' => by
    cases equal_null_iff.1 h
    exact h'
  | .text s, v, w, _, h, h' => by
    cases equal_text_iff.1 h
    exact h'
  | .policy p, v, w, _, h, h' => by
    cases equal_policy_iff.1 h
    exact h'
  | .bool _, v, w, _, h, h' | .int _, v, w, _, h, h' | .float _, v, w, _, h, h' => by
    obtain ⟨b, hb, hsame⟩ := (equal_of_number rfl).1 h
    obtain ⟨c, hc, hsame'⟩ := (equal_of_number hb).1 h'
    exact (equal_of_number rfl).2 ⟨c, hc, sameNumber_trans hsame hsame'⟩
  | .bytes a, v, w, _, h, h' => by
    cases v with
    | bytes b =>
      rw [equal, beq_iff_eq] at h
      rw [h]
      exact h'
    | _ => simp [equal] at h
  | .date d, v, w, _, h, h' => by
    cases v with
    | date e =>
      rw [equal, beq_iff_eq] at h
      rw [h]
      exact h'
    | _ => simp [equal] at h
  | .moment l, v, w, _, h, h' => by
    cases v with
    | moment m =>
      cases w with
      | moment n =>
        rw [equal, moment_same_iff] at h h' ⊢
        exact h.trans h'
      | _ => simp [equal] at h'
    | _ => simp [equal] at h
  | .tuple xs, v, w, hu, h, h' => by
    cases v with
    | tuple ys =>
      cases w with
      | tuple zs =>
        rw [equal] at h h' ⊢
        rw [isKey] at hu
        exact equalList_trans hu h h'
      | _ => simp [equal] at h'
    | _ => simp [equal] at h

theorem equalList_trans : ∀ {xs ys zs : List Value}, areKeys xs → equalList xs ys →
    equalList ys zs → equalList xs zs
  | [], [], zs, _, _, h => h
  | [], _ :: _, _, _, h, _ => by simp [equalList] at h
  | _ :: _, [], _, _, h, _ => by simp [equalList] at h
  | _ :: _, _ :: _, [], _, _, h => by simp [equalList] at h
  | x :: xs, y :: ys, z :: zs, hkeys, h, h' => by
    rw [areKeys, Bool.and_eq_true] at hkeys
    rw [equalList, Bool.and_eq_true] at h h' ⊢
    exact ⟨equal_trans hkeys.1 h.1 h'.1, equalList_trans hkeys.2 h.2 h'.2⟩

end

end Value

/-! ## 3. What is found in a mapping -/

namespace Mapping

open Value (equal_symm equal_trans)

/-- A mapping all of whose keys can be keys. -/
def Keyed (m : Mapping) : Prop := ∀ e ∈ m, e.1.isKey

theorem find?_cons (e : Value × Value) (m : Mapping) (q : Value) :
    find? (e :: m) q = if q.equal e.1 then some e.2 else find? m q := by
  unfold find?
  by_cases h : q.equal e.1 <;> simp [h]

/-- Equal keys find the same. -/
theorem equal_congr {q k k' : Value} (hq : q.isKey) (hk : k.isKey) (h : k.equal k') :
    q.equal k' = q.equal k := by
  have hk' : k'.equal k := equal_symm hk h
  by_cases hqk : q.equal k
  · rw [hqk, equal_trans hq hqk h]
  · have hqk' : ¬ q.equal k' := fun hqk' => hqk (equal_trans hq hqk' hk')
    rw [Bool.eq_false_iff.2 hqk, Bool.eq_false_iff.2 hqk']

/-- **What is found once a key has been set**: under the keys equal to it the value, under all
others what has been there. -/
theorem find?_insert (m : Mapping) {k q : Value} (v : Value) (hk : k.isKey) (hq : q.isKey) :
    find? (insert m k v) q = if q.equal k then some v else find? m q := by
  induction m with
  | nil => rw [insert, find?_cons]
  | cons e m ih =>
    obtain ⟨k', v'⟩ := e
    rw [insert]
    by_cases h : k.equal k'
    · have hsame := equal_congr hq hk h
      rw [if_pos h, find?_cons, find?_cons, hsame]
      by_cases hqk : q.equal k <;> simp [hqk]
    · rw [if_neg h, find?_cons, find?_cons, ih]
      by_cases hqk : q.equal k
      · -- A key cannot be equal both to the one set and to one that is not equal to it.
        have hqk' : ¬ q.equal k' := fun hqk' => h (equal_trans hk (equal_symm hq hqk) hqk')
        simp [hqk, hqk']
      · simp [hqk]

/-- Under a key equal to none of a mapping nothing is found. -/
theorem find?_eq_none {m : Mapping} {q : Value} (h : ∀ e ∈ m, ¬ q.equal e.1) :
    find? m q = none := by
  unfold find?
  rw [List.find?_eq_none.2 h]
  rfl

/-- **Mappings in which the same is found under every key.** -/
def Agree (m n : Mapping) : Prop := ∀ q : Value, q.isKey → find? m q = find? n q

theorem Agree.get {m n : Mapping} (h : Agree m n) (name : Text) :
    Mapping.get m name = Mapping.get n name := h (.text name) rfl

theorem Agree.set {m n : Mapping} (h : Agree m n) (name : Text) (v : Value) :
    Agree (set m name v) (set n name v) := by
  intro q hq
  rw [Mapping.set, Mapping.set, find?_insert m v rfl hq, find?_insert n v rfl hq, h q hq]

theorem find?_erase (m : Mapping) (name : Text) {q : Value} (hq : q.isKey) :
    find? (Mapping.erase m name) q = if q.equal (.text name) then none else find? m q := by
  induction m with
  | nil => simp [Mapping.erase, find?]
  | cons e m ih =>
    unfold Mapping.erase at ih ⊢
    by_cases h : (Value.text name).equal e.1
    · rw [List.filter_cons_of_neg (by simp [h]), ih, find?_cons, Value.equal_text_iff.1 h]
      by_cases hqk : q.equal (.text name) <;> simp [hqk]
    · rw [List.filter_cons_of_pos (by simp [h]), find?_cons, ih, find?_cons]
      by_cases hqk : q.equal (.text name)
      · have hqe : ¬ q.equal e.1 := fun hqe => h (equal_trans rfl (equal_symm hq hqk) hqe)
        simp [hqk, hqe]
      · simp [hqk]

theorem Agree.erase {m n : Mapping} (h : Agree m n) (name : Text) :
    Agree (Mapping.erase m name) (Mapping.erase n name) := by
  intro q hq
  rw [find?_erase m name hq, find?_erase n name hq, h q hq]

/-- **Setting the entries of a mapping** changes nothing under other keys. -/
theorem find?_update {m : Mapping} (settings : Mapping) (hkeyed : Keyed settings) {q : Value}
    (hq : q.isKey) (h : ∀ e ∈ settings, ¬ q.equal e.1) :
    find? (update m settings) q = find? m q := by
  induction settings generalizing m with
  | nil => rfl
  | cons e rest ih =>
    obtain ⟨he, hrest⟩ := List.forall_mem_cons.1 h
    have hkey : e.1.isKey := hkeyed e List.mem_cons_self
    have hinsert : find? (insert m e.1 e.2) q = find? m q := by
      rw [find?_insert m e.2 hkey hq, if_neg he]
    exact (ih (fun e' he' => hkeyed e' (List.mem_cons_of_mem _ he')) hrest).trans hinsert

/-- **Mappings in which the same is found outside of some keys** agree on these keys too, once both
have had the same entries set for them. -/
theorem agree_update {m n : Mapping} (settings : Mapping) (hkeyed : Keyed settings) {q : Value}
    (hq : q.isKey) (h : (∀ e ∈ settings, ¬ q.equal e.1) → find? m q = find? n q) :
    find? (update m settings) q = find? (update n settings) q := by
  induction settings generalizing m n with
  | nil => exact h (by simp)
  | cons e rest ih =>
    have hrest : Keyed rest := fun e' he' => hkeyed e' (List.mem_cons_of_mem _ he')
    have he : e.1.isKey := hkeyed e List.mem_cons_self
    refine ih hrest fun hout => ?_
    rw [find?_insert m e.2 he hq, find?_insert n e.2 he hq]
    by_cases hqe : q.equal e.1
    · rw [if_pos hqe, if_pos hqe]
    · rw [if_neg hqe, if_neg hqe]
      exact h (List.forall_mem_cons.2 ⟨hqe, hout⟩)

/-! ## 4. What a mapping holds -/

variable {m : Mapping} {name : Text} {v : Value}

/-- What is found under a name stands there. -/
theorem mem_of_get (h : Mapping.get m name = some v) : (.text name, v) ∈ m := by
  obtain ⟨⟨k, w⟩, he, rfl⟩ := Option.map_eq_some_iff.1 h
  have hfound := List.find?_some he
  replace hfound : (Value.text name).equal k := hfound
  rw [← Value.equal_text_iff.1 hfound]
  exact List.mem_of_find?_eq_some he

/-- What stands under a name is found there, where no key stands twice. -/
theorem get_of_mem (hkeys : (keys m).Nodup) (h : (.text name, v) ∈ m) :
    Mapping.get m name = some v := by
  induction m with
  | nil => cases h
  | cons e m ih =>
    obtain ⟨hout, hkeys⟩ := List.nodup_cons.1 hkeys
    rw [Mapping.get_cons]
    rcases List.mem_cons.1 h with rfl | h
    · rw [if_pos (Value.equal_text_iff.2 rfl)]
    · have hne : ¬ (Value.text name).equal e.1 := by
        intro heq
        rw [Value.equal_text_iff.1 heq] at hout
        exact hout (List.mem_map_of_mem h)
      rw [if_neg hne]
      exact ih hkeys h

theorem mem_keys_set {k : Value} (h : k ∈ keys (set m name v)) : k = .text name ∨ k ∈ keys m := by
  induction m with
  | nil => exact .inl (List.mem_singleton.1 h)
  | cons e m ih =>
    obtain ⟨k', w⟩ := e
    unfold set insert at h
    split at h
    · exact .inr h
    · rcases List.mem_cons.1 h with rfl | h
      · exact .inr List.mem_cons_self
      · exact (ih h).imp_right (List.mem_cons_of_mem _)

/-- Setting a name makes no key stand twice. -/
theorem nodup_keys_set (h : (keys m).Nodup) : (keys (set m name v)).Nodup := by
  induction m with
  | nil => exact List.nodup_cons.2 ⟨List.not_mem_nil, List.nodup_nil⟩
  | cons e m ih =>
    obtain ⟨k, w⟩ := e
    obtain ⟨hout, hkeys⟩ := List.nodup_cons.1 h
    unfold set insert
    split
    · exact h
    next hne =>
      refine List.nodup_cons.2 ⟨fun hk => ?_, ih hkeys⟩
      rcases mem_keys_set hk with rfl | hk
      · exact hne (Value.equal_text_iff.2 rfl)
      · exact hout hk

theorem forall_insert {P : Value → Prop} {k : Value} (hm : ∀ e ∈ m, P e.2)
    (hv : P v) : ∀ e ∈ insert m k v, P e.2 := by
  induction m with
  | nil =>
    intro e he
    cases List.mem_singleton.1 he
    exact hv
  | cons e m ih =>
    obtain ⟨k', w⟩ := e
    obtain ⟨hw, hm⟩ := List.forall_mem_cons.1 hm
    rw [insert]
    split
    · exact List.forall_mem_cons.2 ⟨hv, hm⟩
    · exact List.forall_mem_cons.2 ⟨hw, ih hm⟩

/-- **What holds of the values of two mappings** holds of the one updated with the other. -/
theorem forall_update {P : Value → Prop} {n : Mapping} (hm : ∀ e ∈ m, P e.2)
    (hn : ∀ e ∈ n, P e.2) : ∀ e ∈ update m n, P e.2 := by
  induction n generalizing m with
  | nil => exact hm
  | cons e n ih =>
    obtain ⟨he, hn⟩ := List.forall_mem_cons.1 hn
    exact ih (forall_insert hm he) hn

end Mapping

end StorageBroker
