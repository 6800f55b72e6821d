import StorageBroker.Malformed
/-!
# Mappings

A mapping is its list of entries in order of first insertion; no two keys are equal. Setting a key
that is present keeps its place and its first spelling.

* `get_set`, `get_erase` -- what each operation does to the entry of a name;
* `named_ofNamed` -- a mapping of named values gives them back.

The last section reads mappings and sequences out of untyped values, and fails as `Malformed` says
when the value has not that shape.
-/

namespace StorageBroker

/-- The entries of a mapping. -/
abbrev Mapping := List (Value × Value)

namespace Mapping

/-! ## 1. Operations -/

/-- The value of a key. -/
def find? (m : Mapping) (k : Value) : Option Value :=
  (List.find? (fun e => k.equal e.1) m).map Prod.snd

/-- The value of a name. -/
def get (m : Mapping) (name : Text) : Option Value := find? m (.text name)

/-- Sets a key: in its place if present, else at the end. -/
def insert : Mapping → Value → Value → Mapping
  | [], k, v => [(k, v)]
  | (k', v') :: rest, k, v =>
    if k.equal k' then (k', v) :: rest else (k', v') :: insert rest k v

/-- Sets a name. -/
def set (m : Mapping) (name : Text) (v : Value) : Mapping := insert m (.text name) v

/-- Removes a name. -/
def erase (m : Mapping) (name : Text) : Mapping :=
  List.filter (fun e => !(Value.text name).equal e.1) m

/-- Sets every entry of the second mapping, in its order. -/
def update (m n : Mapping) : Mapping := n.foldl (fun acc e => insert acc e.1 e.2) m

/-- The mapping of named values. -/
def ofNamed (es : List (Text × Value)) : Mapping := es.map fun e => (.text e.1, e.2)

def keys (m : Mapping) : List Value := m.map Prod.fst

def contains (m : Mapping) (name : Text) : Bool := (Mapping.get m name).isSome

/-! ## 2. What the operations do to a name -/

theorem get_nil (name : Text) : Mapping.get [] name = none := rfl

theorem get_cons (e : Value × Value) (m : Mapping) (name : Text) :
    Mapping.get (e :: m) name =
      if (Value.text name).equal e.1 then some e.2 else Mapping.get m name := by
  unfold Mapping.get Mapping.find?
  by_cases h : (Value.text name).equal e.1 <;> simp [h]

theorem text_equal_text (a b : Text) : (Value.text a).equal (.text b) = decide (a = b) := by
  by_cases h : a = b
  · simp [h, Value.equal_text_iff.2 rfl]
  · have : ¬ (Value.text a).equal (.text b) :=
      fun hk => h (Value.text.inj (Value.equal_text_iff.1 hk)).symm
    simpa [h] using this

theorem get_insert_text (m : Mapping) (a b : Text) (v : Value) :
    Mapping.get (insert m (.text a) v) b = if a = b then some v else Mapping.get m b := by
  induction m with
  | nil => simp [insert, get_cons, get_nil, text_equal_text, @eq_comm _ a]
  | cons e m ih =>
    obtain ⟨k, w⟩ := e
    rw [insert]
    by_cases h : (Value.text a).equal k
    · rw [if_pos h, Value.equal_text_iff.1 h, get_cons, get_cons, text_equal_text]
      by_cases hab : a = b <;> simp [hab, @eq_comm _ b]
    · rw [if_neg h, get_cons, get_cons, ih]
      by_cases hab : a = b
      · subst hab; simp [h]
      · simp [hab]

theorem get_set (m : Mapping) (a b : Text) (v : Value) :
    Mapping.get (set m a v) b = if a = b then some v else Mapping.get m b :=
  get_insert_text m a b v

theorem get_erase (m : Mapping) (a b : Text) :
    Mapping.get (Mapping.erase m a) b = if a = b then none else Mapping.get m b := by
  induction m with
  | nil => simp [Mapping.erase, get_nil]
  | cons e m ih =>
    unfold Mapping.erase at ih ⊢
    by_cases h : (Value.text a).equal e.1
    · rw [List.filter_cons_of_neg (by simp [h]), ih, get_cons, Value.equal_text_iff.1 h,
        text_equal_text]
      by_cases hab : a = b <;> simp [hab, @eq_comm _ b]
    · rw [List.filter_cons_of_pos (by simp [h]), get_cons, ih, get_cons]
      by_cases hab : a = b
      · subst hab; simp [h]
      · simp [hab]

/-! ## 3. Named values -/

/-- The values of a mapping by name; every key has to be a text. -/
def named (m : Mapping) : Except Malformed (List (Text × Value)) :=
  m.mapM fun e => match e.1 with
    | .text name => .ok (name, e.2)
    | _ => .error (.kind "keywords must be strings")

theorem named_ofNamed (es : List (Text × Value)) : named (ofNamed es) = .ok es := by
  induction es with
  | nil => rfl
  | cons e es ih =>
    unfold named ofNamed at ih ⊢
    rw [List.map_cons, List.mapM_cons, ih]
    rfl

end Mapping

/-! ## 4. Reading untyped values -/

namespace Value

/-- The entries of a mapping, for an operation of that name. -/
def entriesFor (v : Value) (operation : Text) : Except Malformed Mapping :=
  match v with
  | .mapping es => .ok es
  | v => .error (.lacks v operation)

/-- The value of a name in a mapping, or another one if it has none. -/
def getD (v : Value) (name : Text) (fallback : Value) : Except Malformed Value := do
  let es ← v.entriesFor "get"
  return (Mapping.get es name).getD fallback

/-- The value of a name in a mapping, the absent value if it has none. -/
def get (v : Value) (name : Text) : Except Malformed Value := v.getD name .null

/-- The value of a name that a mapping must have. -/
def required (v : Value) (name : Text) : Except Malformed Value :=
  match v with
  | .mapping es => match Mapping.get es name with
    | some w => .ok w
    | none => .error (.key (.text name))
  | v => .error (.noEntries v)

/-- The items of a sequence: the characters of a text, the numbers of bytes, the keys of a
mapping. -/
def items (v : Value) : Except Malformed (List Value) :=
  match v with
  | .list xs | .tuple xs | .set xs => .ok xs
  | .text s => .ok (s.toList.map fun c => .text (Text.ofList [c]))
  | .bytes bs => .ok (bs.map fun b => .int b.toNat)
  | .mapping es => .ok (Mapping.keys es)
  | v => .error (.notIterable v)

/-- Whether a run of items stands somewhere in a list. -/
def isWithin {α : Type} [BEq α] (part : List α) : List α → Bool
  | [] => part.isEmpty
  | x :: xs => part.isPrefixOf (x :: xs) || isWithin part xs

/-- Whether a value is among the items of a sequence: the keys of a mapping, the parts of a text,
the numbers of bytes. -/
def holds (v w : Value) : Except Malformed Bool :=
  match v with
  | .list xs | .tuple xs => .ok (xs.any w.equal)
  | .set xs => if w.isKey then .ok (xs.any w.equal) else .error (.noKey w)
  | .mapping m => if w.isKey then .ok (Mapping.find? m w).isSome else .error (.noKey w)
  | .text s => match w with
    | .text t => .ok (isWithin t.toList s.toList)
    | w => .error (.kind ("'in <string>' requires string as left operand, not " ++ w.kindName))
  | .bytes bs => match w with
    | .bytes cs => .ok (isWithin cs bs)
    | .int i => byteHeld bs i
    | .bool b => byteHeld bs (if b then 1 else 0)
    | w => .error (.kind ("a bytes-like object is required, not '" ++ w.kindName ++ "'"))
  | v => .error (.notIterable v)
where
  byteHeld (bs : List UInt8) (i : Int) : Except Malformed Bool :=
    if 0 ≤ i ∧ i < 256 then .ok (bs.contains (UInt8.ofNat i.toNat))
    else .error (.content "byte must be in range(0, 256)")

/-- A key and a value out of a sequence of two. -/
def pair (v : Value) : Except Malformed (Value × Value) := do
  match ← v.items with
  | [k, w] => if k.isKey then return (k, w) else throw (.noKey k)
  | _ => throw (.content "dictionary update sequence element must have length 2")

/-- The entries to set from a mapping or from a sequence of pairs. -/
def pairs (v : Value) : Except Malformed Mapping :=
  match v with
  | .mapping es => .ok es
  | v => do (← v.items).mapM pair

/-- A mapping with every entry of another value set. -/
def update (v w : Value) : Except Malformed Value := do
  let m ← v.entriesFor "update"
  return .mapping (Mapping.update m (← w.pairs))

/-- A new mapping from a mapping or from a sequence of pairs. -/
def toMapping (v : Value) : Except Malformed Mapping := do
  match v with
  | .mapping es => return es
  | v => return Mapping.update [] (← v.pairs)

/-- The value at a key. -/
def lookup (m : Mapping) (k : Value) : Except Malformed (Option Value) :=
  if k.isKey then .ok (Mapping.find? m k) else .error (.noKey k)

end Value

end StorageBroker
