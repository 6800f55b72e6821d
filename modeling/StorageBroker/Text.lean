/-!
# Texts

A text is a row of characters, and a character is a scalar of Unicode or a half. Halves are the
numbers between the scalars: documents that count in units of 16 bits spell a scalar beyond the
basic plane as a pair of units, and an escape can spell one unit of a pair alone. A half has no
form in bytes.

A text is kept in runs: a string, with a half and a further text behind it or not. So each text has
one form only, and a text without halves is a string.

* `toList_ofList`, `ofList_toList` -- texts and rows of characters are the same;
* `toList_append` -- texts are appended character by character;
* `string?_eq_some_iff`, `string?_eq_none_iff` -- a text is a string unless it has a half in it.
-/

namespace StorageBroker

/-! ## 1. Characters -/

namespace Text

/-- The first unit of a pair. -/
def isHighUnit (u : Nat) : Bool := 0xD800 ≤ u && u ≤ 0xDBFF

/-- The second unit of a pair. -/
def isLowUnit (u : Nat) : Bool := 0xDC00 ≤ u && u ≤ 0xDFFF

def isHalf (u : Nat) : Bool := isHighUnit u || isLowUnit u

/-- The scalar of a pair of units. -/
def scalarOfPair (high low : Nat) : Char :=
  Char.ofNat (0x10000 + (high - 0xD800) * 0x400 + (low - 0xDC00))

end Text

/-- One unit of a pair without the other. -/
structure Half where
  unit : Nat
  isHalf : Text.isHalf unit
deriving DecidableEq, Repr

/-- A character of a text. -/
inductive Character where
  | scalar (c : Char)
  | half (u : Half)
deriving DecidableEq, Repr

namespace Character

instance : Coe Char Character := ⟨.scalar⟩

/-- The number of a character. -/
def toNat : Character → Nat
  | .scalar c => c.toNat
  | .half u => u.unit

/-- The character of a number. -/
def ofNat (n : Nat) : Character :=
  if h : Text.isHalf n then .half ⟨n, h⟩ else .scalar (Char.ofNat n)

theorem isHalf_toNat (c : Char) : Text.isHalf c.toNat = false := by
  have hvalid : c.toNat.isValidChar := c.valid
  simp only [Text.isHalf, Text.isHighUnit, Text.isLowUnit, Nat.isValidChar] at *
  grind

/-- **A character is told by its number.** -/
theorem ofNat_toNat (c : Character) : ofNat c.toNat = c := by
  cases c with
  | scalar c =>
    rw [toNat, ofNat, dif_neg (by rw [isHalf_toNat]; exact Bool.false_ne_true), Char.ofNat_toNat]
  | half u => exact dif_pos u.isHalf

end Character

/-! ## 2. Texts -/

/-- A row of characters, cut at its halves. -/
inductive Text where
  | plain (s : String)
  | halved (front : String) (u : Half) (rest : Text)
deriving DecidableEq, Repr, Inhabited

namespace Text

instance : Coe String Text := ⟨.plain⟩

/-- The characters of a text. -/
def toList : Text → List Character
  | .plain s => s.toList.map .scalar
  | .halved front u rest => front.toList.map .scalar ++ .half u :: rest.toList

theorem toList_plain (s : String) : (s : Text).toList = s.toList.map .scalar := rfl

theorem toList_halved (front : String) (u : Half) (rest : Text) :
    (Text.halved front u rest).toList = front.toList.map .scalar ++ .half u :: rest.toList := rfl

/-- The text of characters behind scalars, of which the last one comes first. -/
def ofListBehind (front : List Char) : List Character → Text
  | [] => .plain (String.ofList front.reverse)
  | .scalar c :: cs => ofListBehind (c :: front) cs
  | .half u :: cs => .halved (String.ofList front.reverse) u (ofListBehind [] cs)

/-- **The text of characters.** -/
def ofList (cs : List Character) : Text := ofListBehind [] cs

theorem toList_ofListBehind (front : List Char) (cs : List Character) :
    (ofListBehind front cs).toList = front.reverse.map .scalar ++ cs := by
  induction cs generalizing front with
  | nil => rw [ofListBehind, toList, String.toList_ofList, List.append_nil]
  | cons c cs ih =>
    cases c with
    | scalar c =>
      rw [ofListBehind, ih, List.reverse_cons, List.map_append, List.append_assoc]
      rfl
    | half u =>
      rw [ofListBehind, toList, String.toList_ofList, ih]
      rfl

/-- **A text has the characters that it was made of.** -/
@[simp] theorem toList_ofList (cs : List Character) : (ofList cs).toList = cs :=
  toList_ofListBehind [] cs

theorem ofListBehind_scalars (front cs : List Char) (rest : List Character) :
    ofListBehind front (cs.map .scalar ++ rest) = ofListBehind (cs.reverse ++ front) rest := by
  induction cs generalizing front with
  | nil => rfl
  | cons c cs ih =>
    rw [List.map_cons, List.cons_append, ofListBehind, ih, List.reverse_cons, List.append_assoc]
    rfl

/-- **A text is made of its characters.** -/
@[simp] theorem ofList_toList (t : Text) : ofList t.toList = t := by
  unfold ofList
  induction t with
  | plain s =>
    rw [toList, ← List.append_nil (s.toList.map _), ofListBehind_scalars, ofListBehind,
      List.append_nil, List.reverse_reverse, String.ofList_toList]
  | halved front u rest ih =>
    rw [toList, ofListBehind_scalars, ofListBehind, ih, List.append_nil, List.reverse_reverse,
      String.ofList_toList]

/-- The text of scalars. -/
theorem ofList_scalars (cs : List Char) : ofList (cs.map .scalar) = String.ofList cs := by
  rw [← @String.toList_ofList cs, String.ofList_toList]
  exact ofList_toList (.plain _)

theorem toList_injective {t u : Text} (h : t.toList = u.toList) : t = u := by
  rw [← ofList_toList t, h, ofList_toList]

/-! ## 3. Operations -/

/-- A text behind another one. -/
def append : Text → Text → Text
  | .plain s, .plain t => .plain (s ++ t)
  | .plain s, .halved front u rest => .halved (s ++ front) u rest
  | .halved front u rest, t => .halved front u (append rest t)

instance : Append Text := ⟨append⟩

@[simp] theorem plain_append_plain (s t : String) :
    (s : Text) ++ (t : Text) = ((s ++ t : String) : Text) := rfl

theorem plain_append_halved (s front : String) (u : Half) (rest : Text) :
    (s : Text) ++ Text.halved front u rest = .halved (s ++ front) u rest := rfl

theorem halved_append (front : String) (u : Half) (rest t : Text) :
    Text.halved front u rest ++ t = .halved front u (rest ++ t) := rfl

/-- **Texts are appended character by character.** -/
theorem toList_append (t u : Text) : (t ++ u).toList = t.toList ++ u.toList := by
  induction t with
  | plain s =>
    cases u with
    | plain t =>
      rw [plain_append_plain, toList_plain, String.toList_append, List.map_append]
      rfl
    | halved front u rest =>
      rw [plain_append_halved, toList_halved, String.toList_append, List.map_append,
        List.append_assoc]
      rfl
  | halved front v rest ih =>
    rw [halved_append, toList_halved, ih, toList_halved, List.append_assoc, List.cons_append]

theorem append_assoc (t u v : Text) : t ++ u ++ v = t ++ (u ++ v) := by
  apply toList_injective
  simp only [toList_append, List.append_assoc]

theorem append_right_inj {u v : Text} (t : Text) : t ++ u = t ++ v ↔ u = v := by
  refine ⟨fun h => toList_injective ?_, fun h => h ▸ rfl⟩
  have hlist := congrArg toList h
  rwa [toList_append, toList_append, List.append_cancel_left_eq] at hlist

/-- A text with every scalar changed. -/
def map (f : Char → Char) : Text → Text
  | .plain s => .plain (String.ofList (s.toList.map f))
  | .halved front u rest => .halved (String.ofList (front.toList.map f)) u (rest.map f)

/-- Texts with a text between them. -/
def intercalate (between : Text) : List Text → Text
  | [] => ""
  | [t] => t
  | t :: ts => t ++ between ++ intercalate between ts

/-! ## 4. Halves -/

/-- The string that a text is, if no character of it is a half. -/
def string? : Text → Option String
  | .plain s => some s
  | .halved .. => none

theorem string?_eq_some_iff {t : Text} {s : String} : t.string? = some s ↔ t = s := by
  cases t <;> simp [string?]

theorem string?_eq_none_iff {t : Text} : t.string? = none ↔ ∃ u, .half u ∈ t.toList := by
  cases t with
  | plain s => simp [string?, toList]
  | halved front u rest => simp [string?, toList]

/-- A half alone. -/
def unpaired : Text := ofList [.ofNat 0xD800]

/-- The scalars of a text, without the halves. -/
def scalars : Text → List Char
  | .plain s => s.toList
  | .halved front _ rest => front.toList ++ rest.scalars

@[simp] theorem scalars_plain (s : String) : (s : Text).scalars = s.toList := rfl

end Text

end StorageBroker
