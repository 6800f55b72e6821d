import StorageBroker.Text
/-!
# Blanks

The characters that count as white space between words, and the removal of those at both ends of
a text. The set is the white space of Unicode together with the four information separators.

* `isBlank_of_isWhitespace` -- it holds the usual ASCII blanks;
* `strip_eq_nil_iff` -- nothing is left exactly of a text of blanks;
* `not_mem_of_mem_splitOn` -- no part of a list has the separator in it;
* `takeWhile_separator`, `drop_dropWhile_separator` -- the two sides of a first separator.
-/

namespace StorageBroker.Text

/-- White space of any script. -/
def isBlank (c : Char) : Bool :=
  let n := c.toNat
  (9 ≤ n && n ≤ 13) || (28 ≤ n && n ≤ 32) || n == 0x85 || n == 0xA0 || n == 0x1680
    || (0x2000 ≤ n && n ≤ 0x200A) || n == 0x2028 || n == 0x2029 || n == 0x202F
    || n == 0x205F || n == 0x3000

/-- White space of a text of ASCII characters that holds a number. -/
def isAsciiBlank (c : Char) : Bool :=
  let n := c.toNat
  (9 ≤ n && n ≤ 13) || n == 32

/-- The same of a character of a text; no half is white space. -/
def isBlankIn : Character → Bool
  | .scalar c => isBlank c
  | .half _ => false

theorem isBlank_of_isWhitespace {c : Char} (h : c.isWhitespace) : isBlank c := by
  simp only [Char.isWhitespace, Bool.or_eq_true, decide_eq_true_eq] at h
  rcases h with ((h | h) | h) | h <;> subst h <;> rfl

theorem isBlank_of_isAsciiBlank {c : Char} (h : isAsciiBlank c) : isBlank c := by
  simp [isAsciiBlank, isBlank] at *
  omega

variable {α : Type}

/-- The items without those at both ends that the test picks. -/
def stripWhile (p : α → Bool) (cs : List α) : List α :=
  ((cs.dropWhile p).reverse.dropWhile p).reverse

/-- The text without the blanks at both ends. -/
def strip (cs : List Character) : List Character := stripWhile isBlankIn cs

theorem dropWhile_eq_nil_iff {p : α → Bool} {cs : List α} :
    cs.dropWhile p = [] ↔ ∀ c ∈ cs, p c := by
  induction cs with
  | nil => simp
  | cons c cs ih => by_cases h : p c <;> simp [h, ih]

theorem stripWhile_eq_nil_iff {p : α → Bool} {cs : List α} :
    stripWhile p cs = [] ↔ ∀ c ∈ cs, p c := by
  simp only [stripWhile, List.reverse_eq_nil_iff, dropWhile_eq_nil_iff, List.mem_reverse]
  constructor
  · intro h
    refine dropWhile_eq_nil_iff.1 ?_
    cases hd : cs.dropWhile p with
    | nil => rfl
    | cons x xs =>
      have hx : p x = true := h x (by simp [hd])
      have := List.head?_dropWhile_not p cs
      simp [hd, hx] at this
  · intro h c hc
    exact h c ((List.dropWhile_sublist p).subset hc)

theorem strip_eq_nil_iff {cs : List Character} : strip cs = [] ↔ ∀ c ∈ cs, isBlankIn c :=
  stripWhile_eq_nil_iff

variable [DecidableEq α]

/-- The parts of a list between the occurrences of a separator. -/
def splitOn (sep : α) : List α → List (List α)
  | [] => [[]]
  | c :: cs =>
    if c = sep then [] :: splitOn sep cs
    else match splitOn sep cs with
      | [] => [[c]]
      | part :: parts => (c :: part) :: parts

theorem splitOn_ne_nil (sep : α) (cs : List α) : splitOn sep cs ≠ [] := by
  induction cs with
  | nil => simp [splitOn]
  | cons c cs ih =>
    unfold splitOn
    split
    · simp
    · split <;> simp

/-- The parts between the occurrences of a separator are those of the list library. -/
theorem splitOn_eq_splitOn (sep : α) (cs : List α) : splitOn sep cs = cs.splitOn sep := by
  induction cs with
  | nil => rfl
  | cons c cs ih =>
    rw [splitOn, List.splitOn_cons_eq_if_modifyHead, ih]
    by_cases hc : c = sep
    · rw [if_pos hc, if_pos (by simpa using hc)]
    · rw [if_neg hc, if_neg (by simpa using hc)]
      cases hparts : cs.splitOn sep with
      | nil => exact absurd (ih.trans hparts) (splitOn_ne_nil sep cs)
      | cons part parts => rfl

/-- What holds of the characters of all parts holds of every character but the separators. -/
theorem forall_mem_splitOn {sep : α} {cs : List α} {P : α → Prop} :
    (∀ part ∈ splitOn sep cs, ∀ c ∈ part, P c) ↔ ∀ c ∈ cs, c = sep ∨ P c := by
  induction cs with
  | nil => simp [splitOn]
  | cons c cs ih =>
    rw [splitOn, List.forall_mem_cons, ← ih]
    by_cases hc : c = sep
    · rw [if_pos hc, List.forall_mem_cons]
      simp [hc]
    · rw [if_neg hc]
      cases hparts : splitOn sep cs with
      | nil => exact absurd hparts (splitOn_ne_nil sep cs)
      | cons part parts =>
        simp only [List.forall_mem_cons, hc, false_or, and_assoc]

/-- No part of a text has the separator in it. -/
theorem not_mem_of_mem_splitOn {sep : α} {cs part : List α} (h : part ∈ splitOn sep cs) :
    sep ∉ part := by
  intro hsep
  have hall : ∀ c ∈ cs, c = sep ∨ c ≠ sep := fun c _ => Decidable.em (c = sep)
  exact forall_mem_splitOn.2 hall part h sep hsep rfl

theorem bne_of_not_mem {sep : α} {cs : List α} (h : sep ∉ cs) :
    ∀ c ∈ cs, (c != sep) = true := by
  intro c hc
  rw [bne_iff_ne]
  rintro rfl
  exact h hc

/-- What is in front of the first separator. -/
theorem takeWhile_separator {sep : α} {cs rest : List α} (h : sep ∉ cs) :
    (cs ++ sep :: rest).takeWhile (· != sep) = cs := by
  rw [List.takeWhile_append_of_pos (bne_of_not_mem h), List.takeWhile_cons_of_neg (by simp),
    List.append_nil]

/-- What is behind the first separator. -/
theorem drop_dropWhile_separator {sep : α} {cs rest : List α} (h : sep ∉ cs) :
    ((cs ++ sep :: rest).dropWhile (· != sep)).drop 1 = rest := by
  rw [List.dropWhile_append_of_pos (bne_of_not_mem h), List.dropWhile_cons_of_neg (by simp)]
  rfl

end StorageBroker.Text
