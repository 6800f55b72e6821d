import StorageBroker.Text.Blank
import StorageBroker.Text.Percent
/-!
# Reading percent encoding back

The percent-encoded form of a text is read back as the text, so two texts never have the same form;
and no form has a slash in it, so a form that stands as a segment of a path can be told from what
follows it.

* `decode_encode` -- what was encoded is decoded;
* `encode_injective` -- two texts with the same form are the same;
* `not_mem_encode` -- no form has a reserved character in it but the percent sign;
* `segment_unique` -- the segment at the start of a path determines the text.
-/

namespace StorageBroker.Text.Percent

/-! ## 1. One byte -/

theorem isUnreserved_percent : isUnreserved '%' = false := by decide

/-- A character that is no percent sign stands for itself. -/
theorem decodeBytes_cons_of_ne {c : Char} (h : c ≠ '%') (rest : List Char) :
    decodeBytes (c :: rest) = String.utf8EncodeChar c ++ decodeBytes rest := by
  rw [decodeBytes]
  rintro high low rest' rfl
  exact absurd rfl h

theorem decodeBytes_digits {high low : Nat} (hhigh : high < 16) (hlow : low < 16)
    (rest : List Char) :
    decodeBytes ('%' :: digit high :: digit low :: rest) =
      UInt8.ofNat (16 * high + low) :: decodeBytes rest := by
  rw [decodeBytes, digitValue?_digit high hhigh, digitValue?_digit low hlow]

theorem toNat_ofNat_of_isValidChar {n : Nat} (h : n.isValidChar) : (Char.ofNat n).toNat = n := by
  rw [Char.ofNat, dif_pos h]
  rfl

/-- The character of a byte below 128 has that byte for its UTF-8 form. -/
theorem utf8EncodeChar_ofNat {b : UInt8} (hb : b < 128) :
    String.utf8EncodeChar (Char.ofNat b.toNat) = [b] := by
  have hlt : b.toNat < 128 := hb
  have hvalid : b.toNat.isValidChar := Or.inl (by omega)
  have hval : (Char.ofNat b.toNat).toNat = b.toNat := toNat_ofNat_of_isValidChar hvalid
  have hsize : (Char.ofNat b.toNat).utf8Size = 1 := by
    rw [Char.utf8Size_eq_one_iff, UInt32.le_iff_toNat_le]
    show (Char.ofNat b.toNat).toNat ≤ 127
    omega
  rw [String.utf8EncodeChar_eq_singleton hsize]
  show [UInt8.ofNat (Char.ofNat b.toNat).toNat] = [b]
  rw [hval, UInt8.ofNat_toNat]

/-- **A byte that was written is read back.** -/
theorem decodeBytes_encodeByte (b : UInt8) (rest : List Char) :
    decodeBytes (encodeByte b ++ rest) = b :: decodeBytes rest := by
  have hb : b.toNat < 256 := b.toNat_lt
  by_cases h : b < 128 ∧ isUnreserved (Char.ofNat b.toNat)
  · obtain ⟨hlt, hunreserved⟩ := h
    have hne : Char.ofNat b.toNat ≠ '%' := by
      intro hpercent
      rw [hpercent, isUnreserved_percent] at hunreserved
      cases hunreserved
    rw [encodeByte_of_unreserved hlt hunreserved, List.singleton_append,
      decodeBytes_cons_of_ne hne, utf8EncodeChar_ofNat hlt, List.singleton_append]
  · have hform : encodeByte b = ['%', digit (b.toNat / 16), digit (b.toNat % 16)] := by
      have hfalse : (b < 128 && isUnreserved (Char.ofNat b.toNat)) = false := by
        simpa using h
      rw [encodeByte, hfalse]
      rfl
    have hvalue : 16 * (b.toNat / 16) + b.toNat % 16 = b.toNat := by omega
    rw [hform, List.cons_append, List.cons_append, List.cons_append, List.nil_append,
      decodeBytes_digits (by omega) (by omega), hvalue, UInt8.ofNat_toNat]

/-! ## 2. Texts -/

theorem decodeBytes_flatMap (bs : List UInt8) : decodeBytes (bs.flatMap encodeByte) = bs := by
  induction bs with
  | nil => rfl
  | cons b bs ih => rw [List.flatMap_cons, decodeBytes_encodeByte, ih]

/-- **A text that was written is read back.** -/
theorem decode_encode (cs : List Char) : decode (encode cs) = some (.plain (String.ofList cs)) := by
  have hbytes : (⟨(decodeBytes (encode cs)).toArray⟩ : ByteArray) = cs.utf8Encode := by
    rw [encode, decodeBytes_flatMap, List.utf8Encode, Utf8.encode]
    apply ByteArray.ext
    rw [List.data_toByteArray]
  rw [decode, hbytes, String.fromUTF8?, dif_pos (ByteArray.isValidUTF8_utf8Encode)]
  rfl

/-- **Two texts with the same form are the same.** -/
theorem encode_injective {xs ys : List Char} (h : encode xs = encode ys) : xs = ys := by
  have hdecoded := decode_encode xs
  rw [h, decode_encode ys] at hdecoded
  exact (String.ofList_injective (Text.plain.inj (Option.some.inj hdecoded))).symm

/-! ## 3. Characters of forms -/

theorem isUnreserved_digit : ∀ n < 16, isUnreserved (digit n) := by decide

theorem mem_encodeByte {b : UInt8} {c : Char} (h : c ∈ encodeByte b) :
    isUnreserved c ∨ c = '%' := by
  have hb : b.toNat < 256 := b.toNat_lt
  unfold encodeByte at h
  dsimp only at h
  split at h
  next hunreserved =>
    rw [List.mem_singleton.1 h]
    exact Or.inl (Bool.and_eq_true_iff.1 hunreserved).2
  next =>
    rcases List.mem_cons.1 h with h | h
    · exact Or.inr h
    left
    rcases List.mem_cons.1 h with h | h
    · rw [h]
      exact isUnreserved_digit _ (by omega)
    · rw [List.mem_singleton.1 h]
      exact isUnreserved_digit _ (by omega)

/-- **A form has no reserved character in it**, the percent sign apart. -/
theorem not_mem_encode {c : Char} (hreserved : isUnreserved c = false) (hpercent : c ≠ '%')
    (cs : List Char) : c ∉ encode cs := by
  intro h
  obtain ⟨b, _, hb⟩ := List.mem_flatMap.1 h
  rcases mem_encodeByte hb with hunreserved | hc
  · rw [hreserved] at hunreserved
    cases hunreserved
  · exact hpercent hc

/-! ## 4. Segments of paths -/

/-- A form stays within its segment. -/
theorem slash_not_mem_encode (cs : List Char) : '/' ∉ encode cs :=
  not_mem_encode (by decide) (by decide) cs

/-- What may follow a segment: nothing, or a slash and more. -/
def Follows (rest : List Char) : Prop := rest.head?.getD '/' = '/'

instance (rest : List Char) : Decidable (Follows rest) :=
  inferInstanceAs (Decidable (_ = _))

theorem takeWhile_segment {cs rest : List Char} (h : Follows rest) :
    (encode cs ++ rest).takeWhile (· != '/') = encode cs := by
  have hslash := slash_not_mem_encode cs
  cases rest with
  | nil =>
    rw [List.takeWhile_append_of_pos (bne_of_not_mem hslash), List.takeWhile_nil, List.append_nil]
  | cons c rest =>
    have hc : c = '/' := h
    rw [hc, takeWhile_separator hslash]

/-- **The segment at the start of a path determines the text.** -/
theorem segment_unique {xs ys rest rest' : List Char} (hrest : Follows rest)
    (hrest' : Follows rest') (h : encode xs ++ rest = encode ys ++ rest') : xs = ys := by
  have hsegment : encode xs = encode ys := by
    rw [← takeWhile_segment hrest, h, takeWhile_segment hrest']
  exact encode_injective hsegment

end StorageBroker.Text.Percent
