import Audience.Text.Percent

/-!
# `Audience.Proofs.PercentText` — percent-encoded texts can be read back

Encoding works one character at a time, and so do its laws: what one character becomes is read back as
the bytes of its UTF-8 form, whatever stands behind it, and is in the grammar of encoded texts. A hyphen
stands for itself and no other character begins or ends with one, so the hyphens at both ends of a text
can be seen on its encoded form.

## Contents
- **The grammar.** `IsEncoded`, and `isEncoded_encode`.
- **Reading back.** `decode_encode`, and `encode_inj`.
- **Hyphens at the ends.** `head?_encode_eq_hyphen_iff` and `getLast?_encode_eq_hyphen_iff`.
-/

namespace Audience.Text.Percent

variable {c : Char} {cs cs' rest : List Char}

/-! ## The grammar -/

/-- The upper-case hexadecimal digits. -/
def upperHexDigits : List Char :=
  ['0', '1', '2', '3', '4', '5', '6', '7', '8', '9', 'A', 'B', 'C', 'D', 'E', 'F']

/-- The text is made of letters and digits of ASCII, of the marks `_ . - ~ /`, and of escapes: a `%` with
two upper-case hexadecimal digits behind it. -/
inductive IsEncoded : List Char → Prop
  | nil : IsEncoded []
  | plain {c : Char} {rest : List Char} (hc : c.isAlphanum = true ∨ c ∈ ['_', '.', '-', '~', '/'])
      (hrest : IsEncoded rest) : IsEncoded (c :: rest)
  | escape {a b : Char} {rest : List Char} (ha : a ∈ upperHexDigits) (hb : b ∈ upperHexDigits)
      (hrest : IsEncoded rest) : IsEncoded ('%' :: a :: b :: rest)

theorem isUnreserved_iff :
    isUnreserved c = true ↔ c.isAlphanum = true ∨ c ∈ ['_', '.', '-', '~', '/'] := by
  simp [isUnreserved, or_assoc]

theorem hexDigit_mem {n : Nat} (hn : n < 16) : hexDigit n ∈ upperHexDigits := by
  have hall : ∀ n < 16, hexDigit n ∈ upperHexDigits := by decide
  exact hall n hn

/-- Either digit of a byte is a hexadecimal one. -/
theorem nibbles_lt (b : UInt8) : b.toNat / 16 < 16 ∧ b.toNat % 16 < 16 := by
  have hb : b.toNat < 256 := b.toNat_lt
  omega

theorem IsEncoded.escaped (bytes : List UInt8) (hrest : IsEncoded rest) :
    IsEncoded (bytes.flatMap encodeByte ++ rest) := by
  induction bytes with
  | nil => exact hrest
  | cons b bytes ih =>
      obtain ⟨hhigh, hlow⟩ := nibbles_lt b
      rw [List.flatMap_cons, List.append_assoc]
      exact .escape (hexDigit_mem hhigh) (hexDigit_mem hlow) ih

theorem isEncoded_encode (cs : List Char) : IsEncoded (encode cs) := by
  induction cs with
  | nil => exact .nil
  | cons c rest ih =>
      show IsEncoded (encodeChar c ++ encode rest)
      by_cases hc : isUnreserved c = true
      · rw [encodeChar, if_pos hc]
        exact .plain (isUnreserved_iff.mp hc) ih
      · rw [encodeChar, if_neg hc]
        exact ih.escaped _

/-! ## Reading back -/

theorem hexValue?_hexDigit {n : Nat} (hn : n < 16) : hexValue? (hexDigit n) = some n := by
  have hall : ∀ n < 16, hexValue? (hexDigit n) = some n := by decide
  exact hall n hn

theorem decode_encodeByte (b : UInt8) (rest : List Char) :
    decode (encodeByte b ++ rest) = (decode rest).map (b :: ·) := by
  obtain ⟨hhigh, hlow⟩ := nibbles_lt b
  have hbyte : UInt8.ofNat (16 * (b.toNat / 16) + b.toNat % 16) = b := by
    rw [Nat.div_add_mod, UInt8.ofNat_toNat]
  show decode ('%' :: hexDigit (b.toNat / 16) :: hexDigit (b.toNat % 16) :: rest) = _
  rw [decode, hexValue?_hexDigit hhigh, hexValue?_hexDigit hlow]
  cases decode rest with
  | none => rfl
  | some bytes => exact congrArg (fun a => some (a :: bytes)) hbyte

theorem decode_escaped (bytes : List UInt8) (rest : List Char) :
    decode (bytes.flatMap encodeByte ++ rest) = (decode rest).map (bytes ++ ·) := by
  induction bytes with
  | nil => simp
  | cons b bytes ih =>
      rw [List.flatMap_cons, List.append_assoc, decode_encodeByte, ih, Option.map_map]
      rfl

theorem decode_plain (hc : c ≠ '%') (rest : List Char) :
    decode (c :: rest) = (decode rest).map (String.utf8EncodeChar c ++ ·) := by
  rw [decode]
  · rw [if_neg hc]
  · intro a b tail hmark
    exact absurd hmark hc

/-- What one character becomes is read back as its bytes, whatever stands behind it. -/
theorem decode_encodeChar (c : Char) (rest : List Char) :
    decode (encodeChar c ++ rest) = (decode rest).map (String.utf8EncodeChar c ++ ·) := by
  by_cases hc : isUnreserved c = true
  · have hmark : c ≠ '%' := by
      rintro rfl
      exact absurd hc (by decide)
    rw [encodeChar, if_pos hc]
    exact decode_plain hmark rest
  · rw [encodeChar, if_neg hc]
    exact decode_escaped _ rest

/-- **An encoded text is read back as its UTF-8 form.** -/
theorem decode_encode (cs : List Char) :
    decode (encode cs) = some (cs.flatMap String.utf8EncodeChar) := by
  induction cs with
  | nil => rfl
  | cons c rest ih =>
      show decode (encodeChar c ++ encode rest) = _
      rw [decode_encodeChar, ih]
      rfl

/-- No two texts are encoded alike, since no two have the same UTF-8 form. -/
theorem encode_inj (h : encode cs = encode cs') : cs = cs' := by
  have hbytes : cs.flatMap String.utf8EncodeChar = cs'.flatMap String.utf8EncodeChar := by
    have hdecode := congrArg decode h
    rw [decode_encode, decode_encode] at hdecode
    exact Option.some.inj hdecode
  have hutf8 : (String.ofList cs).toByteArray = (String.ofList cs').toByteArray := by
    rw [String.toByteArray_ofList, String.toByteArray_ofList, List.utf8Encode, List.utf8Encode, hbytes]
  exact String.ofList_inj.mp (String.toByteArray_inj.mp hutf8)

/-! ## Hyphens at the ends -/

theorem encode_append (cs cs' : List Char) : encode (cs ++ cs') = encode cs ++ encode cs' :=
  List.flatMap_append

/-- A text without reserved characters is its own encoded form. -/
theorem encode_eq_self (h : ∀ c ∈ cs, isUnreserved c = true) : encode cs = cs := by
  induction cs with
  | nil => rfl
  | cons c rest ih =>
      obtain ⟨hc, hrest⟩ := List.forall_mem_cons.mp h
      show encodeChar c ++ encode rest = c :: rest
      rw [encodeChar, if_pos hc, ih hrest]
      rfl

theorem head?_encodeChar_of_reserved (hc : ¬ isUnreserved c = true) :
    (encodeChar c).head? = some '%' := by
  rw [encodeChar, if_neg hc]
  obtain ⟨b, bytes, hbytes⟩ := List.exists_cons_of_ne_nil (String.utf8EncodeChar_ne_nil (c := c))
  rw [hbytes]
  rfl

theorem exists_getLast?_encodeChar_of_reserved (hc : ¬ isUnreserved c = true) :
    ∃ digit ∈ upperHexDigits, (encodeChar c).getLast? = some digit := by
  rw [encodeChar, if_neg hc]
  have hne : String.utf8EncodeChar c ≠ [] := String.utf8EncodeChar_ne_nil
  obtain ⟨bytes, b, hbytes⟩ := (List.eq_nil_or_concat _).resolve_left hne
  refine ⟨hexDigit (b.toNat % 16), hexDigit_mem (nibbles_lt b).2, ?_⟩
  rw [hbytes, List.concat_eq_append, List.flatMap_append, List.flatMap_singleton, encodeByte]
  simp

/-- A text begins with a hyphen when its encoded form does. -/
theorem head?_encode_eq_hyphen_iff : (encode cs).head? = some '-' ↔ cs.head? = some '-' := by
  cases cs with
  | nil => exact Iff.rfl
  | cons c rest =>
      show (encodeChar c ++ encode rest).head? = some '-' ↔ _
      by_cases hc : isUnreserved c = true
      · rw [encodeChar, if_pos hc]
        exact Iff.rfl
      · -- an escape begins with its mark, and a hyphen is not escaped
        rw [List.head?_append, head?_encodeChar_of_reserved hc]
        have hhyphen : c ≠ '-' := by
          rintro rfl
          exact hc (by decide)
        simp [hhyphen]

/-- A text ends with a hyphen when its encoded form does. -/
theorem getLast?_encode_eq_hyphen_iff : (encode cs).getLast? = some '-' ↔ cs.getLast? = some '-' := by
  rcases List.eq_nil_or_concat cs with rfl | ⟨before, c, rfl⟩
  · exact Iff.rfl
  · rw [List.concat_eq_append, encode_append]
    show (encode before ++ (encodeChar c ++ [])).getLast? = some '-' ↔ _
    rw [List.append_nil, List.getLast?_append, List.getLast?_append, List.getLast?_singleton]
    by_cases hc : isUnreserved c = true
    · rw [encodeChar, if_pos hc]
      exact Iff.rfl
    · -- an escape ends with a digit, and a hyphen is not escaped
      obtain ⟨digit, hdigit, hlast⟩ := exists_getLast?_encodeChar_of_reserved hc
      have hhyphen : c ≠ '-' := by
        rintro rfl
        exact hc (by decide)
      have hne : digit ≠ '-' := by
        rintro rfl
        exact absurd hdigit (by decide)
      rw [hlast]
      simp [hhyphen, hne]

end Audience.Text.Percent
