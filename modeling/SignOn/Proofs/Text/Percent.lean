import SignOn.Proofs.Text.Spelling
import SignOn.Text.Percent
/-!
Percent encoding loses nothing. What is written are characters that are kept, and escapes
(`mem_encode`); as long as the percent sign is not kept, the escapes are read back byte by byte, and
so is the text (`decodeText_encode`).
-/

namespace SignOn.Text.Percent

variable {keep : Char → Bool}

/-! ## One byte -/

theorem hexValue?_hexDigitUpper : ∀ n : Fin 16, hexValue? (hexDigitUpper n) = some n.1 := by decide

theorem isAlphanumeric_hexDigitUpper :
    ∀ n : Fin 16, isAlphanumeric (hexDigitUpper n) = true := by decide

theorem toNat_ofNat_ascii : ∀ n : Fin 128, (Char.ofNat n).toNat = n := by decide

/-- Whatever is written for a byte is kept, or part of an escape. -/
theorem mem_encodeByte {c : Char} {b : UInt8} (h : c ∈ encodeByte keep b) :
    keep c = true ∨ c = '%' ∨ isAlphanumeric c = true := by
  have hbyte : b.toNat < 256 := b.toNat_lt
  unfold encodeByte at h
  split at h
  · next hkeep =>
    obtain rfl := List.mem_singleton.1 h
    exact .inl (Bool.and_eq_true_iff.1 hkeep).2
  · simp only [escape, List.mem_cons, List.not_mem_nil, or_false] at h
    rcases h with rfl | rfl | rfl
    · exact .inr (.inl rfl)
    · exact .inr (.inr (isAlphanumeric_hexDigitUpper ⟨b.toNat / 16, by omega⟩))
    · exact .inr (.inr (isAlphanumeric_hexDigitUpper ⟨b.toNat % 16, by omega⟩))

/-- An escape is read back. -/
theorem decode_escape (b : UInt8) (rest : List Char) :
    decode (escape b ++ rest) = b :: decode rest := by
  have hbyte : b.toNat < 256 := b.toNat_lt
  have hhigh := hexValue?_hexDigitUpper ⟨b.toNat / 16, by omega⟩
  have hlow := hexValue?_hexDigitUpper ⟨b.toNat % 16, by omega⟩
  dsimp only at hhigh hlow
  simp only [escape, List.cons_append, List.nil_append, decode, beq_self_eq_true, hhigh, hlow]
  have hsum : 16 * (b.toNat / 16) + b.toNat % 16 = b.toNat := by omega
  rw [hsum, UInt8.ofNat_toNat]

/-- A character other than the percent sign stands for itself. -/
theorem decode_cons {c : Char} (h : c ≠ '%') (rest : List Char) :
    decode (c :: rest) = spell [c] ++ decode rest := by
  have hne : (c == '%') = false := beq_eq_false_iff_ne.2 h
  match rest with
  | [] => simp only [decode, utf8_ofList, List.append_nil]
  | [d] => simp only [decode, utf8_ofList, ← spell_append, List.singleton_append]
  | d :: e :: rest => simp only [decode, hne, utf8_ofList]

/-- A text without a percent sign stands for itself. -/
theorem decodeText_of_plain {cs : List Char} (h : '%' ∉ cs) :
    decodeText cs = String.ofList cs := by
  have hplain : decode cs = spell cs := by
    induction cs with
    | nil => rfl
    | cons c cs ih =>
      rw [List.mem_cons, not_or] at h
      rw [decode_cons (Ne.symm h.1), ih h.2, ← spell_append, List.singleton_append]
  rw [decodeText, hplain, ← utf8_ofList, ofUtf8Lossy_utf8]

theorem decode_encodeByte (h : keep '%' = false) (b : UInt8) (rest : List Char) :
    decode (encodeByte keep b ++ rest) = b :: decode rest := by
  unfold encodeByte
  split
  · next hkeep =>
    obtain ⟨hascii, hkept⟩ := Bool.and_eq_true_iff.1 hkeep
    have hlt : b.toNat < 128 := UInt8.lt_iff_toNat_lt.1 (of_decide_eq_true hascii)
    have hchar : (Char.ofNat b.toNat).toNat = b.toNat := toNat_ofNat_ascii ⟨b.toNat, hlt⟩
    have hpercent : Char.ofNat b.toNat ≠ '%' := by
      intro he
      rw [he, h] at hkept
      cases hkept
    rw [List.singleton_append, decode_cons hpercent, spell_ascii (by omega), hchar,
      UInt8.ofNat_toNat]
    rfl
  · exact decode_escape b rest

/-! ## Texts -/

theorem mem_encode {c : Char} {s : String} (h : c ∈ encode keep s) :
    keep c = true ∨ c = '%' ∨ isAlphanumeric c = true := by
  obtain ⟨b, -, hb⟩ := List.mem_flatMap.1 h
  exact mem_encodeByte hb

/-- The bytes of a text are read back, whatever follows. -/
theorem decode_encode (h : keep '%' = false) (s : String) : decode (encode keep s) = utf8 s := by
  have hbytes (bs : Bytes) : decode (bs.flatMap (encodeByte keep)) = bs := by
    induction bs with
    | nil => rfl
    | cons b bs ih => rw [List.flatMap_cons, decode_encodeByte h, ih]
  exact hbytes (utf8 s)

/-- A text is read back. -/
theorem decodeText_encode (h : keep '%' = false) (s : String) : decodeText (encode keep s) = s := by
  rw [decodeText, decode_encode h, ofUtf8Lossy_utf8]

/-! ## Values -/

/-- What is written for a value means nothing special in a URL, other than the percent sign. -/
theorem mem_encodeValue {c : Char} {s : String} (h : c ∈ encodeValue s) :
    isUnreserved c = true ∨ c = '%' := by
  rcases mem_encode h with hc | hc | hc
  · exact .inl hc
  · exact .inr hc
  · exact .inl (by simp [isUnreserved, hc])

theorem decodeText_encodeValue (s : String) : decodeText (encodeValue s) = s :=
  decodeText_encode (by decide) s

end SignOn.Text.Percent
