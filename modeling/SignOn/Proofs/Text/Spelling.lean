import SignOn.Text.Utf8
/-!
Texts as bytes, character by character: `spell` writes a list of characters in UTF-8, one run of
bytes for each, so what is proved about a scanner of bytes can follow the characters of a text. A
text has at least as many bytes as characters, and just as many if it is ASCII.
-/

namespace SignOn.Text

/-- The UTF-8 form of a list of characters. -/
def spell (cs : List Char) : Bytes := cs.flatMap String.utf8EncodeChar

@[simp] theorem spell_nil : spell [] = [] := rfl

theorem spell_cons (c : Char) (cs : List Char) :
    spell (c :: cs) = String.utf8EncodeChar c ++ spell cs := rfl

@[simp] theorem spell_append (as bs : List Char) : spell (as ++ bs) = spell as ++ spell bs :=
  List.flatMap_append

theorem utf8_ofList (cs : List Char) : utf8 (String.ofList cs) = spell cs := by
  simp only [utf8, spell, String.toUTF8_eq_toByteArray, String.toByteArray_ofList, List.utf8Encode]
  simp

theorem utf8_eq_spell (s : String) : utf8 s = spell s.toList := by
  rw [← utf8_ofList, String.ofList_toList]

theorem ofUtf8?_spell (cs : List Char) : ofUtf8? (spell cs) = some (String.ofList cs) := by
  rw [← utf8_ofList, ofUtf8?_utf8]

theorem utf8_injective {s t : String} (h : utf8 s = utf8 t) : s = t := by
  have := congrArg ofUtf8? h
  simpa [ofUtf8?_utf8] using this

/-- A character of ASCII is spelled as one byte. -/
theorem spell_ascii {c : Char} (h : c.toNat < 0x80) (cs : List Char) :
    spell (c :: cs) = UInt8.ofNat c.toNat :: spell cs := by
  have hv : c.toNat ≤ 0x7f := by omega
  simp only [spell_cons, String.utf8EncodeChar, Char.toNat_val, if_pos hv, List.cons_append,
    List.nil_append]

/-- Every byte of a character beyond ASCII has its highest bit set. -/
theorem le_of_mem_utf8EncodeChar {c : Char} (h : 0x80 ≤ c.toNat) {b : UInt8}
    (hb : b ∈ String.utf8EncodeChar c) : 0x80 ≤ b.toNat := by
  have hv : ¬ c.toNat ≤ 0x7f := by omega
  simp only [String.utf8EncodeChar, Char.toNat_val, if_neg hv] at hb
  split at hb
  · simp only [List.mem_cons, List.not_mem_nil, or_false] at hb
    rcases hb with rfl | rfl <;> simp only [UInt8.toNat_ofNat'] <;> omega
  · split at hb
    · simp only [List.mem_cons, List.not_mem_nil, or_false] at hb
      rcases hb with rfl | rfl | rfl <;> simp only [UInt8.toNat_ofNat'] <;> omega
    · simp only [List.mem_cons, List.not_mem_nil, or_false] at hb
      rcases hb with rfl | rfl | rfl | rfl <;> simp only [UInt8.toNat_ofNat'] <;> omega

/-! ## Lengths -/

@[simp] theorem byteLength_cons (c : Char) (cs : List Char) :
    byteLength (c :: cs) = c.utf8Size + byteLength cs := rfl

theorem length_le_byteLength (cs : List Char) : cs.length ≤ byteLength cs := by
  induction cs with
  | nil => exact Nat.le_refl 0
  | cons c cs ih =>
    have hc := c.utf8Size_pos
    rw [byteLength_cons, List.length_cons]
    omega

theorem byteLength_ascii {cs : List Char} (h : ∀ c ∈ cs, c.toNat < 0x80) :
    byteLength cs = cs.length := by
  induction cs with
  | nil => rfl
  | cons c cs ih =>
    have hc : c.utf8Size = 1 :=
      Char.utf8Size_eq_one_iff.2 (Nat.le_of_lt_succ (h c List.mem_cons_self))
    rw [byteLength_cons, List.length_cons, ih fun d hd => h d (List.mem_cons_of_mem _ hd), hc,
      Nat.add_comm]

end SignOn.Text
