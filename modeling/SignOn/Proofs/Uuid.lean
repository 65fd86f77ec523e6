import SignOn.Uuid
/-!
The text of a UUID names it: two UUIDs with the same text are the same, and no text is empty.
-/

namespace SignOn.Uuid

open SignOn.Text

theorem hexDigit_injective : ∀ a b : Fin 16, hexDigit a = hexDigit b → a = b := by decide

theorem byteDigits_injective {a b : UInt8} (h : byteDigits a = byteDigits b) : a = b := by
  have ha := a.toNat_lt
  have hb := b.toNat_lt
  simp only [byteDigits, List.cons.injEq, and_true] at h
  have h1 := hexDigit_injective ⟨a.toNat / 16, by omega⟩ ⟨b.toNat / 16, by omega⟩ h.1
  have h2 := hexDigit_injective ⟨a.toNat % 16, by omega⟩ ⟨b.toNat % 16, by omega⟩ h.2
  rw [Fin.mk.injEq] at h1 h2
  exact UInt8.toNat_inj.1 (by omega)

theorem length_digits (u : Uuid) (start count : Nat) :
    (u.digits start count).length = 2 * count := by
  induction count generalizing start with
  | zero => rfl
  | succ count ih =>
    rw [digits, List.range'_succ, List.flatMap_cons, List.length_append]
    have := ih (start + 1)
    rw [digits] at this
    rw [this, byteDigits, List.length_cons, List.length_cons, List.length_nil]
    omega

/-- The digits of some bytes determine these bytes. -/
theorem bytes_eq_of_digits {u v : Uuid} {start count : Nat}
    (h : u.digits start count = v.digits start count) {i : Nat} (hs : start ≤ i)
    (hi : i < start + count) : u.bytes (Fin.ofNat 16 i) = v.bytes (Fin.ofNat 16 i) := by
  induction count generalizing start with
  | zero => omega
  | succ count ih =>
    simp only [digits, List.range'_succ, List.flatMap_cons] at h
    obtain ⟨hhead, htail⟩ := List.append_inj h rfl
    rcases Nat.eq_or_lt_of_le hs with rfl | hlt
    · exact byteDigits_injective hhead
    · exact ih htail hlt (by omega)

theorem text_injective {u v : Uuid} (h : u.text = v.text) : u = v := by
  have hl (a : Nat) (n : Nat) : (u.digits a n).length = (v.digits a n).length := by
    rw [length_digits, length_digits]
  have h := String.ofList_injective h
  simp only [List.append_assoc, List.cons_append] at h
  obtain ⟨h0, h⟩ := List.append_inj h (hl 0 4)
  obtain ⟨h4, h⟩ := List.append_inj (List.cons.inj h).2 (hl 4 2)
  obtain ⟨h6, h⟩ := List.append_inj (List.cons.inj h).2 (hl 6 2)
  obtain ⟨h8, h⟩ := List.append_inj (List.cons.inj h).2 (hl 8 2)
  have h10 := (List.cons.inj h).2
  have hb : u.bytes = v.bytes := by
    funext i
    have hi : Fin.ofNat 16 i.1 = i := Fin.ext (Nat.mod_eq_of_lt i.2)
    rw [← hi]
    by_cases h1 : i.1 < 4
    · exact bytes_eq_of_digits h0 (Nat.zero_le _) (by omega)
    by_cases h2 : i.1 < 6
    · exact bytes_eq_of_digits h4 (by omega) (by omega)
    by_cases h3 : i.1 < 8
    · exact bytes_eq_of_digits h6 (by omega) (by omega)
    by_cases h5 : i.1 < 10
    · exact bytes_eq_of_digits h8 (by omega) (by omega)
    · exact bytes_eq_of_digits h10 (by omega) (by omega)
  cases u; cases v; cases hb; rfl

theorem text_ne_empty (u : Uuid) : u.text ≠ "" := by
  intro h
  have := congrArg (fun s => s.toList.length) h
  simp [text, length_digits] at this

end SignOn.Uuid
