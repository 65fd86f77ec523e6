import SignOn.Json.Read
import SignOn.Json.Print
import SignOn.Proofs.Text.Spelling
/-!
What is written as one token is read back: strings, integers, flags and `null`. A numeral ends only
where something follows that cannot belong to it, so the lemma about integers asks for that.
-/

namespace SignOn.Json

open SignOn.Text

/-! ## Strings -/

theorem withFront_withFront (a b : Bytes) (r : Except Fault (Bytes × Bytes)) :
    withFront a (withFront b r) = withFront (a ++ b) r := by
  cases r <;> simp [withFront]

theorem stringBody_quote (rest : Bytes) : stringBody (quote :: rest) = .ok ([], rest) := by
  rw [stringBody.eq_def]; rfl

theorem stringBody_plain {b : UInt8} (hq : b ≠ quote) (hc : ¬ b < 0x20) (hb : b ≠ backslash)
    (rest : Bytes) : stringBody (b :: rest) = withFront [b] (stringBody rest) := by
  rw [stringBody.eq_def]
  simp [hq, hc, hb]

theorem stringBody_escape {e d : UInt8} (he : e ≠ letterU) (hd : escaped? e = some d)
    (rest : Bytes) : stringBody (backslash :: e :: rest) = withFront [d] (stringBody rest) := by
  rw [stringBody.eq_def]
  simp [he, hd, backslash, quote]

theorem stringBody_unit {a b c d : UInt8} {n : Nat} (hn : codeUnit? a b c d = some n)
    (hl : isLowHalf n = false) (hh : isHighHalf n = false) (rest : Bytes) :
    stringBody (backslash :: letterU :: a :: b :: c :: d :: rest)
      = withFront (codePointBytes n) (stringBody rest) := by
  rw [stringBody.eq_def]
  simp [hn, hl, hh, backslash, quote]

/-- Bytes that stand for themselves are taken as they are. -/
theorem stringBody_plains (bs rest : Bytes)
    (h : ∀ b ∈ bs, b ≠ quote ∧ ¬ b < 0x20 ∧ b ≠ backslash) :
    stringBody (bs ++ rest) = withFront bs (stringBody rest) := by
  induction bs with
  | nil => cases h : stringBody rest <;> simp [withFront, h]
  | cons b bs ih =>
    obtain ⟨hq, hc, hb⟩ := h b List.mem_cons_self
    have ht : ∀ x ∈ bs, x ≠ quote ∧ ¬ x < 0x20 ∧ x ≠ backslash :=
      fun x hx => h x (List.mem_cons_of_mem _ hx)
    rw [List.cons_append, stringBody_plain hq hc hb, ih ht, withFront_withFront]
    rfl

/-- The bytes of a character that is written unescaped stand for themselves. -/
theorem plain_of_mem_utf8EncodeChar {c : Char} (hq : c ≠ '"') (hb : c ≠ '\\')
    (hc : ¬ c.toNat < 0x20) {b : UInt8} (h : b ∈ String.utf8EncodeChar c) :
    b ≠ quote ∧ ¬ b < 0x20 ∧ b ≠ backslash := by
  by_cases ha : c.toNat < 0x80
  · have hs : String.utf8EncodeChar c = [UInt8.ofNat c.toNat] := by
      simpa [spell_cons] using spell_ascii ha []
    rw [hs, List.mem_singleton] at h
    have hn : b.toNat = c.toNat := by subst h; simp only [UInt8.toNat_ofNat']; omega
    refine ⟨fun he => hq ?_, fun he => ?_, fun he => hb ?_⟩
    · exact Char.ext (UInt32.toNat_inj.1 (by rw [Char.toNat_val, ← hn, he]; rfl))
    · rw [UInt8.lt_iff_toNat_lt, hn] at he; exact hc he
    · exact Char.ext (UInt32.toNat_inj.1 (by rw [Char.toNat_val, ← hn, he]; rfl))
  · have := le_of_mem_utf8EncodeChar (by omega) h
    refine ⟨?_, ?_, ?_⟩ <;> intro he
    · rw [he] at this; exact absurd this (by decide)
    · rw [UInt8.lt_iff_toNat_lt] at he
      have h32 : (0x20 : UInt8).toNat = 32 := rfl
      omega
    · rw [he] at this; exact absurd this (by decide)

/-- The code unit of a control character, as it is escaped. -/
theorem codeUnit?_control : ∀ n : Fin 32,
    codeUnit? 0x30 0x30 (UInt8.ofNat (hexDigit (n / 16)).toNat)
      (UInt8.ofNat (hexDigit (n % 16)).toNat) = some n.1 := by decide

theorem hexDigit_lt : ∀ n : Fin 16, (hexDigit n).toNat < 0x80 := by decide

/-- A control character, written as a code unit, is spelled byte by byte. -/
theorem spell_unit {n : Nat} (h : n < 0x20) (rest : Bytes) :
    spell ['\\', 'u', '0', '0', hexDigit (n / 16), hexDigit (n % 16)] ++ rest
      = backslash :: letterU :: 0x30 :: 0x30 :: UInt8.ofNat (hexDigit (n / 16)).toNat ::
          UInt8.ofNat (hexDigit (n % 16)).toNat :: rest := by
  have h1 := hexDigit_lt ⟨n / 16, by omega⟩
  have h2 := hexDigit_lt ⟨n % 16, by omega⟩
  rw [spell_ascii (by decide), spell_ascii (by decide), spell_ascii (by decide),
    spell_ascii (by decide), spell_ascii h1, spell_ascii h2]
  rfl

theorem codePointBytes_toNat (c : Char) : codePointBytes c.toNat = String.utf8EncodeChar c := by
  rw [codePointBytes, Char.ofNat_toNat, utf8_eq_spell]
  simp [spell_cons]

/-- A character with a one-letter escape is read back from it. -/
theorem stringBody_letter {c e : Char} {d : UInt8} (he : e.toNat < 0x80)
    (hu : UInt8.ofNat e.toNat ≠ letterU) (hd : escaped? (UInt8.ofNat e.toNat) = some d)
    (hc : String.utf8EncodeChar c = [d]) (rest : Bytes) :
    stringBody (spell ['\\', e] ++ rest)
      = withFront (String.utf8EncodeChar c) (stringBody rest) := by
  rw [spell_ascii (by decide), spell_ascii he, hc]
  exact stringBody_escape hu hd rest

theorem char_eq_of_toNat {c d : Char} (h : c.toNat = d.toNat) : c = d :=
  Char.ext (UInt32.toNat_inj.1 h)

/-- One written character is read back. -/
theorem stringBody_escapeChar (c : Char) (rest : Bytes) :
    stringBody (spell (escapeChar c) ++ rest)
      = withFront (String.utf8EncodeChar c) (stringBody rest) := by
  unfold escapeChar
  by_cases hq : c = '"'
  · subst hq; exact stringBody_letter (by decide) (by decide) rfl (by decide) rest
  by_cases hb : c = '\\'
  · subst hb; exact stringBody_letter (by decide) (by decide) rfl (by decide) rest
  rw [if_neg hq, if_neg hb]
  by_cases h8 : c.toNat = 0x08
  · rw [if_pos h8, char_eq_of_toNat (d := '\x08') h8]
    exact stringBody_letter (by decide) (by decide) rfl (by decide) rest
  by_cases h12 : c.toNat = 0x0C
  · rw [if_neg h8, if_pos h12, char_eq_of_toNat (d := '\x0C') h12]
    exact stringBody_letter (by decide) (by decide) rfl (by decide) rest
  by_cases h10 : c.toNat = 0x0A
  · rw [if_neg h8, if_neg h12, if_pos h10, char_eq_of_toNat (d := '\n') h10]
    exact stringBody_letter (by decide) (by decide) rfl (by decide) rest
  by_cases h13 : c.toNat = 0x0D
  · rw [if_neg h8, if_neg h12, if_neg h10, if_pos h13, char_eq_of_toNat (d := '\r') h13]
    exact stringBody_letter (by decide) (by decide) rfl (by decide) rest
  by_cases h9 : c.toNat = 0x09
  · rw [if_neg h8, if_neg h12, if_neg h10, if_neg h13, if_pos h9,
      char_eq_of_toNat (d := '\t') h9]
    exact stringBody_letter (by decide) (by decide) rfl (by decide) rest
  rw [if_neg h8, if_neg h12, if_neg h10, if_neg h13, if_neg h9]
  by_cases hc : c.toNat < 0x20
  · have hl : isLowHalf c.toNat = false := by simp only [isLowHalf]; grind
    have hh : isHighHalf c.toNat = false := by simp only [isHighHalf]; grind
    rw [if_pos hc, spell_unit hc, stringBody_unit (codeUnit?_control ⟨c.toNat, hc⟩) hl hh,
      codePointBytes_toNat]
  · rw [if_neg hc, spell_cons, spell_nil, List.append_nil]
    exact stringBody_plains _ _ fun b h => plain_of_mem_utf8EncodeChar hq hb hc h

theorem stringBody_escaped (cs : List Char) (rest : Bytes) :
    stringBody (spell (cs.flatMap escapeChar) ++ quote :: rest) = .ok (spell cs, rest) := by
  induction cs with
  | nil => exact stringBody_quote rest
  | cons c cs ih =>
    rw [List.flatMap_cons, spell_append, List.append_assoc, stringBody_escapeChar, ih]
    rfl

/-- A written string is read back, from behind its opening quote. -/
theorem stringText_escaped (s : String) (rest : Bytes) :
    stringText (spell (s.toList.flatMap escapeChar) ++ quote :: rest) = .ok (s, rest) := by
  simp only [stringText, stringBody_escaped, ofUtf8?_spell, String.ofList_toList]

theorem spell_printText (s : String) (rest : Bytes) :
    spell (printText s) ++ rest
      = quote :: (spell (s.toList.flatMap escapeChar) ++ quote :: rest) := by
  rw [printText, List.cons_append, spell_ascii (by decide), spell_append, List.cons_append,
    List.append_assoc, spell_ascii (by decide)]
  rfl

@[simp] theorem skipSpace_quote (rest : Bytes) : skipSpace (quote :: rest) = quote :: rest := rfl

theorem readText_printText (s : String) (rest : Bytes) :
    readText (spell (printText s) ++ rest) = .ok (s, rest) := by
  rw [spell_printText, readText, skipSpace_quote]
  exact stringText_escaped s rest

theorem readChecked_printText (ok : String → Bool) (s : { s : String // ok s = true })
    (rest : Bytes) : readChecked ok (spell (printText s.1) ++ rest) = .ok (s, rest) := by
  rw [readChecked, readText_printText]
  exact dif_pos s.2

/-! ## Words -/

theorem restOfWord_append (w rest : Bytes) : restOfWord w (w ++ rest) = .ok rest := by
  induction w with
  | nil => cases rest <;> rfl
  | cons b w ih => simpa [restOfWord] using ih

theorem readFlag_printFlag (b : Bool) (rest : Bytes) :
    readFlag (spell (printFlag b) ++ rest) = .ok (b, rest) := by
  cases b with
  | true =>
    have hw := restOfWord_append trueTail rest
    change (restOfWord trueTail (trueTail ++ rest)).map _ = _
    rw [hw]; rfl
  | false =>
    have hw := restOfWord_append falseTail rest
    change (restOfWord falseTail (falseTail ++ rest)).map _ = _
    rw [hw]; rfl

theorem readOptional_printNull {α : Type} (item : Reader α) (rest : Bytes) :
    readOptional item (spell printNull ++ rest) = .ok (none, rest) := by
  have hw := restOfWord_append nullTail rest
  change (restOfWord nullTail (nullTail ++ rest)).map _ = _
  rw [hw]; rfl

/-! ## Integers -/

/-- What may follow a value: nothing, or a byte that separates or closes. -/
def Closes (rest : Bytes) : Prop :=
  ∀ b ∈ rest.head?, b = comma ∨ b = closeBracket ∨ b = closeBrace

theorem closes_nil : Closes [] := by
  intro b h; cases h

/-- The decimal digits of a number, as bytes. -/
def digitBytes (n : Nat) : Bytes := spell (Nat.toDigits 10 n)

/-- One decimal digit, as a byte. -/
def digitByte (n : Nat) : UInt8 := UInt8.ofNat (48 + n)

theorem spell_digitChar : ∀ n : Fin 10, spell [Nat.digitChar n] = [digitByte n] := by decide

theorem isDigit_digitByte : ∀ n : Fin 10, isDigit (digitByte n) = true := by decide

theorem digitByte_toNat : ∀ n : Fin 10, (digitByte n).toNat - 0x30 = n.1 := by decide

theorem digitByte_eq_zero : ∀ n : Fin 10, digitByte n = 0x30 → n.1 = 0 := by decide

theorem digitBytes_lt {n : Nat} (h : n < 10) : digitBytes n = [digitByte n] := by
  rw [digitBytes, Nat.toDigits_of_lt_base h]
  exact spell_digitChar ⟨n, h⟩

theorem digitBytes_ge {n : Nat} (h : 10 ≤ n) :
    digitBytes n = digitBytes (n / 10) ++ [digitByte (n % 10)] := by
  rw [digitBytes, Nat.toDigits_eq_if (by decide), if_neg (by omega), spell_append]
  rw [spell_digitChar ⟨n % 10, by omega⟩, digitBytes]

theorem isDigit_of_mem_digitBytes (n : Nat) : ∀ b ∈ digitBytes n, isDigit b = true := by
  induction n using Nat.strongRecOn with
  | ind n ih =>
    intro b hb
    rcases Nat.lt_or_ge n 10 with h | h
    · rw [digitBytes_lt h, List.mem_singleton] at hb
      rw [hb]; exact isDigit_digitByte ⟨n, h⟩
    · rw [digitBytes_ge h, List.mem_append, List.mem_singleton] at hb
      rcases hb with hb | rfl
      · exact ih _ (by omega) b hb
      · exact isDigit_digitByte ⟨n % 10, by omega⟩

theorem digitsValue_digitBytes (n : Nat) : digitsValue 0 (digitBytes n) = n := by
  induction n using Nat.strongRecOn with
  | ind n ih =>
    rcases Nat.lt_or_ge n 10 with h | h
    · have := digitByte_toNat ⟨n, h⟩
      rw [digitBytes_lt h]
      simpa [digitsValue] using this
    · have hd := digitByte_toNat ⟨n % 10, by omega⟩
      have hv := ih (n / 10) (by omega)
      rw [digitBytes_ge h]
      simp only [digitsValue, List.foldl_append, List.foldl_cons, List.foldl_nil] at hv hd ⊢
      rw [hv, hd]
      omega

/-- Only zero begins with a zero. -/
theorem eq_zero_of_digitBytes {n : Nat} {bs : Bytes} (h : digitBytes n = 0x30 :: bs) : n = 0 := by
  induction n using Nat.strongRecOn generalizing bs with
  | ind n ih =>
    rcases Nat.lt_or_ge n 10 with hn | hn
    · rw [digitBytes_lt hn] at h
      exact digitByte_eq_zero ⟨n, hn⟩ (List.cons.inj h).1
    · rw [digitBytes_ge hn] at h
      cases hd : digitBytes (n / 10) with
      | nil =>
        have := digitsValue_digitBytes (n / 10)
        rw [hd] at this
        simp only [digitsValue, List.foldl_nil] at this
        omega
      | cons b ds =>
        rw [hd, List.cons_append, List.cons.injEq] at h
        have := ih (n / 10) (by omega) (hd.trans (by rw [h.1]))
        omega

theorem digitBytes_ne_nil (n : Nat) : digitBytes n ≠ [] := by
  rcases Nat.lt_or_ge n 10 with h | h
  · rw [digitBytes_lt h]; exact List.cons_ne_nil _ _
  · rw [digitBytes_ge h]; exact List.append_ne_nil_of_right_ne_nil _ (List.cons_ne_nil _ _)

theorem takeWhile_digitBytes (n : Nat) {rest : Bytes}
    (hr : ∀ b ∈ rest.head?, isDigit b = false) :
    (digitBytes n ++ rest).takeWhile isDigit = digitBytes n ∧
      (digitBytes n ++ rest).dropWhile isDigit = rest := by
  have hd := isDigit_of_mem_digitBytes n
  rw [List.takeWhile_append_of_pos hd, List.dropWhile_append_of_pos hd]
  cases rest with
  | nil => simp
  | cons b bs =>
    have hb : isDigit b = false := hr b rfl
    simp [hb]

theorem someDigits_digitBytes (atEnd : Fault) (n : Nat) {rest : Bytes}
    (hr : ∀ b ∈ rest.head?, isDigit b = false) :
    someDigits atEnd (digitBytes n ++ rest) = .ok (digitBytes n, rest) := by
  obtain ⟨ht, hd⟩ := takeWhile_digitBytes n hr
  unfold someDigits
  rw [ht, hd]
  split
  · exact absurd ‹_› (digitBytes_ne_nil n)
  · exact absurd ‹_› (digitBytes_ne_nil n)
  · rfl

theorem wholeDigits_digitBytes (atEnd : Fault) (n : Nat) {rest : Bytes}
    (hr : ∀ b ∈ rest.head?, isDigit b = false) :
    wholeDigits atEnd (digitBytes n ++ rest) = .ok (n, rest) := by
  have hs := someDigits_digitBytes atEnd n hr
  have hv := digitsValue_digitBytes n
  unfold wholeDigits
  rw [hs]
  split
  · next h => cases h
  · next h =>
    rw [Except.ok.injEq, Prod.mk.injEq] at h
    have hz := eq_zero_of_digitBytes h.1
    rw [hz, digitBytes_lt (by decide)] at h
    exact absurd h.1 (by simp)
  · next h =>
    cases h
    rw [hv]

/-- A number, written behind its sign, is read up to what closes it. -/
theorem numeralBody_digitBytes (negative : Bool) (n : Nat) {rest : Bytes} (hr : Closes rest) :
    numeralBody .early negative (digitBytes n ++ rest)
      = .ok (⟨negative, n, [], false, 0⟩, rest) := by
  have hw : wholeDigits .early (digitBytes n ++ rest) = .ok (n, rest) := by
    refine wholeDigits_digitBytes _ n fun b hb => ?_
    rcases hr b hb with rfl | rfl | rfl <;> rfl
  have he : exponentPart .early rest = .ok (none, rest) := by
    cases rest with
    | nil => rfl
    | cons b bs => rcases hr b rfl with rfl | rfl | rfl <;> rfl
  unfold numeralBody
  rw [hw]
  simp only [bind, Except.bind]
  split
  · next h =>
    rcases hr 0x2E rfl with h | h | h <;> exact absurd h (by decide)
  · rw [he]; rfl

theorem digitBytes_head (n : Nat) : ∃ b bs, digitBytes n = b :: bs ∧ isDigit b = true := by
  cases h : digitBytes n with
  | nil => exact absurd h (digitBytes_ne_nil n)
  | cons b bs => exact ⟨b, bs, rfl, isDigit_of_mem_digitBytes n b (h ▸ List.mem_cons_self)⟩

theorem spell_decimal (n : Int) :
    spell (decimal n) = if n < 0 then minus :: digitBytes n.natAbs else digitBytes n.natAbs := by
  unfold decimal
  split
  · rw [spell_ascii (by decide)]; rfl
  · rfl

/-- A written integer is read as a numeral with its sign and its digits. -/
theorem numeral_decimal (n : Int) {rest : Bytes} (hr : Closes rest) :
    numeral .early (spell (decimal n) ++ rest)
      = .ok (⟨decide (n < 0), n.natAbs, [], false, 0⟩, rest) := by
  rw [spell_decimal]
  by_cases h : n < 0
  · rw [if_pos h, List.cons_append, decide_eq_true h]
    exact numeralBody_digitBytes true n.natAbs hr
  · obtain ⟨b, bs, hb, hd⟩ := digitBytes_head n.natAbs
    have hm : b ≠ 0x2D := by rintro rfl; exact absurd hd (by decide)
    have hn := numeralBody_digitBytes false n.natAbs hr
    rw [if_neg h, decide_eq_false h]
    rw [hb, List.cons_append] at hn ⊢
    unfold numeral
    split
    · next heq => exact absurd (List.cons.inj heq).1 hm
    · exact hn

/-- Integers of 64 bits are far from the bound. -/
theorem lt_doubleBound {n : Nat} (h : n ≤ 9223372036854775808) : n < doubleBound := by
  have hb : 9223372036854775808 < doubleBound := by decide +kernel
  omega

/-- A plain numeral below the bound is no too large number. -/
theorem overflows_plain (negative : Bool) {n : Nat} (h : n < doubleBound) :
    Numeral.overflows ⟨negative, n, [], false, 0⟩ = false := by
  have hb : ¬ doubleBound ≤ n := by omega
  simp only [Numeral.overflows, digitsValue, List.foldl_nil, List.length_nil, Int.natCast_zero,
    Int.sub_self, Int.le_refl, if_true, Int.neg_zero, Int.toNat_zero, Nat.not_lt_zero, if_false]
  rw [Nat.pow_eq, Nat.pow_zero, Nat.div_one, decide_eq_false hb, ite_self]

theorem integer?_plain (n : Int) :
    Numeral.integer? ⟨decide (n < 0), n.natAbs, [], false, 0⟩ = some n := by
  simp only [Numeral.integer?]
  grind

theorem spell_decimal_head (n : Int) :
    ∃ b bs, spell (decimal n) = b :: bs ∧ (b == minus || isDigit b) = true := by
  rw [spell_decimal]
  split
  · exact ⟨minus, _, rfl, rfl⟩
  · obtain ⟨b, bs, hb, hd⟩ := digitBytes_head n.natAbs
    exact ⟨b, bs, hb, by rw [hd, Bool.or_true]⟩

theorem isSpace_eq_false_of_numeral {b : UInt8} (h : (b == minus || isDigit b) = true) :
    isSpace b = false := by
  by_cases hm : b = minus
  · subst hm; rfl
  · have hd : isDigit b = true := by simpa [hm] using h
    simp only [isDigit, Bool.and_eq_true, decide_eq_true_eq, UInt8.le_iff_toNat_le] at hd
    have h1 : (0x30 : UInt8).toNat = 48 := rfl
    simp only [isSpace, Bool.or_eq_false_iff, beq_eq_false_iff_ne]
    refine ⟨⟨⟨?_, ?_⟩, ?_⟩, ?_⟩ <;> rintro rfl <;> revert hd <;> decide

/-- A written integer within the bounds is read back. -/
theorem readWhole_printWhole {low high n : Int} (hl : low ≤ n) (hh : n ≤ high)
    (hn : n.natAbs < doubleBound) {rest : Bytes} (hr : Closes rest) :
    readWhole low high (spell (printWhole n) ++ rest) = .ok (n, rest) := by
  obtain ⟨b, bs, hb, hk⟩ := spell_decimal_head n
  have hnum := numeral_decimal n hr
  have hs := isSpace_eq_false_of_numeral hk
  unfold printWhole
  rw [hb, List.cons_append] at hnum ⊢
  simp only [readWhole, skipSpace, List.dropWhile_cons, hs, hk, if_true, hnum,
    overflows_plain _ hn, integer?_plain, Bool.false_eq_true, if_false]
  simp [hl, hh]

end SignOn.Json
