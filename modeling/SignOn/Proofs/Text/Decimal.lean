import SignOn.Text.Blank
import SignOn.Text.Number
/-!
Integers in decimal are read back: no blank stands around them, and their digits spell the number.
-/

namespace SignOn.Text

theorem natural?_toDigits (n : Nat) : natural? (Nat.toDigits 10 n) = some n := by
  have hdigits : (Nat.toDigits 10 n).all (fun c => '0' ≤ c && c ≤ '9') = true := by
    rw [List.all_eq_true]
    intro c hc
    exact Nat.isDigit_of_mem_toDigits (by decide) (by decide) hc
  have hne : (Nat.toDigits 10 n).isEmpty = false := by
    rw [List.isEmpty_eq_false_iff]
    exact Nat.toDigits_ne_nil
  have hvalue : (Nat.toDigits 10 n).foldl (fun n c => 10 * n + (c.toNat - 48)) 0 = n :=
    Nat.ofDigitChars_toDigits (by decide) (by decide)
  rw [natural?, hdigits, hne, hvalue]
  rfl

theorem isBlank_of_isDigit {c : Char} (h : c.isDigit = true) : isBlank c = false := by
  simp only [Char.isDigit, ge_iff_le, UInt32.le_iff_toNat_le, Bool.and_eq_true,
    decide_eq_true_eq] at h
  have hnat : c.toNat = c.val.toNat := rfl
  have hzero : '0'.val.toNat = 48 := rfl
  have hnine : '9'.val.toNat = 57 := rfl
  simp [isBlank]
  omega

/-- A number in decimal has no blanks in it. -/
theorem isBlank_of_mem_decimal {n : Int} {c : Char} (h : c ∈ decimal n) : isBlank c = false := by
  have hdigit (hc : c ∈ Nat.toDigits 10 n.natAbs) : isBlank c = false :=
    isBlank_of_isDigit (Nat.isDigit_of_mem_toDigits (by decide) (by decide) hc)
  unfold decimal at h
  split at h
  · rcases List.mem_cons.1 h with rfl | hc
    · decide
    · exact hdigit hc
  · exact hdigit h

theorem trim_eq_self {cs : List Char} (h : ∀ c ∈ cs, isBlank c = false) : trim cs = cs := by
  have hstart (ds : List Char) (hd : ∀ c ∈ ds, isBlank c = false) : ds.dropWhile isBlank = ds := by
    cases ds with
    | nil => rfl
    | cons c ds => exact List.dropWhile_cons_of_neg (by rw [hd c List.mem_cons_self]; decide)
  rw [trim, trimStart, hstart cs h, trimEnd, hstart _ (fun c hc => h c (List.mem_reverse.1 hc)),
    List.reverse_reverse]

theorem int64?_toDigits (n : Nat) : int64? (Nat.toDigits 10 n) = inInt64? n := by
  have hnatural := natural?_toDigits n
  have hdigit : ∀ c ∈ Nat.toDigits 10 n, c.isDigit = true := fun c hc =>
    Nat.isDigit_of_mem_toDigits (by decide) (by decide) hc
  generalize Nat.toDigits 10 n = cs at hnatural hdigit
  unfold int64?
  split
  · exact absurd (hdigit '-' List.mem_cons_self) (by decide)
  · exact absurd (hdigit '+' List.mem_cons_self) (by decide)
  · rw [hnatural]; rfl

/-- An integer of 64 bits is read back. -/
theorem int64?_decimal {n : Int} (hl : -9223372036854775808 ≤ n) (hh : n ≤ 9223372036854775807) :
    int64? (decimal n) = some n := by
  have hfits : inInt64? n = some n := by
    rw [inInt64?, if_pos]
    simp [hl, hh]
  unfold decimal
  split
  · next hneg =>
    have habs : -(n.natAbs : Int) = n := by omega
    rw [int64?, natural?_toDigits, Option.bind_some, habs, hfits]
  · next hneg =>
    have habs : (n.natAbs : Int) = n := by omega
    rw [int64?_toDigits, habs, hfits]

end SignOn.Text
