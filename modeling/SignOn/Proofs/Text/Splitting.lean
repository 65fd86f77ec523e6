import SignOn.Text.Blank
/-!
Texts that are split at a character.
-/

namespace SignOn.Text

variable {p : Char → Bool}

theorem splitAtFirst?_append {c : Char} (hc : p c = true) {as : List Char}
    (ha : ∀ a ∈ as, p a = false) (bs : List Char) :
    splitAtFirst? p (as ++ c :: bs) = some (as, bs) := by
  induction as with
  | nil => simp [splitAtFirst?, hc]
  | cons a as ih =>
    have h := ih fun x hx => ha x (List.mem_cons_of_mem _ hx)
    simp [splitAtFirst?, ha a List.mem_cons_self, h]

theorem splitAtLast?_append {c : Char} (hc : p c = true) {bs : List Char}
    (hb : ∀ b ∈ bs, p b = false) (as : List Char) :
    splitAtLast? p (as ++ c :: bs) = some (as, bs) := by
  have hr : ∀ b ∈ bs.reverse, p b = false := fun b h => hb b (List.mem_reverse.1 h)
  have h := splitAtFirst?_append hc hr as.reverse
  rw [splitAtLast?, List.reverse_append, List.reverse_cons, List.append_assoc,
    List.singleton_append, h]
  simp

theorem isSome_splitAtFirst? (c : Char) (cs : List Char) :
    (splitAtFirst? (· == c) cs).isSome = cs.contains c := by
  induction cs with
  | nil => rfl
  | cons d cs ih =>
    rw [splitAtFirst?, List.contains_cons, BEq.comm (a := c), ← ih]
    cases d == c with
    | true => rfl
    | false => rw [if_neg Bool.false_ne_true, Option.isSome_map, Bool.false_or]

/-- What follows belongs to the second part. -/
theorem splitAtFirst?_of_some {as : List Char} {parts : List Char × List Char}
    (h : splitAtFirst? p as = some parts) (bs : List Char) :
    splitAtFirst? p (as ++ bs) = some (parts.1, parts.2 ++ bs) := by
  induction as generalizing parts with
  | nil => cases h
  | cons a as ih =>
    rw [splitAtFirst?] at h
    rw [List.cons_append, splitAtFirst?]
    split at h
    · next ha =>
      cases h
      rw [if_pos ha]
    · next ha =>
      obtain ⟨rest, hrest, rfl⟩ := Option.map_eq_some_iff.1 h
      rw [if_neg ha, ih hrest]
      rfl

/-! ## Pieces -/

theorem pieces_ne_nil (cs : List Char) : pieces p cs ≠ [] := by
  cases cs with
  | nil => exact List.cons_ne_nil _ _
  | cons c cs =>
    rw [pieces]
    split
    · exact List.cons_ne_nil _ _
    · split <;> exact List.cons_ne_nil _ _

/-- A separator ends a piece, and the next one begins. -/
theorem pieces_append {c : Char} (hc : p c = true) (as bs : List Char) :
    pieces p (as ++ c :: bs) = pieces p as ++ pieces p bs := by
  induction as with
  | nil => simp [pieces, hc]
  | cons a as ih =>
    obtain ⟨first, rest, hfirst⟩ := List.exists_cons_of_ne_nil (pieces_ne_nil (p := p) as)
    rw [List.cons_append, pieces, pieces, ih, hfirst]
    split <;> rfl

/-- What has no separator is one piece. -/
theorem pieces_of_all_not {cs : List Char} (h : ∀ c ∈ cs, p c = false) : pieces p cs = [cs] := by
  induction cs with
  | nil => rfl
  | cons c cs ih =>
    rw [pieces, ih fun d hd => h d (List.mem_cons_of_mem _ hd), h c List.mem_cons_self]
    rfl

end SignOn.Text
