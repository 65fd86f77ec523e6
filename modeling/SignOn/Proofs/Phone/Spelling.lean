import SignOn.Phone
/-!
What a text must look like to pass as a phone. `accepts_iff` says it as a grammar: an optional
country part, an optional area part and a tail, one behind the other. From it follows where each
kind of character may stand, and what a spelling may lack of a number that can be dialed
(`dialable_iff`): each parenthesis of the area code is optional, and separators count as digits of
the tail, so that a text without any digit passes (`not_dialable_dashes`).
-/

namespace SignOn.Phone

open SignOn.Text

variable {cs rest : List Char} {p : Char → Bool} {c : Char}

/-! ## The grammar -/

/-- At most one character, which is of a kind. -/
def IsOptional (p : Char → Bool) (cs : List Char) : Prop := cs = [] ∨ ∃ c, p c = true ∧ cs = [c]

/-- A country part: the country code, and perhaps a separator behind it. -/
def IsCountry (cs : List Char) : Prop :=
  ∃ gap, IsOptional isSeparator gap ∧ (cs = '8' :: gap ∨ cs = '+' :: '7' :: gap)

/-- Three digits, each parenthesis optional. -/
def IsCode (cs : List Char) : Prop :=
  ∃ left a b c right, IsOptional (· == '(') left ∧
    (isDecimalDigit a = true ∧ isDecimalDigit b = true ∧ isDecimalDigit c = true) ∧
    IsOptional (· == ')') right ∧ cs = left ++ a :: b :: c :: right

/-- An area part: the area code, and perhaps a separator behind it. -/
def IsArea (cs : List Char) : Prop :=
  ∃ code gap, IsCode code ∧ IsOptional isSeparator gap ∧ cs = code ++ gap

theorem mem_afterOptional :
    rest ∈ afterOptional p cs ↔ ∃ gap, IsOptional p gap ∧ cs = gap ++ rest := by
  constructor
  · intro h
    cases cs with
    | nil => exact ⟨[], .inl rfl, (List.mem_singleton.1 h).symm⟩
    | cons c cs =>
      rw [afterOptional] at h
      split at h
      · next hc =>
        rcases List.mem_cons.1 h with rfl | h
        · exact ⟨[c], .inr ⟨c, hc, rfl⟩, rfl⟩
        · exact ⟨[], .inl rfl, (List.mem_singleton.1 h).symm⟩
      · exact ⟨[], .inl rfl, (List.mem_singleton.1 h).symm⟩
  · rintro ⟨gap, rfl | ⟨c, hc, rfl⟩, rfl⟩
    · cases cs with
      | nil => exact List.mem_singleton_self _
      | cons c cs =>
        rw [afterOptional]
        split
        · exact List.mem_cons_of_mem _ (List.mem_singleton_self _)
        · exact List.mem_singleton_self _
    · rw [List.singleton_append, afterOptional, if_pos hc]
      exact List.mem_cons_self

theorem mem_afterThreeDigits : rest ∈ afterThreeDigits cs ↔ ∃ a b c,
    (isDecimalDigit a = true ∧ isDecimalDigit b = true ∧ isDecimalDigit c = true) ∧
      cs = a :: b :: c :: rest := by
  unfold afterThreeDigits
  constructor
  · intro h
    split at h
    · next a b c cs =>
      split at h
      · next hd =>
        rw [Bool.and_eq_true, Bool.and_eq_true, and_assoc] at hd
        rw [List.mem_singleton.1 h]
        exact ⟨a, b, c, hd, rfl⟩
      · cases h
    · cases h
  · rintro ⟨a, b, c, ⟨ha, hb, hc⟩, rfl⟩
    simp [ha, hb, hc]

theorem mem_afterCountryCode :
    rest ∈ afterCountryCode cs ↔ cs = '8' :: rest ∨ cs = '+' :: '7' :: rest := by
  constructor
  · intro h
    unfold afterCountryCode at h
    split at h
    · exact .inl (List.mem_singleton.1 h ▸ rfl)
    · exact .inr (List.mem_singleton.1 h ▸ rfl)
    · cases h
  · rintro (rfl | rfl) <;> exact List.mem_singleton_self _

theorem mem_afterCountry :
    rest ∈ afterCountry cs ↔ ∃ country, (country = [] ∨ IsCountry country) ∧
      cs = country ++ rest := by
  simp only [afterCountry, List.mem_append, List.mem_flatMap, mem_afterCountryCode,
    mem_afterOptional, List.mem_singleton]
  constructor
  · rintro (⟨mid, hcode, gap, hgap, rfl⟩ | rfl)
    · rcases hcode with rfl | rfl
      · exact ⟨'8' :: gap, .inr ⟨gap, hgap, .inl rfl⟩, rfl⟩
      · exact ⟨'+' :: '7' :: gap, .inr ⟨gap, hgap, .inr rfl⟩, rfl⟩
    · exact ⟨[], .inl rfl, rfl⟩
  · rintro ⟨country, rfl | ⟨gap, hgap, rfl | rfl⟩, rfl⟩
    · exact .inr rfl
    · exact .inl ⟨gap ++ rest, .inl rfl, gap, hgap, rfl⟩
    · exact .inl ⟨gap ++ rest, .inr rfl, gap, hgap, rfl⟩

theorem mem_afterArea :
    rest ∈ afterArea cs ↔ ∃ area, (area = [] ∨ IsArea area) ∧ cs = area ++ rest := by
  simp only [afterArea, List.mem_append, List.mem_flatMap, mem_afterThreeDigits,
    mem_afterOptional, List.mem_singleton]
  constructor
  · rintro (⟨m₁, ⟨m₂, ⟨m₃, ⟨left, hleft, rfl⟩, a, b, c, hd, rfl⟩, right, hright, rfl⟩, gap, hgap,
      rfl⟩ | rfl)
    · exact ⟨left ++ a :: b :: c :: right ++ gap,
        .inr ⟨_, gap, ⟨left, a, b, c, right, hleft, hd, hright, rfl⟩, hgap, rfl⟩, by simp⟩
    · exact ⟨[], .inl rfl, rfl⟩
  · rintro ⟨area, rfl | ⟨code, gap, ⟨left, a, b, c, right, hleft, hd, hright, rfl⟩, hgap, rfl⟩,
      rfl⟩
    · exact .inr rfl
    · exact .inl ⟨gap ++ rest, ⟨right ++ (gap ++ rest), ⟨a :: b :: c :: (right ++ (gap ++ rest)),
        ⟨left, hleft, by simp⟩, a, b, c, hd, rfl⟩, right, hright, rfl⟩, gap, hgap, rfl⟩

/-- A spelling is a country part, an area part and a tail, the first two optional. -/
theorem accepts_iff : accepts cs = true ↔ ∃ country area tail,
    (country = [] ∨ IsCountry country) ∧ (area = [] ∨ IsArea area) ∧ isTail tail = true ∧
      cs = country ++ (area ++ tail) := by
  simp only [accepts, List.any_eq_true, mem_afterCountry, mem_afterArea]
  constructor
  · rintro ⟨_, ⟨country, hcountry, rfl⟩, tail, ⟨area, harea, rfl⟩, htail⟩
    exact ⟨country, area, tail, hcountry, harea, htail, rfl⟩
  · rintro ⟨country, area, tail, hcountry, harea, htail, rfl⟩
    exact ⟨_, ⟨country, hcountry, rfl⟩, tail, ⟨area, harea, rfl⟩, htail⟩

/-! ## Characters -/

theorem isTailChar_of_isDecimalDigit (h : isDecimalDigit c = true) : isTailChar c = true :=
  Bool.or_eq_true_iff.2 (.inl h)

theorem isTailChar_of_isSeparator (h : isSeparator c = true) : isTailChar c = true :=
  Bool.or_eq_true_iff.2 (.inr h)

/-- A digit is no other character. -/
theorem beq_of_isDecimalDigit {d : Char} (h : isDecimalDigit c = true)
    (hd : isDecimalDigit d = false) : (c == d) = false :=
  beq_false_of_ne fun he => by
    rw [he, hd] at h
    cases h

/-- A digit is no separator. -/
theorem isSeparator_of_isDecimalDigit (h : isDecimalDigit c = true) : isSeparator c = false := by
  rw [isSeparator, beq_of_isDecimalDigit h (by decide), beq_of_isDecimalDigit h (by decide),
    Bool.or_self]

/-- Nothing of a kind stands where another character comes first. -/
theorem IsOptional.eq_nil {gap more : List Char} (h : IsOptional p gap)
    (he : c :: rest = gap ++ more) (hc : p c = false) : gap = [] := by
  rcases h with rfl | ⟨x, hx, rfl⟩
  · rfl
  · rw [← (List.cons.inj he).1, hc] at hx
    cases hx

theorem IsOptional.all (h : IsOptional isSeparator cs) : cs.all isTailChar = true := by
  rcases h with rfl | ⟨c, hc, rfl⟩
  · rfl
  · rw [List.all_cons, isTailChar_of_isSeparator hc, List.all_nil, Bool.and_self]

theorem all_of_isTail (h : isTail cs = true) : cs.all isTailChar = true := by
  rw [isTail, Bool.and_eq_true] at h
  exact h.2

theorem length_of_isTail (h : isTail cs = true) : 7 ≤ cs.length ∧ cs.length ≤ 10 := by
  simp only [isTail, Bool.and_eq_true, decide_eq_true_eq] at h
  exact h.1

theorem isTail_iff : isTail cs = true ↔
    (7 ≤ cs.length ∧ cs.length ≤ 10) ∧ cs.all isTailChar = true := by
  simp only [isTail, Bool.and_eq_true, decide_eq_true_eq]

/-- Among digits and separators there is nothing else. -/
theorem not_mem_of_all (h : cs.all isTailChar = true) (hc : isTailChar c = false) : c ∉ cs :=
  fun hm => by
    rw [List.all_eq_true.1 h c hm] at hc
    cases hc

/-! ## What can be dialed -/

/-- How every spelling is laid out: at most one plus, which comes first, and at most one opening and
one closing parenthesis, both around the same three digits. All else is digits and separators. -/
def IsLaidOut (cs : List Char) : Prop :=
  ∃ plus front code back, IsOptional (· == '+') plus ∧ front.all isTailChar = true ∧
    (code = [] ∨ IsCode code) ∧ back.all isTailChar = true ∧
    cs = plus ++ (front ++ (code ++ back))

/-- Three digits in parentheses. -/
def IsBracketed (cs : List Char) : Prop :=
  ∃ a b c, (isDecimalDigit a = true ∧ isDecimalDigit b = true ∧ isDecimalDigit c = true) ∧
    cs = ['(', a, b, c, ')']

/-- A number that can be dialed: at least seven digits, and besides them separators, at most one
plus, which comes first, and at most one pair of parentheses around three of the digits. -/
structure IsDialable (cs : List Char) : Prop where
  layout : ∃ plus front code back, IsOptional (· == '+') plus ∧ front.all isTailChar = true ∧
    (code = [] ∨ IsBracketed code) ∧ back.all isTailChar = true ∧
    cs = plus ++ (front ++ (code ++ back))
  digits : 7 ≤ cs.countP isDecimalDigit

theorem IsCountry.layout (h : cs = [] ∨ IsCountry cs) : ∃ plus front,
    IsOptional (· == '+') plus ∧ front.all isTailChar = true ∧ cs = plus ++ front := by
  rcases h with rfl | ⟨gap, hgap, rfl | rfl⟩
  · exact ⟨[], [], .inl rfl, rfl, rfl⟩
  · exact ⟨[], '8' :: gap, .inl rfl, by rw [List.all_cons, hgap.all]; rfl, rfl⟩
  · exact ⟨['+'], '7' :: gap, .inr ⟨'+', rfl, rfl⟩, by rw [List.all_cons, hgap.all]; rfl, rfl⟩

theorem IsArea.layout (h : cs = [] ∨ IsArea cs) : ∃ code gap,
    (code = [] ∨ IsCode code) ∧ gap.all isTailChar = true ∧ cs = code ++ gap := by
  rcases h with rfl | ⟨code, gap, hcode, hgap, rfl⟩
  · exact ⟨[], [], .inl rfl, rfl, rfl⟩
  · exact ⟨code, gap, .inr hcode, hgap.all, rfl⟩

theorem isLaidOut_of_accepts (h : accepts cs = true) : IsLaidOut cs := by
  obtain ⟨country, area, tail, hcountry, harea, htail, rfl⟩ := accepts_iff.1 h
  obtain ⟨plus, front, hplus, hfront, rfl⟩ := IsCountry.layout hcountry
  obtain ⟨code, gap, hcode, hgap, rfl⟩ := IsArea.layout harea
  refine ⟨plus, front, code, gap ++ tail, hplus, hfront, hcode, ?_, by simp⟩
  rw [List.all_append, hgap, all_of_isTail htail, Bool.and_self]

/-- Parentheses stand in the area code alone. -/
theorem count_layout {plus front code back : List Char} (hplus : IsOptional (· == '+') plus)
    (hfront : front.all isTailChar = true) (hback : back.all isTailChar = true)
    (hc : isTailChar c = false) (hne : c ≠ '+') :
    (plus ++ (front ++ (code ++ back))).count c = code.count c := by
  have hnone : plus.count c = 0 := by
    rcases hplus with rfl | ⟨x, hx, rfl⟩
    · rfl
    · rw [beq_iff_eq.1 hx]
      exact List.count_eq_zero.2 fun hm => hne (List.mem_singleton.1 hm)
  rw [List.count_append, List.count_append, List.count_append, hnone,
    List.count_eq_zero.2 (not_mem_of_all hfront hc), List.count_eq_zero.2 (not_mem_of_all hback hc)]
  omega

/-- A single parenthesis beside three digits is no separator, and no pair. -/
theorem not_paired {x : Char} (hx : isTailChar x = false) (hm : x ∈ cs) (hl : cs.length = 4) :
    ¬ (cs.all isTailChar = true ∨ IsBracketed cs) := by
  rintro (hall | ⟨a, b, c, -, rfl⟩)
  · exact not_mem_of_all hall hx hm
  · cases hl

/-- An area code with as many opening as closing parentheses has a pair of them, or none. -/
theorem IsCode.paired_iff (h : IsCode cs) :
    cs.count '(' = cs.count ')' ↔ cs.all isTailChar = true ∨ IsBracketed cs := by
  obtain ⟨left, a, b, c, right, hleft, hd, hright, rfl⟩ := h
  have hdigits : [a, b, c].all isTailChar = true := by
    simp [isTailChar_of_isDecimalDigit, hd]
  have hopen := List.count_eq_zero.2 (not_mem_of_all hdigits (c := '(') (by decide))
  have hclose := List.count_eq_zero.2 (not_mem_of_all hdigits (c := ')') (by decide))
  have hcount (x : Char) : (left ++ a :: b :: c :: right).count x
      = left.count x + [a, b, c].count x + right.count x := by
    rw [← List.count_append, ← List.count_append, List.append_assoc]
    rfl
  rw [hcount, hcount, hopen, hclose]
  rcases hleft with rfl | ⟨l, hl, rfl⟩ <;> rcases hright with rfl | ⟨r, hr, rfl⟩
  · exact ⟨fun _ => .inl hdigits, fun _ => rfl⟩
  · obtain rfl := beq_iff_eq.1 hr
    exact iff_of_false (by decide) (not_paired (x := ')') (by decide) (by simp) rfl)
  · obtain rfl := beq_iff_eq.1 hl
    exact iff_of_false (by decide) (not_paired (x := '(') (by decide) (by simp) rfl)
  · obtain rfl := beq_iff_eq.1 hl
    obtain rfl := beq_iff_eq.1 hr
    exact ⟨fun _ => .inr ⟨a, b, c, hd, rfl⟩, fun _ => rfl⟩

/-- In a number that can be dialed, parentheses come in pairs. -/
theorem IsDialable.paired (h : IsDialable cs) : cs.count '(' = cs.count ')' := by
  obtain ⟨plus, front, code, back, hplus, hfront, hcode, hback, rfl⟩ := h.layout
  rw [count_layout hplus hfront hback (by decide) (by decide),
    count_layout hplus hfront hback (by decide) (by decide)]
  rcases hcode with rfl | ⟨a, b, c, hd, rfl⟩
  · rfl
  · exact (IsCode.paired_iff ⟨['('], a, b, c, [')'], .inr ⟨_, rfl, rfl⟩, hd, .inr ⟨_, rfl, rfl⟩,
      rfl⟩).2 (.inr ⟨a, b, c, hd, rfl⟩)

/-- With seven digits and paired parentheses, the layout of a spelling is that of a number. -/
theorem IsLaidOut.dialable (h : IsLaidOut cs) (hdigits : 7 ≤ cs.countP isDecimalDigit)
    (hpaired : cs.count '(' = cs.count ')') : IsDialable cs := by
  refine ⟨?_, hdigits⟩
  obtain ⟨plus, front, code, back, hplus, hfront, hcode, hback, rfl⟩ := h
  rw [count_layout hplus hfront hback (by decide) (by decide),
    count_layout hplus hfront hback (by decide) (by decide)] at hpaired
  rcases hcode with rfl | hcode
  · exact ⟨plus, front, [], back, hplus, hfront, .inl rfl, hback, rfl⟩
  · rcases hcode.paired_iff.1 hpaired with hall | hbracketed
    · -- Without parentheses, the area code is a part of the digits in front.
      refine ⟨plus, front ++ code, [], back, hplus, ?_, .inl rfl, hback, ?_⟩
      · rw [List.all_append, hfront, hall, Bool.and_self]
      · rw [List.nil_append, List.append_assoc]
    · exact ⟨plus, front, code, back, hplus, hfront, .inr hbracketed, hback, rfl⟩

/-- A spelling can be dialed exactly if it has seven digits and its parentheses come in pairs. All
else that a number needs is so in every spelling. -/
theorem dialable_iff {phone : String} (h : isValid phone = true) :
    IsLaidOut phone.toList ∧ (IsDialable phone.toList ↔
      7 ≤ phone.toList.countP isDecimalDigit ∧ phone.toList.count '(' = phone.toList.count ')') :=
  have hlaid := isLaidOut_of_accepts h
  ⟨hlaid, fun hd => ⟨hd.digits, hd.paired⟩,
    fun ⟨hdigits, hpaired⟩ => hlaid.dialable hdigits hpaired⟩

theorem dialable_iff_bracketed :
    isValid "+7 (708) 226-06-29" = true ∧ IsDialable "+7 (708) 226-06-29".toList :=
  have h : isValid "+7 (708) 226-06-29" = true := by decide +kernel
  ⟨h, (dialable_iff h).2.2 ⟨by decide +kernel, by decide +kernel⟩⟩

/-- A text without a digit passes, and so does one with half of a pair of parentheses. -/
theorem not_dialable_dashes :
    (isValid "-------" = true ∧ ¬ IsDialable "-------".toList) ∧
      isValid "(7082260629" = true ∧ ¬ IsDialable "(7082260629".toList := by
  refine ⟨⟨by decide +kernel, fun h => ?_⟩, by decide +kernel, fun h => ?_⟩
  · exact absurd h.digits (by decide +kernel)
  · exact absurd h.paired (by decide +kernel)

end SignOn.Phone
