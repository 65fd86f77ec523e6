import SignOn.Phone
/-!
Phones are not mistaken for emails: a phone has no at sign, neither as it is spelled nor as it is
stored.
-/

namespace SignOn

open SignOn.Text

namespace Phone

variable {cs rest : List Char}

/-- What is left out in front of a remainder is no at sign. -/
def Keeps (cs rest : List Char) : Prop := '@' ∈ cs → '@' ∈ rest

theorem Keeps.cons {c : Char} (hc : c ≠ '@') (h : Keeps cs rest) : Keeps (c :: cs) rest := fun hm =>
  h ((List.mem_cons.1 hm).resolve_left hc.symm)

theorem keeps_afterOptional {p : Char → Bool} (hp : p '@' = false)
    (h : rest ∈ afterOptional p cs) : Keeps cs rest := by
  cases cs with
  | nil => exact fun hm => absurd hm List.not_mem_nil
  | cons c cs =>
    rw [afterOptional] at h
    split at h
    · next hc =>
      have hne : c ≠ '@' := by
        rintro rfl
        rw [hp] at hc
        cases hc
      rcases List.mem_cons.1 h with rfl | h
      · exact Keeps.cons hne id
      · exact List.mem_singleton.1 h ▸ id
    · exact List.mem_singleton.1 h ▸ id

theorem keeps_afterThreeDigits (h : rest ∈ afterThreeDigits cs) : Keeps cs rest := by
  have hdigit {c : Char} (hc : isDecimalDigit c = true) : c ≠ '@' := by
    rintro rfl
    exact absurd hc (by decide)
  unfold afterThreeDigits at h
  split at h
  · split at h
    · next hdigits =>
      simp only [Bool.and_eq_true] at hdigits
      rw [List.mem_singleton.1 h]
      exact .cons (hdigit hdigits.1.1) (.cons (hdigit hdigits.1.2) (.cons (hdigit hdigits.2) id))
    · cases h
  · cases h

theorem keeps_afterCountry (h : rest ∈ afterCountry cs) : Keeps cs rest := by
  rcases List.mem_append.1 h with h | h
  · obtain ⟨mid, hmid, hrest⟩ := List.mem_flatMap.1 h
    have hseparated := keeps_afterOptional (by decide) hrest
    unfold afterCountryCode at hmid
    split at hmid
    · exact .cons (by decide) (List.mem_singleton.1 hmid ▸ hseparated)
    · exact .cons (by decide) (.cons (by decide) (List.mem_singleton.1 hmid ▸ hseparated))
    · cases hmid
  · exact List.mem_singleton.1 h ▸ id

theorem keeps_afterArea (h : rest ∈ afterArea cs) : Keeps cs rest := by
  rcases List.mem_append.1 h with h | h
  · obtain ⟨a, h, hrest⟩ := List.mem_flatMap.1 h
    obtain ⟨b, h, ha⟩ := List.mem_flatMap.1 h
    obtain ⟨c, h, hb⟩ := List.mem_flatMap.1 h
    exact keeps_afterOptional (by decide) hrest ∘ keeps_afterOptional (by decide) ha ∘
      keeps_afterThreeDigits hb ∘ keeps_afterOptional (by decide) h
  · exact List.mem_singleton.1 h ▸ id

/-- A spelling of a phone has no at sign. -/
theorem at_not_mem_of_accepts (h : accepts cs = true) : '@' ∉ cs := by
  obtain ⟨mid, hmid, h⟩ := List.any_eq_true.1 h
  obtain ⟨tail, htail, h⟩ := List.any_eq_true.1 h
  intro hm
  have hlast := keeps_afterArea htail (keeps_afterCountry hmid hm)
  simp only [isTail, Bool.and_eq_true] at h
  exact absurd (List.all_eq_true.1 h.2 _ hlast) (by decide)

/-- Storing a phone brings no new character in, except for a seven. -/
theorem mem_of_mem_normalForm {c : Char} (h : c ∈ normalForm cs) : c ∈ cs ∨ c = '7' := by
  unfold normalForm at h
  split at h
  · exact .inl h
  · split at h
    · exact .inl (List.mem_cons_of_mem _ h)
    · split at h
      · rcases List.mem_cons.1 h with rfl | h
        · exact .inr rfl
        · exact .inl h
      · exact .inl h
    · split at h
      · rcases List.mem_cons.1 h with rfl | h
        · exact .inr rfl
        · exact .inl (List.mem_cons_of_mem _ h)
      · exact .inl h
    · exact .inl h

/-- A stored phone has no at sign. -/
theorem at_not_mem_normalize {phone : String} (h : isValid phone = true) :
    '@' ∉ (normalize phone).toList := by
  rw [normalize, String.toList_ofList]
  intro hm
  rcases mem_of_mem_normalForm hm with hm | hm
  · exact at_not_mem_of_accepts h hm
  · exact absurd hm (by decide)

end Phone
end SignOn
