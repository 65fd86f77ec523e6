import SignOn.Http.Reference
import SignOn.Proofs.Text.Percent
import SignOn.Proofs.Text.Splitting
/-!
Fields can be added to a reference. Whatever their values are, what is written is a reference again:
the values are escaped, and what is added goes into the query or the fragment.
-/

namespace SignOn.Http

open SignOn.Text

/-! ## What is written -/

theorem isQueryChar_of_unreserved {c : Char} (h : Percent.isUnreserved c = true) :
    Target.isQueryChar c = true := by
  simp [Target.isQueryChar, Target.isPathChar, h]

/-- A value is written with characters of a query. -/
theorem isQueryChar_encodeValue (value : String) :
    ∀ c ∈ Percent.encodeValue value, Target.isQueryChar c = true := by
  intro c hc
  rcases Percent.mem_encodeValue hc with hplain | rfl
  · exact isQueryChar_of_unreserved hplain
  · rfl

/-- A name that needs no escape. -/
def IsPlainName (name : String) : Prop := ∀ c ∈ name.toList, Target.isQueryChar c = true

theorem isQueryChar_join {pieces : List (List Char)}
    (h : ∀ piece ∈ pieces, ∀ c ∈ piece, Target.isQueryChar c = true) :
    ∀ c ∈ Query.join pieces, Target.isQueryChar c = true := by
  fun_induction Query.join pieces with
  | case1 => exact fun c hc => absurd hc List.not_mem_nil
  | case2 piece => exact h piece List.mem_cons_self
  | case3 piece rest _ ih =>
    intro c hc
    rcases List.mem_append.1 hc with hc | hc
    · exact h piece List.mem_cons_self c hc
    · rcases List.mem_cons.1 hc with rfl | hc
      · rfl
      · exact ih (fun piece hp => h piece (List.mem_cons_of_mem _ hp)) c hc

theorem isQueryChar_write {fields : List Field} (h : ∀ field ∈ fields, IsPlainName field.1) :
    ∀ c ∈ Query.write fields, Target.isQueryChar c = true := by
  refine isQueryChar_join fun piece hp c hc => ?_
  obtain ⟨field, hfield, rfl⟩ := List.mem_map.1 hp
  rcases List.mem_append.1 hc with hc | hc
  · exact h field hfield c hc
  · rcases List.mem_cons.1 hc with rfl | hc
    · rfl
    · exact isQueryChar_encodeValue _ c hc

/-! ## Where it is written -/

namespace Reference

/-- What stands before the query, the query, and the fragment. -/
def parts (cs : List Char) : List Char × List Char × List Char :=
  let (front, fragment) := (splitAtFirst? (· == '#') cs).getD (cs, [])
  let (front, query) := (splitAtFirst? (· == '?') front).getD (front, [])
  (front, query, fragment)

variable {cs more : List Char}

/-- Behind a query or a fragment, more of it may follow; and a query may be begun. -/
theorem parts_append (h : ∀ c ∈ more, Target.isQueryChar c = true)
    (hquery : '?' ∉ cs → ∃ rest, more = '?' :: rest) :
    (parts (cs ++ more)).1 = (parts cs).1 ∧
      (∀ c ∈ (parts (cs ++ more)).2.1, c ∈ (parts cs).2.1 ∨ c ∈ more) ∧
      ∀ c ∈ (parts (cs ++ more)).2.2, c ∈ (parts cs).2.2 ∨ c ∈ more := by
  cases hfragment : splitAtFirst? (· == '#') cs with
  | some found =>
    have hsplit := splitAtFirst?_of_some hfragment more
    simp only [parts, hfragment, hsplit, Option.getD_some]
    exact ⟨trivial, fun c hc => .inl hc, fun c hc => List.mem_append.1 hc⟩
  | none =>
    have hmore : ∀ c ∈ more, (c == '#') = false := by
      intro c hc
      rw [beq_eq_false_iff_ne]
      rintro rfl
      cases h _ hc
    have hnone : splitAtFirst? (· == '#') (cs ++ more) = none := by
      refine splitAtFirst?_eq_none_iff.2 fun c hc => ?_
      rcases List.mem_append.1 hc with hc | hc
      · exact splitAtFirst?_eq_none_iff.1 hfragment c hc
      · exact hmore c hc
    cases hbegun : splitAtFirst? (· == '?') cs with
    | some found =>
      have hsplit := splitAtFirst?_of_some hbegun more
      simp only [parts, hfragment, hnone, hbegun, hsplit, Option.getD_some, Option.getD_none]
      exact ⟨trivial, fun c hc => List.mem_append.1 hc, fun c hc => .inl hc⟩
    | none =>
      have hfree : ∀ c ∈ cs, (c == '?') = false := splitAtFirst?_eq_none_iff.1 hbegun
      obtain ⟨rest, rfl⟩ := hquery fun hin => by cases hfree _ hin
      have hsplit := splitAtFirst?_append (p := (· == '?')) (c := '?') rfl hfree rest
      simp only [parts, hfragment, hnone, hbegun, hsplit, Option.getD_some, Option.getD_none]
      exact ⟨trivial, fun c hc => .inr (List.mem_cons_of_mem _ hc), fun c hc => .inl hc⟩

/-- Fields are written into the query, or into the fragment if there is one. -/
theorem parts_withFields (url : String) {fields : List Field}
    (hnames : ∀ field ∈ fields, IsPlainName field.1) :
    (parts (withFields url fields).toList).1 = (parts url.toList).1 ∧
      (∀ c ∈ (parts (withFields url fields).toList).2.1,
        c ∈ (parts url.toList).2.1 ∨ Target.isQueryChar c = true) ∧
      ∀ c ∈ (parts (withFields url fields).toList).2.2,
        c ∈ (parts url.toList).2.2 ∨ Target.isQueryChar c = true := by
  generalize hmore : (if url.toList.contains '?' then '&' else '?') :: Query.write fields = more
  have hplain : ∀ c ∈ more, Target.isQueryChar c = true := by
    intro c hc
    rw [← hmore] at hc
    rcases List.mem_cons.1 hc with rfl | hc
    · split <;> rfl
    · exact isQueryChar_write hnames c hc
  have hbegins : '?' ∉ url.toList → ∃ rest, more = '?' :: rest := by
    intro hnone
    rw [← hmore, if_neg (by simpa using hnone)]
    exact ⟨_, rfl⟩
  have htext : (withFields url fields).toList = url.toList ++ more := by
    rw [withFields, String.toList_ofList, ← hmore]
  obtain ⟨hfront, hquery, hfragment⟩ := parts_append hplain hbegins
  rw [htext]
  exact ⟨hfront, fun c hc => (hquery c hc).imp_right (hplain c),
    fun c hc => (hfragment c hc).imp_right (hplain c)⟩

end Reference
end SignOn.Http
