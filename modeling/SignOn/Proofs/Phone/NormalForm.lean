import SignOn.Proofs.Keyspace
import SignOn.Proofs.Phone.Spelling
import SignOn.Proofs.Store.Accounts
import SignOn.Proofs.Text.Spelling
/-!
The form under which a phone is stored. Normalizing applies one of three rules at most once
(`Rewrites`), and none of them removes a separator. So the spellings of a number share a form
exactly if they have no separators (`normalize_eq_iff`). The rules may feed each other, since what
stands behind a plus may look like a local number: `settled_iff` says for which spellings the form
passes as a phone and is stored as it is.
-/

namespace SignOn.Phone

open SignOn.Text

variable {cs ds rest : List Char} {c : Char}

/-! ## The rules -/

/-- What one of the rules makes of a text. -/
inductive Rewrites : List Char → List Char → Prop where
  /-- A plus goes. -/
  | international (c : Char) (rest : List Char) : Rewrites ('+' :: c :: rest) (c :: rest)
  /-- A local number gets the country code. -/
  | national {rest : List Char} (h : byteLength rest = 9) :
    Rewrites ('7' :: rest) ('7' :: '7' :: rest)
  /-- The trunk code becomes the country code. -/
  | trunk {rest : List Char} (h : byteLength rest = 9) :
    Rewrites ('8' :: '7' :: rest) ('7' :: '7' :: rest)

theorem normalForm_of_rewrites (h : Rewrites cs ds) : normalForm cs = ds := by
  have hplus : ('+').utf8Size = 1 := rfl
  have hseven : ('7').utf8Size = 1 := rfl
  have height : ('8').utf8Size = 1 := rfl
  cases h with
  | international c rest =>
    have hc := c.utf8Size_pos
    rw [normalForm, if_neg (by simp only [byteLength_cons]; omega)]
  | national h =>
    rw [normalForm, if_neg (by simp only [byteLength_cons]; omega)]
    exact if_pos (by simp only [byteLength_cons]; omega)
  | trunk h =>
    rw [normalForm, if_neg (by simp only [byteLength_cons]; omega)]
    exact if_pos (by simp only [byteLength_cons]; omega)

/-- Where no rule applies, the text stays as it is. -/
theorem normalForm_of_not_rewrites (h : ∀ ds, ¬ Rewrites cs ds) : normalForm cs = cs := by
  have hseven : ('7').utf8Size = 1 := rfl
  have height : ('8').utf8Size = 1 := rfl
  unfold normalForm
  split
  · rfl
  · next hlong =>
    split
    · next rest =>
      cases rest with
      | nil => exact absurd (by decide) hlong
      | cons c rest => exact absurd (.international c rest) (h _)
    · next rest =>
      refine if_neg fun hten => ?_
      have hnine : byteLength rest = 9 := by
        simp only [byteLength_cons] at hten
        omega
      exact h _ (.national hnine)
    · next rest =>
      refine if_neg fun heleven => ?_
      have hnine : byteLength rest = 9 := by
        simp only [byteLength_cons] at heleven
        omega
      exact h _ (.trunk hnine)
    · rfl

/-- A text is rewritten by one rule, or stays as it is. -/
theorem normalForm_cases (cs : List Char) :
    Rewrites cs (normalForm cs) ∨ (normalForm cs = cs ∧ ∀ ds, ¬ Rewrites cs ds) := by
  by_cases h : ∃ ds, Rewrites cs ds
  · obtain ⟨ds, hds⟩ := h
    exact .inl (normalForm_of_rewrites hds ▸ hds)
  · have hno : ∀ ds, ¬ Rewrites cs ds := fun ds hds => h ⟨ds, hds⟩
    exact .inr ⟨normalForm_of_not_rewrites hno, hno⟩

theorem Rewrites.ne (h : Rewrites cs ds) : ds ≠ cs := by
  intro he
  cases h with
  | international c rest => simpa using congrArg List.length he
  | national h => simpa using congrArg List.length he
  | trunk h => cases he

/-- A text is its own form exactly if no rule applies to it. -/
theorem normalForm_eq_self_iff : normalForm cs = cs ↔ ∀ ds, ¬ Rewrites cs ds := by
  refine ⟨fun h ds hds => hds.ne ?_, normalForm_of_not_rewrites⟩
  rw [← normalForm_of_rewrites hds, h]

/-! ## One number, several spellings -/

/-- A character that only sets digits apart. -/
def isMark (c : Char) : Bool := isSeparator c || c == '(' || c == ')'

/-- A text without such characters. -/
def bare (cs : List Char) : List Char := cs.filter (!isMark ·)

/-- A text that has none. -/
def IsPlain (cs : List Char) : Prop := ∀ c ∈ cs, isMark c = false

/-- The ten digits of a national number, the first of them a seven. -/
structure IsNational (number : List Char) : Prop where
  length : number.length = 10
  first : number.head? = some '7'
  digits : ∀ c ∈ number, c.isDigit = true

/-- A text spells a national number: with `8` or `+7` in front or alone, and set apart anywhere. -/
def Spells (cs number : List Char) : Prop :=
  bare cs = number ∨ bare cs = '8' :: number ∨ bare cs = '+' :: '7' :: number

variable {number : List Char}

theorem bare_eq_self_iff : bare cs = cs ↔ IsPlain cs := by
  simp only [bare, List.filter_eq_self, Bool.not_eq_true', IsPlain]

instance : Decidable (IsPlain cs) := decidable_of_iff _ bare_eq_self_iff

theorem length_bare_lt (h : ¬ IsPlain cs) : (bare cs).length < cs.length := by
  refine Nat.lt_of_le_of_ne (List.length_filter_le _ _) fun he => h ?_
  exact bare_eq_self_iff.1 (List.filter_sublist.eq_of_length he)

theorem bare_cons (hc : isMark c = false) (cs : List Char) : bare (c :: cs) = c :: bare cs :=
  List.filter_cons_of_pos (by rw [hc]; rfl)

/-- Behind its first digit, a national number is nine bytes long. -/
theorem IsNational.split (h : IsNational number) :
    ∃ rest, number = '7' :: rest ∧ byteLength rest = 9 := by
  obtain ⟨hlength, hfirst, hdigits⟩ := h
  obtain ⟨rest, rfl⟩ : ∃ rest, number = '7' :: rest := by
    cases number with
    | nil => cases hfirst
    | cons c rest => exact ⟨rest, by rw [Option.some.inj hfirst]⟩
  refine ⟨rest, rfl, ?_⟩
  rw [byteLength_ascii fun c hc => ?_]
  · simpa using hlength
  · have hd := hdigits c (List.mem_cons_of_mem _ hc)
    simp only [Char.isDigit, Bool.and_eq_true, decide_eq_true_eq, UInt32.le_iff_toNat_le] at hd
    exact Nat.lt_of_le_of_lt hd.2 (by decide)

/-- A plain spelling is stored as the country code and the number. -/
theorem normalForm_of_plain (hn : IsNational number) (h : Spells cs number) (hp : IsPlain cs) :
    normalForm cs = '7' :: number := by
  rw [Spells, bare_eq_self_iff.2 hp] at h
  obtain ⟨rest, rfl, hrest⟩ := hn.split
  rcases h with rfl | rfl | rfl
  · exact normalForm_of_rewrites (.national hrest)
  · exact normalForm_of_rewrites (.trunk hrest)
  · exact normalForm_of_rewrites (.international _ _)

/-- Any other spelling loses a plus, if it has one, and is stored with its separators. -/
theorem normalForm_of_not_plain (hn : IsNational number) (h : Spells cs number)
    (hp : ¬ IsPlain cs) : ¬ IsPlain (normalForm cs) ∧
      ((cs = '+' :: normalForm cs ∧ bare (normalForm cs) = '7' :: number) ∨
        normalForm cs = cs) := by
  have hlength := length_bare_lt hp
  obtain ⟨tail, rfl, -⟩ := hn.split
  have hten := hn.length
  generalize hform : normalForm cs = form
  rcases hform ▸ normalForm_cases cs with hr | ⟨rfl, -⟩
  · cases hr with
    | international c rest =>
      have hbare : bare ('+' :: c :: rest) = '+' :: bare (c :: rest) := bare_cons (by decide) _
      rw [Spells, hbare] at h
      refine ⟨fun hplain => hp fun x hx => ?_, .inl ⟨rfl, ?_⟩⟩
      · rcases List.mem_cons.1 hx with rfl | hx
        · decide
        · exact hplain x hx
      · rcases h with h | h | h
        · cases h
        · cases h
        · exact (List.cons.inj h).2
    | @national rest hrest =>
      -- With a separator, the ten digits do not fit into ten bytes.
      have hshort := length_le_byteLength rest
      have hmany : 10 ≤ (bare ('7' :: rest)).length := by
        rcases h with h | h | h <;> rw [h] <;> simp only [List.length_cons] at hten ⊢ <;> omega
      simp only [List.length_cons] at hlength
      omega
    | @trunk rest hrest =>
      have hshort := length_le_byteLength rest
      have hbare : bare ('8' :: '7' :: rest) = '8' :: bare ('7' :: rest) := bare_cons (by decide) _
      have hmany : 11 ≤ (bare ('8' :: '7' :: rest)).length := by
        rcases h with h | h | h
        · rw [hbare] at h; cases h
        · rw [h]; simp only [List.length_cons] at hten ⊢; omega
        · rw [hbare] at h; cases h
      simp only [List.length_cons] at hlength
      omega
  · exact ⟨hp, .inr rfl⟩

theorem isMark_of_isDigit (h : c.isDigit = true) : isMark c = false := by
  refine Bool.eq_false_iff.2 fun hm => ?_
  simp only [isMark, isSeparator, Bool.or_eq_true, beq_iff_eq] at hm
  rcases hm with ((rfl | rfl) | rfl) | rfl <;> exact absurd h (by decide)

/-- The form under which a number should be stored. -/
theorem IsNational.isPlain (h : IsNational number) : IsPlain ('7' :: number) := fun c hc => by
  rcases List.mem_cons.1 hc with rfl | hc
  · decide
  · exact isMark_of_isDigit (h.digits c hc)

/-- The form of a spelling has separators exactly if the spelling has. -/
theorem isPlain_normalForm_iff (hn : IsNational number) (h : Spells cs number) :
    IsPlain (normalForm cs) ↔ IsPlain cs := by
  by_cases hp : IsPlain cs
  · exact iff_of_true (normalForm_of_plain hn h hp ▸ hn.isPlain) hp
  · exact iff_of_false (normalForm_of_not_plain hn h hp).1 hp

theorem normalForm_eq_seven_iff (hn : IsNational number) (h : Spells cs number) :
    normalForm cs = '7' :: number ↔ IsPlain cs :=
  ⟨fun he => (isPlain_normalForm_iff hn h).1 (he ▸ hn.isPlain), normalForm_of_plain hn h⟩

/-- What stands behind a plus does not spell the number any more. -/
theorem not_spells_of_bare (hn : IsNational number) (hb : bare cs = '7' :: number) :
    ¬ Spells cs number := by
  have hten := hn.length
  rw [Spells, hb]
  rintro (h | h | h)
  · rw [← h] at hten
    have := hn.length
    simp only [List.length_cons] at hten
    omega
  · cases h
  · cases h

/-- Spellings with separators share a form only if they are the same. -/
theorem eq_of_normalForm_eq (hn : IsNational number) (hc : Spells cs number)
    (hd : Spells ds number) (hpc : ¬ IsPlain cs) (hpd : ¬ IsPlain ds)
    (h : normalForm cs = normalForm ds) : cs = ds := by
  obtain ⟨-, hcs⟩ := normalForm_of_not_plain hn hc hpc
  obtain ⟨-, hds⟩ := normalForm_of_not_plain hn hd hpd
  rcases hcs with ⟨hcs, hbare⟩ | hcs <;> rcases hds with ⟨hds, hbare'⟩ | hds
  · rw [hcs, hds, h]
  · rw [h, hds] at hbare
    exact absurd hd (not_spells_of_bare hn hbare)
  · rw [← h, hcs] at hbare'
    exact absurd hc (not_spells_of_bare hn hbare')
  · rw [← hcs, ← hds, h]

theorem normalForm_eq_iff (hn : IsNational number) (hc : Spells cs number)
    (hd : Spells ds number) :
    normalForm cs = normalForm ds ↔ cs = ds ∨ (IsPlain cs ∧ IsPlain ds) := by
  constructor
  · intro h
    have hboth : IsPlain cs ↔ IsPlain ds := by
      rw [← isPlain_normalForm_iff hn hc, h, isPlain_normalForm_iff hn hd]
    by_cases hp : IsPlain cs
    · exact .inr ⟨hp, hboth.1 hp⟩
    · exact .inl (eq_of_normalForm_eq hn hc hd hp (fun h => hp (hboth.2 h)) h)
  · rintro (rfl | ⟨hpc, hpd⟩)
    · rfl
    · rw [normalForm_of_plain hn hc hpc, normalForm_of_plain hn hd hpd]

/-- Two spellings are the same, or neither sets digits apart. -/
def Shared (p q : String) : Prop := p = q ∨ (IsPlain p.toList ∧ IsPlain q.toList)

theorem normalize_eq_iff_shared {p q : String} (hn : IsNational number)
    (hp : Spells p.toList number) (hq : Spells q.toList number) :
    normalize p = normalize q ↔ Shared p q := by
  rw [normalize, normalize, String.ofList_inj, normalForm_eq_iff hn hp hq, String.toList_inj]
  rfl

/-- Two spellings of a national number are stored under one form, and share their codes, exactly if
they are the same or neither sets digits apart: then no two accounts hold them. The form is the
country code and the number for spellings that set no digits apart, and for no others. -/
theorem normalize_eq_iff {p q : String} (hn : IsNational number) (hp : Spells p.toList number)
    (hq : Spells q.toList number) :
    (normalize p = normalize q ↔ Shared p q) ∧
      (normalize p = String.ofList ('7' :: number) ↔ IsPlain p.toList) ∧
      (Keyspace.Bundles.key (.phone (normalize p)) = Keyspace.Bundles.key (.phone (normalize q)) ↔
        Shared p q) ∧
      ∀ store : Store.Memory, store.Unique → ∀ a ∈ store.users, ∀ b ∈ store.users,
        a.phone = some (normalize p) → b.phone = some (normalize q) → Shared p q → a = b := by
  have hshared := normalize_eq_iff_shared hn hp hq
  refine ⟨hshared, ?_, ⟨fun h => ?_, fun h => ?_⟩, fun store hs a ha b hb hpa hpb h => ?_⟩
  · rw [normalize, String.ofList_inj]
    exact normalForm_eq_seven_iff hn hp
  · exact hshared.1 (Keyspace.bundles_key_injective h)
  · rw [hshared.2 h]
  · rw [hshared.2 h] at hpa
    exact hs.eq_of_phone ha hb hpa hpb

theorem normalize_eq_iff_plain :
    (IsNational "7082260629".toList ∧ Spells "+77082260629".toList "7082260629".toList ∧
      Spells "87082260629".toList "7082260629".toList ∧ Shared "+77082260629" "87082260629") ∧
    normalize "+77082260629" = normalize "87082260629" := by
  have hn : IsNational "7082260629".toList := ⟨rfl, rfl, List.all_eq_true.1 (by decide +kernel)⟩
  have hp : Spells "+77082260629".toList "7082260629".toList := .inr (.inr rfl)
  have hq : Spells "87082260629".toList "7082260629".toList := .inr (.inl rfl)
  have hshared : Shared "+77082260629" "87082260629" :=
    .inr ⟨by decide +kernel, by decide +kernel⟩
  exact ⟨⟨hn, hp, hq, hshared⟩, (normalize_eq_iff hn hp hq).1.2 hshared⟩

/-- An account of somebody who has given a phone. -/
def owner (idCode phone : String) : NewUser :=
  ⟨idCode, none, some (normalize phone), "", true, .phone⟩

/-- A number that is spelled in two ways is stored under two forms, with codes for each, and held by
two accounts. -/
theorem parted_spellings :
    (isValid "8 (708) 226-06-29" = true ∧ isValid "87082260629" = true ∧
      IsNational "7082260629".toList ∧ Spells "8 (708) 226-06-29".toList "7082260629".toList ∧
      Spells "87082260629".toList "7082260629".toList) ∧
    normalize "8 (708) 226-06-29" ≠ normalize "87082260629" ∧
    Keyspace.Bundles.key (.phone (normalize "8 (708) 226-06-29"))
      ≠ Keyspace.Bundles.key (.phone (normalize "87082260629")) ∧
    ((Store.Memory.createUser {} (owner "ada" "8 (708) 226-06-29") ⟨0, 0⟩).2.createUser
      (owner "bob" "87082260629") ⟨0, 0⟩).2.users.length = 2 :=
  have hn : IsNational "7082260629".toList := ⟨rfl, rfl, List.all_eq_true.1 (by decide +kernel)⟩
  ⟨⟨by decide +kernel, by decide +kernel, hn, .inr (.inl rfl), .inr (.inl rfl)⟩,
    by decide +kernel, by decide +kernel, by decide +kernel⟩

/-! ## The form of a form -/

theorem accepts_seven_iff : accepts ('7' :: rest) = true ↔ isTail ('7' :: rest) = true ∨
    ∃ a b right gap tail, (isDecimalDigit a = true ∧ isDecimalDigit b = true) ∧
      IsOptional (· == ')') right ∧ IsOptional isSeparator gap ∧ isTail tail = true ∧
      rest = a :: b :: (right ++ (gap ++ tail)) := by
  rw [accepts_iff]
  constructor
  · rintro ⟨country, area, tail, rfl | ⟨gap, -, rfl | rfl⟩, harea, htail, h⟩
    · rcases harea with rfl | ⟨_, gap, ⟨left, a, b, c, right, hleft, ⟨-, hb, hc⟩, hright, rfl⟩,
        hgap, rfl⟩
      · exact .inl (h ▸ htail)
      · rcases hleft with rfl | ⟨x, hx, rfl⟩
        · obtain ⟨-, rfl⟩ := List.cons.inj h
          exact .inr ⟨b, c, right, gap, tail, ⟨hb, hc⟩, hright, hgap, htail, by simp⟩
        · rw [beq_iff_eq.1 hx] at h
          cases h
    · cases h
    · cases h
  · rintro (h | ⟨a, b, right, gap, tail, ⟨ha, hb⟩, hright, hgap, htail, rfl⟩)
    · exact ⟨[], [], _, .inl rfl, .inl rfl, h, rfl⟩
    · refine ⟨[], '7' :: a :: b :: right ++ gap, tail, .inl rfl, .inr ⟨_, gap, ?_, hgap, rfl⟩,
        htail, by simp⟩
      exact ⟨[], '7', a, b, right, .inl rfl, ⟨by decide, ha, hb⟩, hright, rfl⟩

/-- What comes first behind the country part. -/
theorem first_of_area {area tail : List Char} (harea : area = [] ∨ IsArea area)
    (htail : isTail tail = true) (h : c :: rest = area ++ tail) :
    isTailChar c = true ∨ c = '(' := by
  rcases harea with rfl | ⟨_, gap, ⟨left, a, b, d, right, hleft, ⟨ha, -⟩, -, rfl⟩, -, rfl⟩
  · have hall := all_of_isTail htail
    rw [List.nil_append] at h
    rw [← h, List.all_cons, Bool.and_eq_true] at hall
    exact .inl hall.1
  · rcases hleft with rfl | ⟨x, hx, rfl⟩
    · rw [(List.cons.inj h).1]
      exact .inl (isTailChar_of_isDecimalDigit ha)
    · rw [(List.cons.inj h).1]
      exact .inr (beq_iff_eq.1 hx)

/-- A plus belongs to the country code. -/
theorem accepts_plus (h : accepts ('+' :: rest) = true) : ∃ gap area tail,
    IsOptional isSeparator gap ∧ (area = [] ∨ IsArea area) ∧ isTail tail = true ∧
      rest = '7' :: (gap ++ (area ++ tail)) := by
  obtain ⟨country, area, tail, rfl | ⟨gap, hgap, rfl | rfl⟩, harea, htail, h⟩ := accepts_iff.1 h
  · rcases first_of_area harea htail h with hc | hc <;> exact absurd hc (by decide)
  · cases h
  · exact ⟨gap, area, tail, hgap, harea, htail, (List.cons.inj h).2⟩

/-- Where two digits come first behind the country code, all is tail, or a third one follows. -/
theorem third_of_area {a b : Char} {gap area tail : List Char} (hgap : IsOptional isSeparator gap)
    (harea : area = [] ∨ IsArea area) (htail : isTail tail = true)
    (ha : isDecimalDigit a = true) (h : a :: b :: rest = gap ++ (area ++ tail)) :
    isTail (a :: b :: rest) = true ∨ ∃ d more, rest = d :: more ∧ isDecimalDigit d = true := by
  obtain rfl : gap = [] := hgap.eq_nil h (isSeparator_of_isDecimalDigit ha)
  rcases harea with rfl | ⟨_, gap, ⟨left, p, q, d, right, hleft, ⟨-, -, hd⟩, -, rfl⟩, -, rfl⟩
  · exact .inl (h ▸ htail)
  · simp only [List.nil_append, List.append_assoc] at h
    obtain rfl : left = [] := hleft.eq_nil h (beq_of_isDecimalDigit ha (by decide))
    obtain ⟨-, h⟩ := List.cons.inj h
    obtain ⟨-, h⟩ := List.cons.inj h
    exact .inr ⟨d, _, h, hd⟩

/-- Whether the text behind `+7` makes a number of its own with the seven: it has no parentheses and
is short, or begins with the rest of an area code. -/
def standsAlone (rest : List Char) : Bool :=
  rest.all isTailChar &&
    (rest.length ≤ 9 || rest.length ≤ 12 && (rest.take 2).all isDecimalDigit)

/-- A text that is long enough and stands alone makes a number with the seven. -/
theorem accepts_of_standsAlone (hseven : 7 ≤ rest.length) (h : standsAlone rest = true) :
    accepts ('7' :: rest) = true := by
  simp only [standsAlone, Bool.and_eq_true, Bool.or_eq_true, decide_eq_true_eq] at h
  obtain ⟨hall, hshort⟩ := h
  rw [accepts_seven_iff]
  by_cases hnine : rest.length ≤ 9
  · refine .inl (isTail_iff.2 ⟨by simp only [List.length_cons]; omega, ?_⟩)
    rw [List.all_cons, hall]
    rfl
  · obtain ⟨htwelve, hdigits⟩ := hshort.resolve_left hnine
    obtain ⟨a, b, more, rfl⟩ : ∃ a b more, rest = a :: b :: more := by
      match rest, hseven with
      | a :: b :: more, _ => exact ⟨a, b, more, rfl⟩
    simp only [List.all_cons, Bool.and_eq_true] at hall
    simp only [List.take_succ_cons, List.take_zero, List.all_cons, List.all_nil, Bool.and_true,
      Bool.and_eq_true] at hdigits
    simp only [List.length_cons] at hnine htwelve
    exact .inr ⟨a, b, [], [], more, hdigits, .inl rfl, .inl rfl,
      isTail_iff.2 ⟨by omega, hall.2.2⟩, rfl⟩

/-- Without its plus, a spelling passes exactly if what stands behind the seven stands alone. -/
theorem accepts_unplussed (h : accepts ('+' :: '7' :: rest) = true) :
    accepts ('7' :: rest) = true ↔ standsAlone rest = true := by
  obtain ⟨gap, area, tail, hgap, harea, htail, hrest⟩ := accepts_plus h
  obtain ⟨-, hrest⟩ := List.cons.inj hrest
  have hseven : 7 ≤ rest.length := by
    have hlength := (length_of_isTail htail).1
    rw [hrest, List.length_append, List.length_append]
    omega
  refine ⟨fun hlocal => ?_, accepts_of_standsAlone hseven⟩
  simp only [standsAlone, Bool.and_eq_true, Bool.or_eq_true, decide_eq_true_eq]
  rcases accepts_seven_iff.1 hlocal with
    hall | ⟨a, b, right, gap', tail', ⟨ha, hb⟩, hright, hgap', htail', rfl⟩
  · rw [isTail_iff, List.all_cons, Bool.and_eq_true, List.length_cons] at hall
    exact ⟨hall.2.2, .inl (by omega)⟩
  · rcases third_of_area hgap harea htail ha hrest with hall | ⟨d, more, hd, hdigit⟩
    · have hlength := (length_of_isTail hall).2
      exact ⟨all_of_isTail hall, .inr ⟨by omega, by simp [ha, hb]⟩⟩
    · -- A digit is no parenthesis and no separator, so the tail follows at once.
      obtain rfl : right = [] :=
        hright.eq_nil hd.symm (beq_of_isDecimalDigit hdigit (by decide))
      obtain rfl : gap' = [] := hgap'.eq_nil hd.symm (isSeparator_of_isDecimalDigit hdigit)
      have hlength := (length_of_isTail htail').2
      refine ⟨?_, .inr ⟨?_, by simp [ha, hb]⟩⟩
      · simpa [isTailChar_of_isDecimalDigit, ha, hb] using all_of_isTail htail'
      · simp only [List.nil_append, List.length_cons]
        omega

/-- Behind a seven there are digits and separators only, as long as the number is short. -/
theorem tail_of_accepts_seven (h : accepts ('7' :: rest) = true) (hshort : rest.length ≤ 9) :
    rest.all isTailChar = true ∧ 6 ≤ rest.length := by
  rcases accepts_seven_iff.1 h with hall | ⟨a, b, right, gap, tail, ⟨ha, hb⟩, -, -, htail, rfl⟩
  · rw [isTail_iff, List.all_cons, Bool.and_eq_true, List.length_cons] at hall
    exact ⟨hall.2.2, by omega⟩
  · -- The tail takes seven of the nine characters, and leaves room for the two digits alone.
    have hseven := (length_of_isTail htail).1
    simp only [List.length_cons, List.length_append] at hshort ⊢
    obtain rfl : right = [] := List.length_eq_zero_iff.1 (by omega)
    obtain rfl : gap = [] := List.length_eq_zero_iff.1 (by omega)
    refine ⟨?_, by omega⟩
    simpa [isTailChar_of_isDecimalDigit, ha, hb] using all_of_isTail htail

/-- Nine bytes, none of which is a part of a longer character, and the first a separator. -/
def opensApart (rest : List Char) : Bool :=
  byteLength rest == 9 && rest.length == 9 && rest.head?.any isSeparator

theorem isDecimalDigit_iff_not_isSeparator (h : isTailChar c = true) :
    isDecimalDigit c = true ↔ ¬ isSeparator c = true := by
  constructor
  · intro hd
    rw [isSeparator_of_isDecimalDigit hd]
    exact Bool.false_ne_true
  · exact (Bool.or_eq_true_iff.1 h).resolve_right

theorem opensApart_of_isDecimalDigit (hc : isDecimalDigit c = true) :
    ¬ opensApart (c :: rest) = true := by
  rw [opensApart, List.head?_cons, Option.any_some, isSeparator_of_isDecimalDigit hc,
    Bool.and_false]
  exact Bool.false_ne_true

/-- A local number passes with the country code too, unless it is all of ASCII and sets its first
digit apart: the two sevens and a separator are no area code. -/
theorem accepts_seven_seven (hall : rest.all isTailChar = true) (hfive : 5 ≤ rest.length)
    (hnine : byteLength rest = 9) :
    accepts ('7' :: '7' :: rest) = true ↔ ¬ opensApart rest = true := by
  have hshort := length_le_byteLength rest
  rw [accepts_seven_iff, opensApart, hnine]
  by_cases hl : rest.length = 9
  · obtain ⟨b, more, rfl⟩ : ∃ b more, rest = b :: more := List.exists_cons_of_length_eq_add_one hl
    rw [List.all_cons, Bool.and_eq_true] at hall
    simp only [hl, beq_self_eq_true, Bool.true_and, List.head?_cons, Option.any_some]
    rw [← isDecimalDigit_iff_not_isSeparator hall.1]
    constructor
    · rintro (htail | ⟨a, c, right, gap, tail, ⟨-, hc⟩, -, -, -, h⟩)
      · have htoo := (length_of_isTail htail).2
        simp only [List.length_cons] at hl htoo
        omega
      · obtain ⟨-, h⟩ := List.cons.inj h
        exact (List.cons.inj h).1 ▸ hc
    · intro hb
      refine .inr ⟨'7', b, [], [], more, ⟨by decide, hb⟩, .inl rfl, .inl rfl, ?_, rfl⟩
      rw [List.length_cons] at hl
      exact isTail_iff.2 ⟨by omega, hall.2⟩
  · have htail : isTail ('7' :: '7' :: rest) = true := by
      rw [isTail_iff, List.all_cons, List.all_cons, hall]
      simp only [List.length_cons]
      exact ⟨by omega, rfl⟩
    simp [htail, hl]

/-- A number with the country code is its own form. -/
theorem normalForm_seven_seven (hnine : byteLength rest = 9) :
    normalForm ('7' :: '7' :: rest) = '7' :: '7' :: rest := by
  refine normalForm_eq_self_iff.2 fun ds hds => ?_
  cases hds with
  | national h =>
    have hseven : ('7').utf8Size = 1 := rfl
    rw [byteLength_cons] at h
    omega

theorem normalForm_seven_iff :
    normalForm ('7' :: rest) = '7' :: rest ↔ byteLength rest ≠ 9 := by
  rw [normalForm_eq_self_iff]
  constructor
  · exact fun h hnine => h _ (.national hnine)
  · intro h ds hds
    cases hds with
    | national hnine => exact h hnine

/-- What passes with the trunk code passes with the country code in its place, with the same
exception. -/
theorem accepts_trunk (h : accepts ('8' :: '7' :: rest) = true) (hnine : byteLength rest = 9) :
    accepts ('7' :: '7' :: rest) = true ↔ ¬ opensApart rest = true := by
  have hshort : rest.length ≤ 9 := hnine ▸ length_le_byteLength rest
  obtain ⟨country, area, tail, hcountry, harea, htail, h⟩ := accepts_iff.1 h
  rcases hcountry with rfl | ⟨gap, hgap, rfl | rfl⟩
  · rcases harea with rfl | ⟨_, gap, ⟨left, a, b, c, right, hleft, ⟨-, -, hc⟩, hright, rfl⟩, hgap,
      rfl⟩
    · rw [List.nil_append, List.nil_append] at h
      rw [← h, isTail_iff, List.all_cons, List.all_cons, Bool.and_eq_true,
        Bool.and_eq_true] at htail
      simp only [List.length_cons] at htail
      exact accepts_seven_seven htail.2.2.2 (by omega) hnine
    · rcases hleft with rfl | ⟨x, hx, rfl⟩
      · -- The trunk code and the seven are a part of the area code, and two sevens can be too.
        obtain ⟨-, h⟩ := List.cons.inj h
        obtain ⟨-, rfl⟩ := List.cons.inj h
        refine iff_of_true (accepts_seven_iff.2 (.inr ⟨'7', c, right, gap, tail, ⟨by decide, hc⟩,
          hright, hgap, htail, by simp⟩)) ?_
        exact opensApart_of_isDecimalDigit hc
      · rw [beq_iff_eq.1 hx] at h
        cases h
  · obtain ⟨-, h⟩ := List.cons.inj h
    obtain rfl : gap = [] := hgap.eq_nil h (by decide)
    have hlocal : accepts ('7' :: rest) = true :=
      accepts_iff.2 ⟨[], area, tail, .inl rfl, harea, htail, h⟩
    obtain ⟨hall, hsix⟩ := tail_of_accepts_seven hlocal hshort
    exact accepts_seven_seven hall (by omega) hnine
  · cases h

/-- The spellings whose form is a spelling again, and its own form. What stands behind a plus must
be a number of its own, and not a local one. A local number must not set its first digit apart. -/
def settles : List Char → Bool
  | '+' :: '7' :: rest => byteLength rest != 9 && standsAlone rest
  | '8' :: '7' :: rest => !opensApart rest
  | '7' :: rest => !opensApart rest
  | _ => true

theorem settles_of_not_rewrites (h : ∀ ds, ¬ Rewrites cs ds) : settles cs = true := by
  unfold settles
  split
  · exact absurd (.international _ _) (h _)
  · next rest =>
    have hnine : byteLength rest ≠ 9 := fun hnine => h _ (.trunk hnine)
    simp [opensApart, hnine]
  · next rest =>
    have hnine : byteLength rest ≠ 9 := fun hnine => h _ (.national hnine)
    simp [opensApart, hnine]
  · rfl

theorem settles_iff (h : accepts cs = true) :
    (accepts (normalForm cs) = true ∧ normalForm (normalForm cs) = normalForm cs) ↔
      settles cs = true := by
  rcases normalForm_cases cs with hr | ⟨hsame, hno⟩
  · generalize normalForm cs = form at hr
    cases hr with
    | international c rest =>
      obtain ⟨_, _, _, -, -, -, hseven⟩ := accepts_plus h
      obtain rfl := (List.cons.inj hseven).1
      rw [accepts_unplussed h, normalForm_seven_iff, settles, Bool.and_eq_true, bne_iff_ne]
      exact and_comm
    | @national rest hnine =>
      have hshort : rest.length ≤ 9 := hnine ▸ length_le_byteLength rest
      obtain ⟨hall, hsix⟩ := tail_of_accepts_seven h hshort
      rw [accepts_seven_seven hall (by omega) hnine, normalForm_seven_seven hnine]
      simp [settles]
    | @trunk rest hnine =>
      rw [accepts_trunk h hnine, normalForm_seven_seven hnine]
      simp [settles]
  · rw [hsame, hsame]
    exact iff_of_true ⟨h, rfl⟩ (settles_of_not_rewrites hno)

/-- The form of a phone passes as a phone and is its own form exactly for the spellings that
`settles` names. -/
theorem settled_iff {phone : String} (h : isValid phone = true) :
    (isValid (normalize phone) = true ∧ normalize (normalize phone) = normalize phone) ↔
      settles phone.toList = true := by
  rw [← settles_iff h, normalize, normalize, String.ofList_inj, isValid, String.toList_ofList]

theorem settled_iff_international : isValid "+77082260629" = true ∧
    isValid (normalize "+77082260629") = true ∧
    normalize (normalize "+77082260629") = normalize "+77082260629" :=
  have h : isValid "+77082260629" = true := by decide +kernel
  ⟨h, (settled_iff h).2 (by decide +kernel)⟩

/-- Without its plus, a spelling may pass no more, or look like a local number. -/
theorem unsettled_spellings :
    (isValid "+7 (708) 226-06-29" = true ∧ isValid (normalize "+7 (708) 226-06-29") = false) ∧
      isValid "+7123456789" = true ∧
      normalize (normalize "+7123456789") ≠ normalize "+7123456789" :=
  ⟨⟨by decide +kernel, by decide +kernel⟩, by decide +kernel, by decide +kernel⟩

end SignOn.Phone
