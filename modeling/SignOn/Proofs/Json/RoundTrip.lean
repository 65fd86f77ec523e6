import SignOn.Proofs.Json.Scalars
/-!
Whatever is written is read back: `Shape.decode_encode` says that decoding the written form of a
value gives the value again, for every shape and every value that the shape keeps. A shape keeps a
value if nothing of it is lost in writing: integers lie within their bounds, names occur once, and
no value but nothing itself is written as `null`.
-/

namespace SignOn.Json

open SignOn.Text

/-! ## Values that are kept -/

/-- The names of the fields. -/
def Fields.names : Fields → List String
  | .nil => []
  | .cons name _ _ _ rest => name :: rest.names

/-- Whether some value of the shape is written as `null`. -/
def Shape.isNullable : Shape → Bool
  | .optional _ => true
  | .any _ => true
  | _ => false

mutual

/-- Whether a value can be read back from its written form. -/
def Shape.Keeps : (s : Shape) → s.Carrier → Prop
  | .text, _ => True
  | .checked _, _ => True
  | .flag, _ => True
  | .whole low high, (n : Int) => low ≤ n ∧ n ≤ high ∧ n.natAbs < doubleBound
  | .list item, (vs : List item.Carrier) => ∀ v ∈ vs, item.Keeps v
  | .optional _, none => True
  | .optional inner, some v => inner.isNullable = false ∧ inner.Keeps v
  | .choice names, _ => names.Nodup
  | .record fields, v => fields.names.Nodup ∧ fields.Keeps v
  | .any _, _ => False

/-- Whether every field that is written can be read back. -/
def Fields.Keeps : (fields : Fields) → fields.Carrier → Prop
  | .nil, () => True
  | .cons _ shape _ _ rest, (v, vs) => shape.Keeps v ∧ rest.Keeps vs

end

/-! ## Items and members -/

/-- Items behind the first one, each with its comma. -/
def moreItems (items : List (List Char)) : Bytes := items.flatMap fun item => comma :: spell item

@[simp] theorem moreItems_nil : moreItems [] = [] := rfl

theorem moreItems_cons (item : List Char) (items : List (List Char)) (rest : Bytes) :
    moreItems (item :: items) ++ rest = comma :: (spell item ++ (moreItems items ++ rest)) := by
  simp [moreItems, List.flatMap_cons]

theorem spell_commaSeparated (item : List Char) (items : List (List Char)) (rest : Bytes) :
    spell (commaSeparated (item :: items)) ++ rest = spell item ++ (moreItems items ++ rest) := by
  induction items generalizing item with
  | nil => simp [commaSeparated]
  | cons next items ih =>
    rw [commaSeparated, spell_append, List.append_assoc, spell_ascii (by decide), List.cons_append,
      ih, moreItems_cons]
    · rfl
    · exact List.cons_ne_nil _ _

theorem closes_cons {b : UInt8} (h : b = comma ∨ b = closeBracket ∨ b = closeBrace)
    (rest : Bytes) : Closes (b :: rest) := by
  intro c hc
  rw [List.head?_cons, Option.mem_some_iff] at hc
  exact hc ▸ h

theorem closes_moreItems (items : List (List Char)) {rest : Bytes} (h : Closes rest) :
    Closes (moreItems items ++ rest) := by
  cases items with
  | nil => exact h
  | cons item items => rw [moreItems_cons]; exact closes_cons (.inl rfl) _

theorem length_le_moreItems (items : List (List Char)) :
    items.length ≤ (moreItems items).length := by
  induction items with
  | nil => exact Nat.le_refl _
  | cons item items ih =>
    rw [← List.append_nil (moreItems (item :: items)), moreItems_cons]
    simp only [List.length_cons, List.length_append, List.length_nil]
    omega

/-- Bytes with which a value may begin: no space, and nothing that ends an array. -/
def Begins (bs : Bytes) : Prop := ∃ b rest, bs = b :: rest ∧ isSpace b = false ∧ b ≠ closeBracket

theorem Begins.append {bs : Bytes} (h : Begins bs) (rest : Bytes) : Begins (bs ++ rest) := by
  obtain ⟨b, more, rfl, hs, hc⟩ := h
  exact ⟨b, more ++ rest, rfl, hs, hc⟩

theorem nextItem_first {bs : Bytes} (h : Begins bs) : nextItem true bs = .ok (some bs) := by
  obtain ⟨b, rest, rfl, hs, hc⟩ := h
  simp [nextItem, Json.skipSpace, hs, hc]

theorem nextItem_comma {bs : Bytes} (h : Begins bs) :
    nextItem false (comma :: bs) = .ok (some bs) := by
  obtain ⟨b, rest, rfl, hs, hc⟩ := h
  have hcomma : isSpace comma = false := rfl
  have hne : (comma == closeBracket) = false := rfl
  simp [nextItem, Json.skipSpace, hcomma, hne, hs, hc]

/-- Items are read one by one, if each is read back alone. -/
theorem readItems_moreItems {α : Type} {item : Reader α} {print : α → List Char} (vs : List α)
    (hp : ∀ v ∈ vs, Begins (spell (print v)))
    (hv : ∀ v ∈ vs, ∀ rest, Closes rest → item (spell (print v) ++ rest) = .ok (v, rest))
    {fuel : Nat} (hf : vs.length < fuel) (rest : Bytes) :
    readItems item fuel false (moreItems (vs.map print) ++ closeBracket :: rest)
      = .ok (vs, rest) := by
  induction vs generalizing fuel with
  | nil =>
    cases fuel with
    | zero => exact absurd hf (Nat.not_lt_zero _)
    | succ fuel => rfl
  | cons v vs ih =>
    cases fuel with
    | zero => exact absurd hf (Nat.not_lt_zero _)
    | succ fuel =>
      have hc : Closes (moreItems (vs.map print) ++ closeBracket :: rest) :=
        closes_moreItems _ (closes_cons (.inr (.inl rfl)) _)
      have hi := hv v List.mem_cons_self _ hc
      have hr := ih (fun x hx => hp x (List.mem_cons_of_mem _ hx))
        (fun x hx => hv x (List.mem_cons_of_mem _ hx)) (Nat.lt_of_succ_lt_succ hf)
      rw [List.map_cons, moreItems_cons, readItems,
        nextItem_comma ((hp v List.mem_cons_self).append _)]
      simp only [hi, hr]
      rfl

/-- A written array is read back, if its items are. -/
theorem readList_commaSeparated {α : Type} {item : Reader α} {print : α → List Char} (vs : List α)
    (hp : ∀ v ∈ vs, Begins (spell (print v)))
    (hv : ∀ v ∈ vs, ∀ rest, Closes rest → item (spell (print v) ++ rest) = .ok (v, rest))
    (rest : Bytes) :
    readList item (spell ('[' :: commaSeparated (vs.map print) ++ [']']) ++ rest)
      = .ok (vs, rest) := by
  have hopen : spell ('[' :: commaSeparated (vs.map print) ++ [']']) ++ rest
      = openBracket :: (spell (commaSeparated (vs.map print)) ++ closeBracket :: rest) := by
    rw [List.cons_append, spell_ascii (by decide), spell_append, spell_ascii (by decide)]
    simp
    exact ⟨rfl, rfl⟩
  rw [hopen]
  unfold readList
  change readItems item _ true _ = _
  cases vs with
  | nil => rfl
  | cons v vs =>
    have hc : Closes (moreItems (vs.map print) ++ closeBracket :: rest) :=
      closes_moreItems _ (closes_cons (.inr (.inl rfl)) _)
    have hi := hv v List.mem_cons_self _ hc
    have hl := length_le_moreItems (vs.map print)
    have hb := (hp v List.mem_cons_self).append (moreItems (vs.map print) ++ closeBracket :: rest)
    rw [List.map_cons, spell_commaSeparated, readItems, nextItem_first hb]
    simp only [hi]
    rw [readItems_moreItems vs (fun x hx => hp x (List.mem_cons_of_mem _ hx))
      (fun x hx => hv x (List.mem_cons_of_mem _ hx))]
    · rfl
    · obtain ⟨b, bs, hs, -, -⟩ := hp v List.mem_cons_self
      rw [List.length_map] at hl
      simp only [List.length_append, hs, List.length_cons]
      omega

/-! ## Objects -/

/-- A member as it is written. -/
def writeMember (m : String × List Char) : List Char := printText m.1 ++ ':' :: m.2

theorem spell_writeMember (m : String × List Char) (rest : Bytes) :
    spell (writeMember m) ++ rest
      = quote :: (spell (m.1.toList.flatMap escapeChar) ++
          quote :: colon :: (spell m.2 ++ rest)) := by
  rw [writeMember, spell_append, List.append_assoc, spell_ascii (by decide), spell_printText]
  rfl

/-- Members that are read one after the other lead from one state to another. -/
inductive Takes {σ : Type} (member : String → σ → Reader σ) :
    σ → List (String × List Char) → σ → Prop where
  | nil (state : σ) : Takes member state [] state
  | cons {before state after : σ} {name : String} {value : List Char}
      {ms : List (String × List Char)}
      (one : ∀ rest, Closes rest →
        member name before (colon :: (spell value ++ rest)) = .ok (state, rest))
      (more : Takes member state ms after) :
      Takes member before ((name, value) :: ms) after

theorem readMembers_moreItems {σ : Type} {member : String → σ → Reader σ} {before after : σ}
    {ms : List (String × List Char)} (h : Takes member before ms after) {fuel : Nat}
    (hf : ms.length < fuel) (rest : Bytes) :
    readMembers member fuel false before (moreItems (ms.map writeMember) ++ closeBrace :: rest)
      = .ok (after, closeBrace :: rest) := by
  induction h generalizing fuel with
  | nil =>
    cases fuel with
    | zero => exact absurd hf (Nat.not_lt_zero _)
    | succ fuel => rfl
  | @cons before state after name value ms one more ih =>
    cases fuel with
    | zero => exact absurd hf (Nat.not_lt_zero _)
    | succ fuel =>
      have hc : Closes (moreItems (ms.map writeMember) ++ closeBrace :: rest) :=
        closes_moreItems _ (closes_cons (.inr (.inr rfl)) _)
      have hn (bs : Bytes) : nextMember false (comma :: quote :: bs) = .ok (some bs) := rfl
      rw [List.map_cons, moreItems_cons, spell_writeMember, readMembers, hn]
      simp only [stringText_escaped, one _ hc]
      exact ih (Nat.lt_of_succ_lt_succ hf)

/-- The members of a written object are read from behind its opening brace. -/
theorem readMembers_commaSeparated {σ : Type} {member : String → σ → Reader σ} {before after : σ}
    {ms : List (String × List Char)} (h : Takes member before ms after) (rest : Bytes) :
    ∀ fuel, (spell (commaSeparated (ms.map writeMember)) ++ closeBrace :: rest).length < fuel →
      readMembers member fuel true before
          (spell (commaSeparated (ms.map writeMember)) ++ closeBrace :: rest)
        = .ok (after, closeBrace :: rest) := by
  intro fuel hf
  cases fuel with
  | zero => exact absurd hf (Nat.not_lt_zero _)
  | succ fuel =>
    cases h with
    | nil => rfl
    | @cons _ state _ name value ms one more =>
      have hc : Closes (moreItems (ms.map writeMember) ++ closeBrace :: rest) :=
        closes_moreItems _ (closes_cons (.inr (.inr rfl)) _)
      have hl := length_le_moreItems (ms.map writeMember)
      have hn (bs : Bytes) : nextMember true (quote :: bs) = .ok (some bs) := rfl
      rw [List.map_cons, spell_commaSeparated, spell_writeMember] at hf ⊢
      rw [readMembers, hn]
      simp only [stringText_escaped, one _ hc]
      refine readMembers_moreItems more ?_ rest
      simp only [List.length_cons, List.length_append, List.length_map] at hf hl ⊢
      omega

/-! ## Records -/

/-- The members that are written for a record. -/
def Fields.members : (fields : Fields) → fields.Carrier → List (String × List Char)
  | .nil, () => []
  | .cons name shape _ quiet rest, (v, vs) =>
    if quiet && shape.isNothing v then rest.members vs
    else (name, shape.print v) :: rest.members vs

/-- The slots that the written members fill. -/
def Fields.filled : (fields : Fields) → fields.Carrier → fields.Slots
  | .nil, () => ()
  | .cons _ shape _ quiet rest, (v, vs) =>
    (if quiet && shape.isNothing v then none else some v, rest.filled vs)

theorem Fields.printMembers_eq (fields : Fields) (v : fields.Carrier) :
    fields.printMembers v = (fields.members v).map writeMember := by
  match fields, v with
  | .nil, () => rfl
  | .cons name shape _ quiet rest, (v, vs) =>
    have ih := rest.printMembers_eq vs
    rw [Fields.printMembers, Fields.members, ih]
    split <;> rfl

theorem Fields.spell_record (fields : Fields) (v : fields.Carrier) (rest : Bytes) :
    spell ('{' :: commaSeparated (fields.printMembers v) ++ ['}']) ++ rest
      = openBrace :: (spell (commaSeparated ((fields.members v).map writeMember)) ++
          closeBrace :: rest) := by
  rw [fields.printMembers_eq, List.cons_append, spell_ascii (by decide), spell_append,
    spell_ascii (by decide)]
  simp
  exact ⟨rfl, rfl⟩

theorem Fields.mem_names_of_mem_members (fields : Fields) (v : fields.Carrier) {name : String}
    {value : List Char} (h : (name, value) ∈ fields.members v) : name ∈ fields.names := by
  match fields, v with
  | .nil, () => exact absurd h List.not_mem_nil
  | .cons field shape _ quiet rest, (v, vs) =>
    rw [Fields.members] at h
    split at h
    · exact List.mem_cons_of_mem _ (rest.mem_names_of_mem_members vs h)
    · rcases List.mem_cons.1 h with h | h
      · cases h; exact List.mem_cons_self
      · exact List.mem_cons_of_mem _ (rest.mem_names_of_mem_members vs h)

/-- What is left out of the written form is what a missing member stands for. -/
theorem Fields.complete_filled (fields : Fields) (v : fields.Carrier) :
    fields.complete (fields.filled v) = .ok v := by
  match fields, v with
  | .nil, () => rfl
  | .cons name shape absence quiet rest, (v, vs) =>
    have ih := rest.complete_filled vs
    rw [Fields.filled]
    by_cases hq : (quiet && shape.isNothing v) = true
    · obtain ⟨-, hn⟩ := Bool.and_eq_true_iff.1 hq
      rw [if_pos hq]
      unfold Shape.isNothing at hn
      split at hn
      · cases absence <;> simp only [Fields.complete, Shape.empty?, Shape.missing?, ih] <;> rfl
      · cases hn
    · rw [if_neg hq, Fields.complete]
      simp only [ih]
      rfl

/-- Members of other names are read past a field. -/
theorem Takes.lift {name : String} {shape : Shape} {absence : Absence} {quiet : Bool}
    {rest : Fields} {before after : rest.Slots} {ms : List (String × List Char)}
    (h : Takes rest.readMember before ms after) (hn : ∀ m ∈ ms, m.1 ≠ name)
    (slot : Option shape.Carrier) :
    Takes (Fields.cons name shape absence quiet rest).readMember (slot, before) ms
      (slot, after) := by
  induction h with
  | nil => exact .nil _
  | @cons before state after field value ms one more ih =>
    refine @Takes.cons _ _ _ (slot, state) _ _ _ _ (fun bs hbs => ?_)
      (ih fun m hm => hn m (List.mem_cons_of_mem _ hm))
    have hne : (field == name) = false := beq_eq_false_iff_ne.2 (hn _ List.mem_cons_self)
    rw [Fields.readMember, hne, one bs hbs]
    rfl

/-- A field that was met stays as it was read. -/
theorem Fields.readMember_filled {name field : String} {shape : Shape} {absence : Absence}
    {quiet : Bool} {rest : Fields} {v : shape.Carrier} {slots : rest.Slots} {bs r : Bytes}
    {after : (Fields.cons name shape absence quiet rest).Slots}
    (h : (Fields.cons name shape absence quiet rest).readMember field (some v, slots) bs
      = .ok (after, r)) : after.1 = some v := by
  rw [Fields.readMember] at h
  split at h
  · simp at h
  · cases hr : rest.readMember field slots bs with
    | error f =>
      rw [hr] at h
      cases h
    | ok read =>
      rw [hr] at h
      obtain ⟨rfl, -⟩ := Prod.mk.inj (Except.ok.inj h)
      rfl

theorem Fields.readMembers_filled {name : String} {shape : Shape} {absence : Absence}
    {quiet : Bool} {rest : Fields} {v : shape.Carrier}
    {before after : (Fields.cons name shape absence quiet rest).Slots} (hv : before.1 = some v)
    {fuel : Nat} {first : Bool} {bs r : Bytes}
    (h : readMembers (Fields.cons name shape absence quiet rest).readMember fuel first before bs
      = .ok (after, r)) : after.1 = some v := by
  induction fuel generalizing before first bs with
  | zero => cases h
  | succ fuel ih =>
    rw [readMembers] at h
    split at h
    · cases h
    · obtain ⟨rfl, -⟩ := Prod.mk.inj (Except.ok.inj h)
      exact hv
    · split at h
      · cases h
      · split at h
        · cases h
        · next state bs' hread =>
          obtain ⟨slot, slots⟩ := before
          obtain rfl : slot = some v := hv
          exact ih (Fields.readMember_filled hread) h

/-! ## Shapes -/

theorem spell_printText_begins (s : String) :
    ∃ rest, spell (printText s) = quote :: rest := by
  have h := spell_printText s []
  rw [List.append_nil] at h
  exact ⟨_, h⟩

@[simp] theorem skipSpace_openBrace (rest : Bytes) :
    skipSpace (openBrace :: rest) = openBrace :: rest := rfl

theorem openBrace_ne_openBracket : (openBrace == openBracket) = false := rfl

/-- A value that is kept begins like a value, and only nothing itself begins like `null`. -/
theorem Shape.print_begins (s : Shape) (v : s.Carrier) (h : s.Keeps v) :
    ∃ b rest, spell (s.print v) = b :: rest ∧ isSpace b = false ∧ b ≠ closeBracket ∧
      (s.isNullable = false → b ≠ letterN) := by
  match s, v with
  | .text, v =>
    obtain ⟨rest, hr⟩ := spell_printText_begins v
    exact ⟨quote, rest, hr, rfl, by decide, fun _ => by decide⟩
  | .checked ok, v =>
    obtain ⟨rest, hr⟩ := spell_printText_begins v.1
    exact ⟨quote, rest, hr, rfl, by decide, fun _ => by decide⟩
  | .flag, true => exact ⟨letterT, trueTail, rfl, rfl, by decide, fun _ => by decide⟩
  | .flag, false => exact ⟨letterF, falseTail, rfl, rfl, by decide, fun _ => by decide⟩
  | .whole low high, n =>
    obtain ⟨b, bs, hb, hk⟩ := spell_decimal_head n
    refine ⟨b, bs, hb, isSpace_eq_false_of_numeral hk, ?_, fun _ => ?_⟩
    · rintro rfl; exact absurd hk (by decide)
    · rintro rfl; exact absurd hk (by decide)
  | .list item, vs =>
    exact ⟨openBracket, _, spell_ascii (by decide) _, rfl, by decide, fun _ => by decide⟩
  | .optional inner, none => exact ⟨letterN, nullTail, rfl, rfl, by decide, fun h => by cases h⟩
  | .optional inner, some v =>
    obtain ⟨b, bs, hb, hs, hc, -⟩ := inner.print_begins v h.2
    exact ⟨b, bs, hb, hs, hc, fun h => by cases h⟩
  | .choice names, i =>
    obtain ⟨rest, hr⟩ := spell_printText_begins (names.get i)
    exact ⟨quote, rest, hr, rfl, by decide, fun _ => by decide⟩
  | .record fields, v =>
    exact ⟨openBrace, _, spell_ascii (by decide) _, rfl, by decide, fun _ => by decide⟩
  | .any _, _ => exact h.elim

theorem Shape.begins (s : Shape) (v : s.Carrier) (h : s.Keeps v) : Begins (spell (s.print v)) := by
  obtain ⟨b, rest, hb, hs, hc, -⟩ := s.print_begins v h
  exact ⟨b, rest, hb, hs, hc⟩

/-- A record that begins with a member of its first field holds there what the member says. -/
theorem Shape.first_of_read {name : String} {shape : Shape} {absence : Absence} {quiet : Bool}
    {rest : Fields} {bs bs' r : Bytes} {x : shape.Carrier}
    {v : (Shape.record (.cons name shape absence quiet rest)).Carrier}
    (hx : shape.read bs = .ok (x, bs'))
    (h : (Shape.record (.cons name shape absence quiet rest)).read
      (openBrace :: quote :: (spell (name.toList.flatMap escapeChar) ++ quote :: colon :: bs))
        = .ok (v, r)) : v.1 = x := by
  have hcolon : afterColon (colon :: bs) = .ok bs := rfl
  have hmember (bs : Bytes) : nextMember true (quote :: bs) = .ok (some bs) := rfl
  rw [Shape.read] at h
  simp only [skipSpace_openBrace, openBrace_ne_openBracket, beq_self_eq_true, Bool.false_eq_true,
    if_false, if_true, readMembers, hmember, stringText_escaped, Fields.readMember, Fields.noSlots,
    Option.isSome_none, hcolon, hx, Except.map] at h
  split at h
  · cases h
  · next slots bs'' hslots =>
    have hfirst : slots.1 = some x := Fields.readMembers_filled rfl hslots
    obtain ⟨slot, slots⟩ := slots
    obtain rfl : slot = some x := hfirst
    simp only [Fields.complete] at h
    cases hrest : rest.complete slots with
    | error f =>
      rw [hrest] at h
      cases h
    | ok vs =>
      rw [hrest] at h
      cases hend : endOfObject bs'' with
      | error f =>
        rw [hend] at h
        cases h
      | ok r' =>
        rw [hend] at h
        obtain ⟨rfl, -⟩ := Prod.mk.inj (Except.ok.inj h)
        rfl

theorem choiceOf?_get {names : List String} (h : names.Nodup) (i : Fin names.length) :
    choiceOf? names (names.get i) = some i := by
  rw [choiceOf?, List.findFinIdx?_eq_some_iff]
  refine ⟨beq_self_eq_true _, fun j hj => ?_⟩
  rw [beq_iff_eq]
  exact fun he => absurd ((List.getElem_inj h).1 he) (Nat.ne_of_lt hj)

theorem readChoice_printText {names : List String} (h : names.Nodup) (i : Fin names.length)
    (rest : Bytes) :
    readChoice names (spell (printText (names.get i)) ++ rest) = .ok (i, rest) := by
  rw [spell_printText, readChoice, skipSpace_quote]
  simp only [stringText_escaped, choiceOf?_get h]
  rfl

mutual

/-- A written value is read back, up to what closes it. -/
theorem Shape.read_print (s : Shape) (v : s.Carrier) (h : s.Keeps v) (rest : Bytes)
    (hr : Closes rest) : s.read (spell (s.print v) ++ rest) = .ok (v, rest) := by
  match s, v with
  | .text, v => exact readText_printText v rest
  | .checked ok, v => exact readChecked_printText ok v rest
  | .flag, b => exact readFlag_printFlag b rest
  | .whole low high, n => exact readWhole_printWhole h.1 h.2.1 h.2.2 hr
  | .list item, vs =>
    exact readList_commaSeparated vs (fun v hv => item.begins v (h v hv))
      (fun v hv rest hr => item.read_print v (h v hv) rest hr) rest
  | .optional inner, none => exact readOptional_printNull _ rest
  | .optional inner, some v =>
    obtain ⟨b, bs, hb, hs, -, hn⟩ := inner.print_begins v h.2
    have hi := inner.read_print v h.2 rest hr
    have hne : (b == letterN) = false := beq_eq_false_iff_ne.2 (hn h.1)
    rw [Shape.read, Shape.print]
    rw [hb, List.cons_append] at hi ⊢
    simp only [readOptional, skipSpace, List.dropWhile_cons, hs, hne, hi, Bool.false_eq_true,
      if_false]
    rfl
  | .choice names, i => exact readChoice_printText h i rest
  | .record fields, v =>
    have ht := fields.takes_members v h.1 h.2
    have hc := fields.complete_filled v
    have hopen := fields.spell_record v rest
    have hm := readMembers_commaSeparated ht rest _ (Nat.lt_succ_self _)
    rw [Shape.read, Shape.print, hopen]
    simp only [skipSpace_openBrace, openBrace_ne_openBracket, beq_self_eq_true, hm, hc, if_true,
      Bool.false_eq_true, if_false]
    rfl
  | .any _, _ => exact h.elim

/-- The written members of a record fill its slots one after the other. -/
theorem Fields.takes_members (fields : Fields) (v : fields.Carrier) (hn : fields.names.Nodup)
    (h : fields.Keeps v) :
    Takes fields.readMember fields.noSlots (fields.members v) (fields.filled v) := by
  match fields, v with
  | .nil, () => exact .nil _
  | .cons name shape absence quiet rest, (v, vs) =>
    obtain ⟨hname, hrest⟩ := List.nodup_cons.1 hn
    have hother : ∀ m ∈ rest.members vs, m.1 ≠ name := fun m hm he =>
      hname (he ▸ rest.mem_names_of_mem_members vs hm)
    have ht := rest.takes_members vs hrest h.2
    rw [Fields.members, Fields.filled, Fields.noSlots]
    split
    · exact ht.lift hother none
    · refine @Takes.cons _ _ _ (some v, rest.noSlots) _ _ _ _ (fun bs hbs => ?_)
        (ht.lift hother (some v))
      have hv := shape.read_print v h.1 bs hbs
      have hcolon (bs : Bytes) : afterColon (colon :: bs) = .ok bs := rfl
      rw [Fields.readMember, beq_self_eq_true]
      simp only [hcolon, hv]
      rfl

end

/-- Decoding gives back what was written. -/
theorem Shape.decode_encode (s : Shape) (v : s.Carrier) (h : s.Keeps v) :
    s.decode (s.encode v) = .ok v := by
  have hr := s.read_print v h [] closes_nil
  rw [List.append_nil] at hr
  rw [Shape.decode, wholly, Shape.encode, Shape.encodeText, utf8_ofList, hr]
  rfl

theorem Shape.decodeText_encodeText (s : Shape) (v : s.Carrier) (h : s.Keeps v) :
    s.decodeText (s.encodeText v) = .ok v := s.decode_encode v h

end SignOn.Json
