import SignOn.Cache.Memory
/-!
What each operation leaves under each key. As long as no key occurs twice, a write leaves the new
entry under its own key, and under every other key the entry that was there, if it is alive. So a
command on one key can only make the entries of other keys fade: `perform_of_key_ne`.
-/

namespace SignOn.Cache

/-- The key that a command is about. -/
def Command.key? : Command → Option String
  | .get key => some key
  | .set key _ _ => some key
  | .delete key => some key
  | .setIfAbsent key _ _ => some key
  | .swap key _ _ _ => some key
  | .ping => none

namespace Memory

variable {c : Memory} {now : Int} {key other : String}

/-- No key occurs twice. -/
def Keyed (c : Memory) : Prop := (c.entries.map (·.1)).Nodup

/-- An entry, if it is alive. -/
def alive (now : Int) (entry : Option Entry) : Option Entry := entry.filter (·.isLive now)

@[simp] theorem alive_none : alive now none = none := rfl

theorem alive_some (e : Entry) : alive now (some e) = if e.isLive now then some e else none := rfl

theorem alive_eq_none_or (now : Int) (entry : Option Entry) :
    alive now entry = none ∨ alive now entry = entry := by
  cases entry with
  | none => exact .inl rfl
  | some e =>
    rw [alive_some]
    split
    · exact .inr rfl
    · exact .inl rfl

/-! ## Association lists -/

theorem lookup_filter_key {p : String → Bool} (l : List (String × Entry)) (k : String) :
    (l.filter fun e => p e.1).lookup k = if p k then l.lookup k else none := by
  induction l with
  | nil => simp
  | cons e l ih =>
    obtain ⟨k', x⟩ := e
    rw [List.filter_cons, List.lookup_cons]
    by_cases hk : k = k'
    · subst hk
      cases hp : p k <;> simp [hp, ih]
    · have hne : (k == k') = false := beq_eq_false_iff_ne.2 hk
      cases hp : p k' <;> simp [List.lookup_cons, hne, ih]

theorem lookup_eq_none {l : List (String × Entry)} {k : String} (h : k ∉ l.map (·.1)) :
    l.lookup k = none := by
  induction l with
  | nil => rfl
  | cons e l ih =>
    simp only [List.map_cons, List.mem_cons, not_or] at h
    rw [List.lookup_cons, beq_eq_false_iff_ne.2 h.1]
    exact ih h.2

/-- Where no key occurs twice, the entry that is found is the one that is filtered. -/
theorem lookup_filter_entry {p : Entry → Bool} {l : List (String × Entry)}
    (h : (l.map (·.1)).Nodup) (k : String) :
    (l.filter fun e => p e.2).lookup k = (l.lookup k).filter p := by
  induction l with
  | nil => rfl
  | cons e l ih =>
    obtain ⟨k', x⟩ := e
    rw [List.map_cons, List.nodup_cons] at h
    rw [List.filter_cons, List.lookup_cons]
    by_cases hk : k = k'
    · subst hk
      have hn : (l.filter fun e => p e.2).lookup k = none := by
        rw [ih h.2, lookup_eq_none h.1]; rfl
      cases hp : p x <;> simp [Option.filter, hp, hn]
    · have hne : (k == k') = false := beq_eq_false_iff_ne.2 hk
      cases hp : p x <;> simp [List.lookup_cons, hne, ih h.2]

/-! ## Entries -/

theorem find?_erase (c : Memory) (key other : String) :
    (c.erase other).find? key = if key != other then c.find? key else none :=
  lookup_filter_key (p := (· != other)) c.entries key

@[simp] theorem find?_erase_self : (c.erase key).find? key = none := by
  rw [find?_erase, bne_self_eq_false]; rfl

theorem find?_erase_ne (h : key ≠ other) : (c.erase other).find? key = c.find? key := by
  rw [find?_erase, if_pos (bne_iff_ne.2 h)]

@[simp] theorem find?_put_self (entry : Entry) : (c.put key entry).find? key = some entry := by
  simp [find?, put]

theorem find?_put_ne (h : key ≠ other) (entry : Entry) :
    (c.put other entry).find? key = c.find? key := by
  have hf := find?_erase_ne (c := c) h
  rw [find?, put, List.lookup_cons, beq_eq_false_iff_ne.2 h]
  exact hf

theorem find?_sweep (h : c.Keyed) : (c.sweep now).find? key = alive now (c.find? key) :=
  lookup_filter_entry (p := (·.isLive now)) h key

theorem find?_write_self (value : Bytes) (lifetime : Option Lifetime) :
    (c.write now key value lifetime).find? key = some ⟨value, lifetime.map (expiry now)⟩ :=
  find?_put_self _

theorem find?_write_ne (hc : c.Keyed) (h : key ≠ other) (value : Bytes)
    (lifetime : Option Lifetime) :
    (c.write now other value lifetime).find? key = alive now (c.find? key) := by
  rw [write, find?_put_ne h, find?_sweep hc]

theorem find?_settle_self : (c.settle now key).find? key = alive now (c.find? key) := by
  unfold settle
  cases h : c.find? key with
  | none => exact h
  | some e =>
    rw [alive_some]
    by_cases hl : e.isLive now = true
    · simp [hl, h]
    · simp [hl]

theorem find?_settle_ne (h : key ≠ other) : (c.settle now other).find? key = c.find? key := by
  unfold settle
  split
  · split
    · rfl
    · exact find?_erase_ne h
  · rfl

theorem read?_eq : c.read? now key = (alive now (c.find? key)).map (·.value) := by
  unfold read?
  cases c.find? key with
  | none => rfl
  | some e =>
    rw [alive_some]
    by_cases hl : e.isLive now = true <;> simp [hl]

/-- Dropping dead entries is not seen by readers. -/
theorem read?_settle : (c.settle now key).read? now key = c.read? now key := by
  rw [read?_eq, find?_settle_self, read?_eq]
  rcases alive_eq_none_or now (c.find? key) with h | h
  · rw [h]; rfl
  · rw [h, h]

/-- What is dead stays dead. -/
theorem alive_alive {later : Int} (h : now ≤ later) (entry : Option Entry) :
    alive later (alive now entry) = alive later entry := by
  cases entry with
  | none => rfl
  | some e =>
    rw [alive_some]
    split
    · rfl
    · next hdead =>
      have hlater : ¬ e.isLive later = true := by
        unfold Entry.isLive at hdead ⊢
        split at hdead
        · simp only [decide_eq_true_eq] at hdead ⊢; omega
        · exact absurd rfl hdead
      rw [alive_some, if_neg hlater]
      rfl

/-- Nor are dead entries seen later. -/
theorem read?_settle_of_le {later : Int} (h : now ≤ later) :
    (c.settle now key).read? later key = c.read? later key := by
  rw [read?_eq, find?_settle_self, alive_alive h, read?_eq]

/-- What was written can be read until it expires. -/
theorem read?_write_self (value : Bytes) (lifetime : Lifetime) (later : Int) :
    (c.write now key value (some lifetime)).read? later key
      = if later < expiry now lifetime then some value else none := by
  simp only [read?, find?_write_self, Option.map_some, Entry.isLive, decide_eq_true_eq]

/-! ## Commands -/

theorem Keyed.erase (h : c.Keyed) : (c.erase key).Keyed :=
  h.sublist (List.filter_sublist.map _)

theorem Keyed.sweep (h : c.Keyed) : (c.sweep now).Keyed :=
  h.sublist (List.filter_sublist.map _)

theorem Keyed.put (h : c.Keyed) (entry : Entry) : (c.put key entry).Keyed := by
  refine List.nodup_cons.2 ⟨?_, h.erase⟩
  simp [Memory.erase]

theorem Keyed.write (h : c.Keyed) (value : Bytes) (lifetime : Option Lifetime) :
    (c.write now key value lifetime).Keyed := h.sweep.put _

theorem Keyed.settle (h : c.Keyed) : (c.settle now key).Keyed := by
  unfold Memory.settle
  split
  · split
    · exact h
    · exact h.erase
  · exact h

/-- No command makes a key occur twice. -/
theorem Keyed.perform (h : c.Keyed) (now : Int) (cmd : Command) : (c.perform now cmd).2.Keyed := by
  cases cmd with
  | get key => exact h.settle
  | set key value lifetime => exact h.write _ _
  | delete key => exact h.erase
  | setIfAbsent key value lifetime =>
    rw [Memory.perform]
    split
    · exact h
    · exact h.write _ _
  | swap key expected value lifetime =>
    rw [Memory.perform]
    split
    · exact h.write _ _
    · exact h.settle
  | ping => exact h

/-- A command on one key makes the entries of other keys fade at most. -/
theorem perform_of_key_ne (hc : c.Keyed) (now : Int) {cmd : Command} (h : cmd.key? ≠ some key) :
    (c.perform now cmd).2.find? key = c.find? key ∨
      (c.perform now cmd).2.find? key = alive now (c.find? key) := by
  have hne {k : String} (hk : some k ≠ some key) : key ≠ k := fun he => hk (congrArg some he.symm)
  cases cmd with
  | get k => exact .inl (find?_settle_ne (hne h))
  | set k value lifetime => exact .inr (find?_write_ne hc (hne h) _ _)
  | delete k => exact .inl (find?_erase_ne (hne h))
  | setIfAbsent k value lifetime =>
    rw [perform]
    split
    · exact .inl rfl
    · exact .inr (find?_write_ne hc (hne h) _ _)
  | swap k expected value lifetime =>
    rw [perform]
    split
    · exact .inr (find?_write_ne hc (hne h) _ _)
    · exact .inl (find?_settle_ne (hne h))
  | ping => exact .inl rfl

/-- From then on, what is read under other keys is as before. -/
theorem read?_perform_of_key_ne (hc : c.Keyed) {cmd : Command} (h : cmd.key? ≠ some key)
    {later : Int} (hle : now ≤ later) :
    (c.perform now cmd).2.read? later key = c.read? later key := by
  rw [read?_eq, read?_eq]
  rcases perform_of_key_ne hc now h with he | he
  · rw [he]
  · rw [he, alive_alive hle]

end Memory
end SignOn.Cache
