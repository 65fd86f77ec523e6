import Mathlib.Data.List.Nodup
import SignOn.Store.Memory
/-!
The session rows of the account store, seen user by user. As long as no number and no user occurs
twice among the rows, every statement leaves the rows of other users alone, and what it does to the
row of its own user can be said without looking at the list: see `rowFor_createSession_self`,
`rowFor_updateSession_self` and `rowFor_endSession_self`.
-/

namespace SignOn.Store

/-! ## Lists of items with numbers -/

theorem le_foldl_max (ns : List Int) (m : Int) :
    m ≤ ns.foldl max m ∧ ∀ n ∈ ns, n ≤ ns.foldl max m := by
  induction ns generalizing m with
  | nil => exact ⟨Int.le_refl m, fun n h => by cases h⟩
  | cons a ns ih =>
    obtain ⟨hm, hns⟩ := ih (max m a)
    rw [List.foldl_cons]
    refine ⟨by omega, fun n hn => ?_⟩
    rcases List.mem_cons.1 hn with rfl | hn
    · omega
    · exact hns n hn

theorem le_highest {ns : List Int} {n : Int} (h : n ∈ ns) : n ≤ highest ns := by
  cases ns with
  | nil => cases h
  | cons a ns =>
    obtain ⟨ha, hns⟩ := le_foldl_max ns a
    rcases List.mem_cons.1 h with rfl | h
    · exact ha
    · exact hns n h

theorem highest_succ_not_mem (ns : List Int) : highest ns + 1 ∉ ns := by
  intro h
  have := le_highest h
  omega

/-- Changing the first item with a number changes every one, if it is the only one. -/
theorem changeFirst_eq_map {α : Type} {key : α → Int} {k : Int} (f : α → α) {l : List α}
    (h : (l.map key).Nodup) :
    changeFirst (key · == k) f l = l.map fun a => if key a == k then f a else a := by
  induction l with
  | nil => rfl
  | cons a l ih =>
    rw [List.map_cons, List.nodup_cons] at h
    rw [changeFirst, List.map_cons, ih h.2]
    by_cases ha : key a = k
    · have hrest : l.map (fun b => if key b == k then f b else b) = l := by
        refine (List.map_congr_left (g := id) fun b hb => ?_).trans (List.map_id l)
        have hne : key b ≠ k := fun he => h.1 (by rw [ha, ← he]; exact List.mem_map_of_mem hb)
        simp [hne]
      rw [if_pos (beq_iff_eq.2 ha), if_pos (beq_iff_eq.2 ha), hrest]
    · rw [if_neg (by simpa using ha), if_neg (by simpa using ha)]

theorem changeFirst_congr {α : Type} {p : α → Bool} {f g : α → α} {l : List α} {a : α}
    (h : l.find? p = some a) (hfg : f a = g a) : changeFirst p f l = changeFirst p g l := by
  induction l with
  | nil => rfl
  | cons b l ih =>
    rw [changeFirst, changeFirst]
    rw [List.find?_cons] at h
    cases hb : p b with
    | true =>
      rw [hb] at h
      cases h
      rw [if_pos rfl, if_pos rfl, hfg]
    | false =>
      rw [hb] at h
      rw [if_neg Bool.false_ne_true, if_neg Bool.false_ne_true, ih h]

theorem find?_map_of_key {α : Type} {key : α → Int} {g : α → α} (hg : ∀ a, key (g a) = key a)
    (l : List α) (k : Int) : (l.map g).find? (key · == k) = (l.find? (key · == k)).map g := by
  rw [List.find?_map]
  have hp : ((key · == k) ∘ g) = (key · == k) := by funext a; simp [hg]
  rw [hp]

theorem find?_key_of_mem {α κ : Type} [DecidableEq κ] {key : α → κ} {l : List α}
    (h : (l.map key).Nodup) {a : α} (ha : a ∈ l) : l.find? (key · == key a) = some a := by
  induction l with
  | nil => cases ha
  | cons b l ih =>
    rw [List.map_cons, List.nodup_cons] at h
    rcases List.mem_cons.1 ha with rfl | ha
    · simp
    · have hne : key b ≠ key a := fun he => h.1 (he ▸ List.mem_map_of_mem ha)
      rw [List.find?_cons, beq_eq_false_iff_ne.2 hne]
      exact ih h.2 ha

namespace Memory

variable {s : Memory}

/-! ## The row of a user -/

/-- The row of a user, if there is one. -/
def rowFor (s : Memory) (userId : Int) : Option SessionRow :=
  s.sessions.find? (·.userId == userId)

/-- Every row has a number and a user of its own. -/
structure Rows (s : Memory) : Prop where
  ids : (s.sessions.map (·.id)).Nodup
  users : (s.sessions.map (·.userId)).Nodup

theorem mem_of_rowFor {userId : Int} {row : SessionRow} (h : s.rowFor userId = some row) :
    row ∈ s.sessions ∧ row.userId = userId :=
  ⟨List.mem_of_find?_eq_some h, by simpa using List.find?_some h⟩

theorem Rows.rowFor_of_mem (h : s.Rows) {row : SessionRow} (hr : row ∈ s.sessions) :
    s.rowFor row.userId = some row := find?_key_of_mem h.users hr

theorem Rows.eq_of_id (h : s.Rows) {a b : SessionRow} (ha : a ∈ s.sessions) (hb : b ∈ s.sessions)
    (hid : a.id = b.id) : a = b := List.inj_on_of_nodup_map h.ids ha hb hid

/-- The row that is found by a token holds it. -/
theorem mem_of_sessionByToken {token : String} {row : SessionRow}
    (h : s.sessionByToken token = some row) :
    row ∈ s.sessions ∧ row.refreshToken = token ∧ token ≠ "" := by
  unfold sessionByToken at h
  split at h
  · cases h
  · next hne => exact ⟨List.mem_of_find?_eq_some h, by simpa using List.find?_some h, hne⟩

theorem exists_sessionByToken {token : String} {row : SessionRow} (h : row ∈ s.sessions)
    (ht : row.refreshToken = token) (hne : token ≠ "") :
    ∃ found, s.sessionByToken token = some found := by
  rw [sessionByToken, if_neg hne, ← Option.isSome_iff_exists, List.find?_isSome]
  exact ⟨row, h, by simp [ht]⟩

/-! ## Changing rows in place -/

/-- A change that leaves the number and the user of a row. -/
structure InPlace (g : SessionRow → SessionRow) : Prop where
  id : ∀ row, (g row).id = row.id
  userId : ∀ row, (g row).userId = row.userId

theorem InPlace.ite {f : SessionRow → SessionRow} (h : InPlace f) (p : SessionRow → Bool) :
    InPlace fun row => if p row then f row else row where
  id row := by split <;> simp [h.id]
  userId row := by split <;> simp [h.userId]

theorem Rows.map (h : s.Rows) {g : SessionRow → SessionRow} (hg : InPlace g) :
    Rows { s with sessions := s.sessions.map g } where
  ids := by
    have he : (s.sessions.map g).map (·.id) = s.sessions.map (·.id) := by simp [hg.id]
    simpa only [he] using h.ids
  users := by
    have he : (s.sessions.map g).map (·.userId) = s.sessions.map (·.userId) := by simp [hg.userId]
    simpa only [he] using h.users

theorem rowFor_map {g : SessionRow → SessionRow} (hg : InPlace g) (userId : Int) :
    rowFor { s with sessions := s.sessions.map g } userId = (s.rowFor userId).map g :=
  find?_map_of_key hg.userId s.sessions userId

/-- Changing the row of one user leaves the rows of others. -/
theorem map_ite_rowFor_ne {f : SessionRow → SessionRow} {userId other : Int} (h : other ≠ userId) :
    (s.rowFor other).map (fun row => if row.userId == userId then f row else row)
      = s.rowFor other := by
  cases hr : s.rowFor other with
  | none => rfl
  | some row =>
    have hu := (mem_of_rowFor hr).2
    have hne : row.userId ≠ userId := hu ▸ h
    simp [hne]

theorem map_ite_rowFor_self {f : SessionRow → SessionRow} {userId : Int} :
    (s.rowFor userId).map (fun row => if row.userId == userId then f row else row)
      = (s.rowFor userId).map f := by
  cases hr : s.rowFor userId with
  | none => rfl
  | some row =>
    have hu := (mem_of_rowFor hr).2
    simp [hu]

/-! ## Beginning a session -/

/-- The change of the row of a user whose session begins anew. -/
def renew (new : NewSession) (row : SessionRow) : SessionRow :=
  if row.userId == new.userId then rowOf new row.id else row

theorem inPlace_renew (new : NewSession) : InPlace (renew new) where
  id row := by unfold renew; split <;> rfl
  userId row := by
    unfold renew
    split
    · next h => exact (beq_iff_eq.1 h).symm
    · rfl

/-- A user with a row keeps it, with a new content. -/
theorem createSession_of_some (h : s.Rows) {new : NewSession} {old : SessionRow}
    (ho : s.rowFor new.userId = some old) :
    s.createSession new
      = (rowOf new old.id, { s with sessions := s.sessions.map (renew new) }) := by
  have hf : s.sessions.find? (·.userId == new.userId) = some old := ho
  have hc : changeFirst (·.userId == new.userId) (fun _ => rowOf new old.id) s.sessions
      = s.sessions.map (renew new) := by
    rw [changeFirst_congr (g := fun row => rowOf new row.id) hf rfl, changeFirst_eq_map _ h.users]
    rfl
  rw [createSession, hf]
  simp only [hc]

/-- A user without a row gets one. -/
theorem createSession_of_none {new : NewSession} (ho : s.rowFor new.userId = none) :
    s.createSession new = (rowOf new (highest (s.sessions.map (·.id)) + 1),
      { s with sessions := s.sessions ++ [rowOf new (highest (s.sessions.map (·.id)) + 1)] }) := by
  have hf : s.sessions.find? (·.userId == new.userId) = none := ho
  rw [createSession, hf]

theorem Rows.createSession (h : s.Rows) (new : NewSession) : (s.createSession new).2.Rows := by
  cases ho : s.rowFor new.userId with
  | some old => rw [createSession_of_some h ho]; exact h.map (inPlace_renew new)
  | none =>
    rw [createSession_of_none ho]
    constructor
    · simp only [List.map_append, List.map_cons, List.map_nil]
      refine List.nodup_append.2 ⟨h.ids, List.pairwise_singleton _ _, fun a ha b hb => ?_⟩
      rw [List.mem_singleton] at hb
      rintro rfl
      exact highest_succ_not_mem _ (hb ▸ ha)
    · simp only [List.map_append, List.map_cons, List.map_nil]
      refine List.nodup_append.2 ⟨h.users, List.pairwise_singleton _ _, fun a ha b hb => ?_⟩
      obtain ⟨row, hr, rfl⟩ := List.mem_map.1 ha
      rw [List.mem_singleton] at hb
      have hn := List.find?_eq_none.1 ho row hr
      intro he
      exact hn (by rw [he, hb]; exact beq_self_eq_true _)

theorem users_createSession (new : NewSession) : (s.createSession new).2.users = s.users := by
  unfold createSession
  split <;> rfl

/-- The row of a user after its session has begun. -/
theorem rowFor_createSession_self (h : s.Rows) (new : NewSession) :
    ∃ id, (s.createSession new).2.rowFor new.userId = some (rowOf new id) ∧
      ∀ old, s.rowFor new.userId = some old → id = old.id := by
  cases ho : s.rowFor new.userId with
  | some old =>
    refine ⟨old.id, ?_, fun a ha => by cases ha; rfl⟩
    have hu := (mem_of_rowFor ho).2
    rw [createSession_of_some h ho, rowFor_map (inPlace_renew new), ho, Option.map_some, renew, hu,
      if_pos (beq_self_eq_true _)]
  | none =>
    refine ⟨highest (s.sessions.map (·.id)) + 1, ?_, fun a ha => by cases ha⟩
    have hf : s.sessions.find? (·.userId == new.userId) = none := ho
    rw [createSession_of_none ho, rowFor, List.find?_append, hf]
    simp [rowOf]

theorem rowFor_createSession_ne (h : s.Rows) {new : NewSession} {userId : Int}
    (hne : userId ≠ new.userId) : (s.createSession new).2.rowFor userId = s.rowFor userId := by
  cases ho : s.rowFor new.userId with
  | some old =>
    rw [createSession_of_some h ho, rowFor_map (inPlace_renew new)]
    cases hr : s.rowFor userId with
    | none => rfl
    | some row =>
      have hu := (mem_of_rowFor hr).2
      have hb : (row.userId == new.userId) = false := beq_eq_false_iff_ne.2 (hu ▸ hne)
      rw [Option.map_some, renew, hb]
      rfl
  | none =>
    have hb : (new.userId == userId) = false := beq_eq_false_iff_ne.2 fun he => hne he.symm
    rw [createSession_of_none ho, rowFor, List.find?_append]
    simp [rowOf, hb, rowFor]

/-! ## Rotating a session -/

theorem inPlace_rotate (update : SessionUpdate) : InPlace (rotate update) where
  id _ := rfl
  userId _ := rfl

theorem Rows.updateSession (h : s.Rows) (update : SessionUpdate) :
    (s.updateSession update).2.Rows := h.map ((inPlace_rotate update).ite _)

/-- The row of a user after a rotation. -/
theorem rowFor_updateSession_self (update : SessionUpdate) :
    (s.updateSession update).2.rowFor update.userId
      = (s.rowFor update.userId).map (rotate update) := by
  rw [updateSession, rowFor_map ((inPlace_rotate update).ite _), map_ite_rowFor_self]

theorem rowFor_updateSession_ne {update : SessionUpdate} {userId : Int}
    (hne : userId ≠ update.userId) :
    (s.updateSession update).2.rowFor userId = s.rowFor userId := by
  rw [updateSession, rowFor_map ((inPlace_rotate update).ite _), map_ite_rowFor_ne hne]

/-- A rotation finds the row of its user, if there is one. -/
theorem updateSession_found (update : SessionUpdate) :
    (s.updateSession update).1 = (s.rowFor update.userId).isSome := by
  rw [Bool.eq_iff_iff, updateSession, rowFor, List.find?_isSome, List.any_eq_true]

/-! ## Ending a session -/

theorem inPlace_close (endedAt : Int) : InPlace (close endedAt) where
  id _ := rfl
  userId _ := rfl

theorem endSession_eq_map (h : s.Rows) (id endedAt : Int) :
    s.endSession id endedAt = { s with
      sessions := s.sessions.map fun row => if row.id == id then close endedAt row else row } := by
  rw [endSession, changeFirst_eq_map _ h.ids]

theorem Rows.endSession (h : s.Rows) (id endedAt : Int) : (s.endSession id endedAt).Rows := by
  rw [endSession_eq_map h]
  exact h.map ((inPlace_close endedAt).ite _)

/-- The row of a user after its session has ended. -/
theorem rowFor_endSession_self (h : s.Rows) {userId : Int} {row : SessionRow}
    (hr : s.rowFor userId = some row) (endedAt : Int) :
    (s.endSession row.id endedAt).rowFor userId = some (close endedAt row) := by
  rw [endSession_eq_map h, rowFor_map ((inPlace_close endedAt).ite _), hr]
  simp

theorem rowFor_endSession_ne (h : s.Rows) {userId other : Int} {row : SessionRow}
    (hr : s.rowFor userId = some row) (hne : other ≠ userId) (endedAt : Int) :
    (s.endSession row.id endedAt).rowFor other = s.rowFor other := by
  rw [endSession_eq_map h, rowFor_map ((inPlace_close endedAt).ite _)]
  cases ho : s.rowFor other with
  | none => rfl
  | some old =>
    obtain ⟨hm, hu⟩ := mem_of_rowFor ho
    obtain ⟨hm', hu'⟩ := mem_of_rowFor hr
    have hid : (old.id == row.id) = false := beq_eq_false_iff_ne.2 fun he => by
      have := h.eq_of_id hm hm' he
      exact hne (by rw [← hu, ← hu', this])
    rw [Option.map_some, hid]
    rfl

/-- A row whose session has ended holds no token by which it could be found. -/
theorem sessionByToken_endSession_ne (h : s.Rows) {token : String} {row : SessionRow}
    (hr : s.sessionByToken token = some row) (endedAt : Int) :
    (s.endSession row.id endedAt).sessionByToken token ≠ some row := by
  intro hfound
  obtain ⟨-, htoken, hne⟩ := mem_of_sessionByToken hr
  obtain ⟨hm, -, -⟩ := mem_of_sessionByToken hfound
  rw [endSession_eq_map h] at hm
  obtain ⟨old, -, hold⟩ := List.mem_map.1 hm
  split at hold
  · rw [← htoken, ← hold] at hne
    exact hne rfl
  · next hid => exact hid (by rw [hold, beq_self_eq_true])

/-- If no other row holds the token, none is found by it any more. -/
theorem sessionByToken_endSession (h : s.Rows) {token : String} {row : SessionRow}
    (honly : ∀ other ∈ s.sessions, other.refreshToken = token → other = row) (endedAt : Int) :
    (s.endSession row.id endedAt).sessionByToken token = none := by
  rw [sessionByToken]
  split
  · rfl
  · next hne =>
    rw [endSession_eq_map h, List.find?_eq_none]
    intro changed hm htoken
    rw [beq_iff_eq] at htoken
    obtain ⟨old, ho, rfl⟩ := List.mem_map.1 hm
    split at htoken
    · exact hne htoken.symm
    · next hid => exact hid (by rw [honly old ho htoken, beq_self_eq_true])

/-! ## Other users -/

/-- The accounts and the rows of all users but one stay as they are. -/
structure Beside (old : Memory) (userId : Int) (new : Memory) : Prop where
  rows : new.Rows
  users : new.users = old.users
  others : ∀ other, other ≠ userId → new.rowFor other = old.rowFor other

theorem Beside.refl {userId : Int} (h : s.Rows) : s.Beside userId s := ⟨h, rfl, fun _ _ => rfl⟩

theorem Beside.trans {userId : Int} {a b c : Memory} (h : a.Beside userId b)
    (h' : b.Beside userId c) : a.Beside userId c :=
  ⟨h'.rows, h'.users.trans h.users,
    fun other hne => (h'.others other hne).trans (h.others other hne)⟩

theorem Beside.createSession (h : s.Rows) (new : NewSession) :
    s.Beside new.userId (s.createSession new).2 :=
  ⟨h.createSession new, users_createSession new, fun _ hne => rowFor_createSession_ne h hne⟩

theorem Beside.updateSession (h : s.Rows) (update : SessionUpdate) :
    s.Beside update.userId (s.updateSession update).2 :=
  ⟨h.updateSession update, rfl, fun _ hne => rowFor_updateSession_ne hne⟩

theorem Beside.endSession (h : s.Rows) {userId : Int} {row : SessionRow}
    (hr : s.rowFor userId = some row) (endedAt : Int) :
    s.Beside userId (s.endSession row.id endedAt) :=
  ⟨h.endSession row.id endedAt, rfl, fun _ hne => rowFor_endSession_ne h hr hne endedAt⟩

end Memory
end SignOn.Store
