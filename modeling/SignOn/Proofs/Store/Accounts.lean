import Mathlib.Data.List.Pairwise
import SignOn.Proofs.Store.Rows
/-!
The accounts of the account store. No number, code, email or phone occurs twice: `Unique`. A new
account has a number and a code that none has had before, and the others stay as they are, so that
what was registered stays so: `roster`. In a store that is `RowsOwned`, every session row belongs to
an account.
-/

namespace SignOn

/-- An account as it was registered, in service. -/
def User.registered (u : User) : User := { u with deletedAt := none }

/-- Accounts that were registered alike have the same number, code, email and phone. -/
theorem User.eq_of_registered {a b : User} (h : a.registered = b.registered) :
    a.id = b.id ∧ a.idCode = b.idCode ∧ a.email = b.email ∧ a.phone = b.phone := by
  have hfield {β : Type} (g : User → β) (hg : ∀ u : User, g u.registered = g u) : g a = g b := by
    rw [← hg a, h, hg]
  exact ⟨hfield _ fun _ => rfl, hfield _ fun _ => rfl, hfield _ fun _ => rfl,
    hfield _ fun _ => rfl⟩

end SignOn

namespace SignOn.Store

theorem conflicts_eq_false {new : NewUser} {old : User} : conflicts new old = false ↔
    old.idCode ≠ new.idCode ∧ (∀ email, new.email = some email → old.email ≠ some email) ∧
      ∀ phone, new.phone = some phone → old.phone ≠ some phone := by
  cases he : new.email <;> cases hp : new.phone <;> simp [conflicts, he, hp, and_assoc]

theorem map_changeFirst {α β : Type} {p : α → Bool} {f : α → α} {g : α → β}
    (h : ∀ a, g (f a) = g a) (l : List α) : (changeFirst p f l).map g = l.map g := by
  induction l with
  | nil => rfl
  | cons a l ih =>
    rw [changeFirst]
    split
    · rw [List.map_cons, List.map_cons, h]
    · rw [List.map_cons, List.map_cons, ih]

/-- Whoever is in a list is still there, changed or not, when the first of some kind is changed. -/
theorem mem_changeFirst {α : Type} {p : α → Bool} {f : α → α} {l : List α} {a : α} (h : a ∈ l) :
    a ∈ changeFirst p f l ∨ f a ∈ changeFirst p f l := by
  induction l with
  | nil => cases h
  | cons b l ih =>
    rw [changeFirst]
    rcases List.mem_cons.1 h with rfl | h
    · split <;> simp
    · split
      · simp [h]
      · rcases ih h with ih | ih <;> simp [ih]

end SignOn.Store

namespace SignOn.Store.Memory

variable {s : Memory} {new : NewUser} {now : Instant}

/-- Every account has a number and a code of its own. -/
structure Accounts (s : Memory) : Prop where
  ids : (s.users.map (·.id)).Nodup
  codes : (s.users.map (·.idCode)).Nodup
  named : ∀ user ∈ s.users, user.idCode ≠ ""

theorem Accounts.eq_of_id (h : s.Accounts) {a b : User} (ha : a ∈ s.users) (hb : b ∈ s.users)
    (hid : a.id = b.id) : a = b := List.inj_on_of_nodup_map h.ids ha hb hid

theorem Accounts.eq_of_idCode (h : s.Accounts) {a b : User} (ha : a ∈ s.users) (hb : b ∈ s.users)
    (hcode : a.idCode = b.idCode) : a = b := List.inj_on_of_nodup_map h.codes ha hb hcode

/-- An account is stored behind the others, or there is a conflict and nothing is stored. -/
theorem createUser_cases (s : Memory) (new : NewUser) (now : Instant) :
    (s.createUser new now = (.error .userAlreadyExists, s)) ∨
      (s.createUser new now
          = (.ok (s.accountFor new now), { s with users := s.users ++ [s.accountFor new now] }) ∧
        ∀ user ∈ s.users, conflicts new user = false) := by
  unfold createUser
  split
  · exact .inl rfl
  · next hfree =>
    refine .inr ⟨rfl, fun user hu => ?_⟩
    simpa using fun hconflict => hfree (List.any_eq_true.2 ⟨user, hu, hconflict⟩)

/-- The number of a new account is new. -/
theorem id_accountFor_ne {user : User} (hu : user ∈ s.users) :
    user.id ≠ (s.accountFor new now).id := by
  intro he
  refine highest_succ_not_mem (s.users.map (·.id)) ?_
  have hmem : user.id ∈ s.users.map (·.id) := List.mem_map_of_mem hu
  rw [he] at hmem
  exact hmem

/-- With the new account, numbers are still distinct. -/
theorem nodup_ids_append (h : (s.users.map (·.id)).Nodup) :
    ((s.users ++ [s.accountFor new now]).map (·.id)).Nodup := by
  simp only [List.map_append, List.map_cons, List.map_nil]
  refine List.nodup_append.2 ⟨h, List.pairwise_singleton _ _, fun a ha b hb => ?_⟩
  obtain ⟨user, hu, rfl⟩ := List.mem_map.1 ha
  rw [List.mem_singleton] at hb
  rw [hb]
  exact id_accountFor_ne hu

/-- With an account that stands in nobody's way, codes are still distinct. -/
theorem nodup_codes_append (h : (s.users.map (·.idCode)).Nodup)
    (hfree : ∀ user ∈ s.users, conflicts new user = false) :
    ((s.users ++ [s.accountFor new now]).map (·.idCode)).Nodup := by
  simp only [List.map_append, List.map_cons, List.map_nil]
  refine List.nodup_append.2 ⟨h, List.pairwise_singleton _ _, fun a ha b hb => ?_⟩
  obtain ⟨user, hu, rfl⟩ := List.mem_map.1 ha
  rw [List.mem_singleton] at hb
  rw [hb]
  exact (conflicts_eq_false.1 (hfree user hu)).1

theorem Accounts.append (h : s.Accounts) (hnew : new.idCode ≠ "")
    (hfree : ∀ user ∈ s.users, conflicts new user = false) :
    Accounts { s with users := s.users ++ [s.accountFor new now] } where
  ids := nodup_ids_append h.ids
  codes := nodup_codes_append h.codes hfree
  named user hu := by
    rcases List.mem_append.1 hu with hu | hu
    · exact h.named user hu
    · rw [List.mem_singleton] at hu
      rw [hu]
      exact hnew

/-! ## What is registered -/

/-- No two accounts share a number, a code, an email or a phone, whether or not they are in service.
-/
structure Unique (s : Memory) : Prop where
  ids : (s.users.map (·.id)).Nodup
  codes : (s.users.map (·.idCode)).Nodup
  emails : (s.users.filterMap (·.email)).Nodup
  phones : (s.users.filterMap (·.phone)).Nodup

theorem unique_empty : Unique {} :=
  ⟨List.nodup_nil, List.nodup_nil, List.nodup_nil, List.nodup_nil⟩

/-- The accounts as they were registered. -/
def roster (s : Memory) : List User := s.users.map User.registered

/-- An account as it is in a store, up to its being in service. -/
def Known (s : Memory) (user : User) : Prop := user.registered ∈ s.roster

theorem known_of_mem {user : User} (h : user ∈ s.users) : s.Known user := List.mem_map_of_mem h

theorem nodup_filterMap_append {α β : Type} {f : α → Option β} {l : List α} {a : α}
    (h : (l.filterMap f).Nodup) (hfree : ∀ b, f a = some b → ∀ x ∈ l, f x ≠ some b) :
    ((l ++ [a]).filterMap f).Nodup := by
  rw [List.filterMap_append]
  cases ha : f a with
  | none => simpa [ha] using h
  | some b =>
    simp only [List.filterMap_cons, ha, List.filterMap_nil]
    refine List.nodup_append.2 ⟨h, List.pairwise_singleton _ _, fun c hc d hd => ?_⟩
    obtain ⟨x, hx, hfx⟩ := List.mem_filterMap.1 hc
    rw [List.mem_singleton] at hd
    rintro rfl
    exact hfree b ha x hx (hd ▸ hfx)

theorem Unique.append (h : s.Unique) (hfree : ∀ user ∈ s.users, conflicts new user = false) :
    Unique { s with users := s.users ++ [s.accountFor new now] } where
  ids := nodup_ids_append h.ids
  codes := nodup_codes_append h.codes hfree
  emails := nodup_filterMap_append h.emails fun email he user hu =>
    (conflicts_eq_false.1 (hfree user hu)).2.1 email he
  phones := nodup_filterMap_append h.phones fun phone hp user hu =>
    (conflicts_eq_false.1 (hfree user hu)).2.2 phone hp

/-- Where no value occurs twice, two items of one value are one. -/
theorem eq_of_nodup_filterMap {α β : Type} {f : α → Option β} {l : List α}
    (h : (l.filterMap f).Nodup) {a b : α} (ha : a ∈ l) (hb : b ∈ l) {c : β} (hfa : f a = some c)
    (hfb : f b = some c) : a = b := by
  have hapart : l.Pairwise fun x y => ∀ c, f x = some c → f y ≠ some c :=
    (List.pairwise_filterMap.1 h).imp fun hxy c hx hy => hxy c hx c hy rfl
  have hsymm : Std.Symm fun x y : α => ∀ c, f x = some c → f y ≠ some c :=
    ⟨fun x y hxy c hy hx => hxy c hx hy⟩
  by_contra hne
  exact hapart.forall ha hb hne c hfa hfb

/-- There, an item is found by its value. -/
theorem find?_of_nodup_filterMap {α β : Type} [DecidableEq β] {f : α → Option β} {l : List α}
    (h : (l.filterMap f).Nodup) {a : α} (ha : a ∈ l) {b : β} (hf : f a = some b) :
    l.find? (f · == some b) = some a := by
  have hsome : (l.find? (f · == some b)).isSome = true := by
    rw [List.find?_isSome]
    exact ⟨a, ha, by simp [hf]⟩
  obtain ⟨x, hx⟩ := Option.isSome_iff_exists.1 hsome
  have hfx : f x = some b := by simpa using List.find?_some hx
  rw [hx, eq_of_nodup_filterMap h (List.mem_of_find?_eq_some hx) ha hfx hf]

theorem Unique.eq_of_email (h : s.Unique) {a b : User} (ha : a ∈ s.users) (hb : b ∈ s.users)
    {email : String} (hae : a.email = some email) (hbe : b.email = some email) : a = b :=
  eq_of_nodup_filterMap h.emails ha hb hae hbe

theorem Unique.eq_of_phone (h : s.Unique) {a b : User} (ha : a ∈ s.users) (hb : b ∈ s.users)
    {phone : String} (hap : a.phone = some phone) (hbp : b.phone = some phone) : a = b :=
  eq_of_nodup_filterMap h.phones ha hb hap hbp

theorem Unique.eq_of_id (h : s.Unique) {a b : User} (ha : a ∈ s.users) (hb : b ∈ s.users)
    (hid : a.id = b.id) : a = b := List.inj_on_of_nodup_map h.ids ha hb hid

theorem Unique.eq_of_idCode (h : s.Unique) {a b : User} (ha : a ∈ s.users) (hb : b ∈ s.users)
    (hcode : a.idCode = b.idCode) : a = b := List.inj_on_of_nodup_map h.codes ha hb hcode

/-- The stored account of a known one. -/
theorem Known.stored {user : User} (h : s.Known user) : ∃ a ∈ s.users, a.id = user.id ∧
    a.idCode = user.idCode ∧ a.email = user.email ∧ a.phone = user.phone := by
  obtain ⟨a, ha, he⟩ := List.mem_map.1 h
  exact ⟨a, ha, User.eq_of_registered he⟩

/-- The code of an account leads to its number. -/
theorem Unique.id_of_idCode (h : s.Unique) {a b : User} (ha : s.Known a) (hb : s.Known b)
    (hcode : a.idCode = b.idCode) : a.id = b.id := by
  obtain ⟨x, hx, hxid, hxcode, -⟩ := ha.stored
  obtain ⟨y, hy, hyid, hycode, -⟩ := hb.stored
  have hxy : x = y := h.eq_of_idCode hx hy (by rw [hxcode, hycode, hcode])
  rw [← hxid, ← hyid, hxy]

/-- What is unique is so by the roster. -/
theorem Unique.of_roster {s' : Memory} (h : s.Unique) (hr : s'.roster = s.roster) : s'.Unique := by
  have hmap {β : Type} (g : User → β) (hg : ∀ u : User, g u.registered = g u) :
      s'.users.map g = s.users.map g := by
    have hs (t : Memory) : t.roster.map g = t.users.map g := by
      rw [roster, List.map_map]
      exact List.map_congr_left fun u _ => hg u
    rw [← hs, hr, hs]
  have hfilter (g : User → Option String) (hg : ∀ u : User, g u.registered = g u) :
      s'.users.filterMap g = s.users.filterMap g := by
    have hs (t : Memory) : t.users.filterMap g = (t.users.map g).filterMap id := by
      rw [List.filterMap_map]; rfl
    rw [hs, hs, hmap g hg]
  refine ⟨?_, ?_, ?_, ?_⟩
  · rw [hmap _ fun _ => rfl]; exact h.ids
  · rw [hmap _ fun _ => rfl]; exact h.codes
  · rw [hfilter _ fun _ => rfl]; exact h.emails
  · rw [hfilter _ fun _ => rfl]; exact h.phones

/-- Only storing an account changes the accounts. -/
theorem users_perform {st : Statement} (h : ∀ new, st ≠ .createUser new) :
    (s.perform now st).2.users = s.users := by
  cases st with
  | createUser new => exact absurd rfl (h new)
  | createSession new => exact users_createSession new
  | _ => rfl

/-- What is registered stays registered. -/
theorem Known.perform {user : User} (h : s.Known user) (st : Statement) :
    (s.perform now st).2.Known user := by
  cases st with
  | createUser new =>
    rcases createUser_cases s new now with he | ⟨he, -⟩
    · rw [Memory.perform, he]
      exact h
    · rw [Memory.perform, he, Known, roster, List.map_append]
      exact List.mem_append_left _ h
  | _ => rw [Known, roster, users_perform (by intro new he; cases he)]; exact h

theorem roster_retireUser (s : Memory) (id : Int) (now : Instant) :
    (s.retireUser id now).roster = s.roster :=
  map_changeFirst (f := fun u : User => { u with deletedAt := some now }) (fun _ => rfl) s.users

/-! ## Rows and their accounts -/

/-- The store has an account with a number. -/
def HasUser (s : Memory) (id : Int) : Prop := ∃ user ∈ s.users, user.id = id

/-- Every row belongs to an account, and the numbers of accounts and rows are distinct. -/
structure RowsOwned (s : Memory) : Prop where
  rows : s.Rows
  ids : (s.users.map (·.id)).Nodup
  owner : ∀ id row, s.rowFor id = some row → s.HasUser id

end SignOn.Store.Memory
