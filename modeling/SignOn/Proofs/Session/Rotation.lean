import SignOn.Proofs.Flow.Concurrent
import SignOn.Proofs.Flow.Sequential
import SignOn.Proofs.Session.Book
/-!
What the calls on sessions do to the book. A call that opens a session enters one new pair for its
user, the pair that it hands out; a refresh does so for the user whose token it is given; a logout
strikes out the pair whose token it is given. Calls that fail leave the book as it was.
-/

namespace SignOn.Session

open SignOn.Keyspace SignOn.Text

variable {s : Setup} {start w w' : World} {rows keys : Int → Option Mint} {user : User} {m : Mint}

/-! ## Since the start of a call -/

/-- A later world: the clock has not gone back, UUIDs were drawn one after another, and no user has
gone. -/
structure Later (start w : World) : Prop where
  now : start.now ≤ w.now
  drawn : start.drawn ≤ w.drawn
  uuids : w.outside.uuids = start.outside.uuids
  users : ∀ user ∈ start.store.users, user ∈ w.store.users

theorem Later.refl (w : World) : Later w w := ⟨Int.le_refl _, Nat.le_refl _, rfl, fun _ h => h⟩

theorem Later.trans {a b c : World} (h : Later a b) (h' : Later b c) : Later a c :=
  ⟨Int.le_trans h.now h'.now, Nat.le_trans h.drawn h'.drawn, h'.uuids.trans h.uuids,
    fun user hu => h'.users user (h.users user hu)⟩

theorem Later.of_passes (h : Passes s w w') : Later w w' := by
  obtain ⟨⟨hstore, -, hdrawn, huuids, -, -⟩, hforward⟩ := h
  exact ⟨hforward, Nat.le_of_eq hdrawn.symm, huuids, fun user hu => hstore ▸ hu⟩

theorem Later.perform (w : World) (act : Act) : Later w (w.perform act).2 := by
  refine ⟨Int.le_of_eq (w.perform_now act).symm, w.drawn_le_perform act,
    congrArg Outside.uuids (w.perform_outside act), fun user hu => ?_⟩
  cases act with
  | store st =>
    cases st with
    | createUser new =>
      show user ∈ (w.store.createUser new w.instant).2.users
      rcases Store.Memory.createUser_cases w.store new w.instant with he | ⟨he, -⟩
      · rw [he]
        exact hu
      · rw [he]
        exact List.mem_append_left _ hu
    | createSession new =>
      show user ∈ (w.store.createSession new).2.users
      rw [Store.Memory.users_createSession]
      exact hu
    | _ => exact hu
  | _ =>
    rw [w.perform_store_eq (by intro st hst; cases hst)]
    exact hu

theorem Later.of_yields {α : Type} {f : Flow α} {result : Except Failure α}
    (h : f.Yields (Passes s) w result w') : Later w w' := by
  induction h with
  | done value w => exact .refl w
  | fail failure w => exact .refl w
  | step hd _ ih => exact ((Later.of_passes hd).trans (.perform _ _)).trans ih

theorem Later.distinct (h : Later w w') (hd : System.Distinct w') : System.Distinct w := by
  intro m n hm hn he
  have hdrawn := h.drawn
  rw [← h.uuids] at he
  exact hd m n (by omega) (by omega) he

/-- Since a start, the world has come to where the book has it. -/
structure Stands (s : Setup) (start : World) (rows keys : Int → Option Mint) (w : World) :
    Prop where
  book : Book s rows keys w
  later : Later start w

theorem Stands.passes (h : Stands s start rows keys w) (hp : Passes s w w') :
    Stands s start rows keys w' := ⟨h.book.passes hp, h.later.trans (.of_passes hp)⟩

theorem Stands.calm (h : Stands s start rows keys w) (act : Act) (ha : IsCalm act) :
    Stands s start rows keys (w.perform act).2 :=
  ⟨h.book.calm ha, h.later.trans (.perform w act)⟩

/-- What a pair is made of was read and drawn since a start. -/
structure Made (s : Setup) (start w : World) (m : Mint) : Prop where
  inRange : m.InRange s
  notBefore : start.now ≤ m.issuedAt
  notAfter : m.issuedAt ≤ w.now
  key : ∃ n, start.drawn ≤ n ∧ n < w.drawn ∧ m.key = start.outside.uuids n
  refreshId : ∃ n, start.drawn ≤ n ∧ n < w.drawn ∧ m.refreshId = start.outside.uuids n

theorem Made.later (h : Made s start w m) (hw : Later w w') : Made s start w' m := by
  obtain ⟨hrange, hbefore, hafter, ⟨i, hi, hi', hkey⟩, ⟨j, hj, hj', hid⟩⟩ := h
  have hdrawn := hw.drawn
  have hnow := hw.now
  exact ⟨hrange, hbefore, by omega, ⟨i, hi, by omega, hkey⟩, ⟨j, hj, by omega, hid⟩⟩

theorem Made.since (h : Made s w w' m) (hw : Later start w) : Made s start w' m := by
  obtain ⟨hrange, hbefore, hafter, ⟨i, hi, hi', hkey⟩, ⟨j, hj, hj', hid⟩⟩ := h
  have hdrawn := hw.drawn
  have hnow := hw.now
  rw [hw.uuids] at hkey hid
  exact ⟨hrange, by omega, hafter, ⟨i, by omega, hi', hkey⟩, ⟨j, by omega, hj', hid⟩⟩

/-- What a call draws is not what was drawn before. -/
theorem Made.apart {other : Mint} (hnew : Made s w w' m) (hold : Made s start w other)
    (hstart : Later start w) (hw : Later w w') (hd : System.Distinct w') :
    ¬ (m.key = other.key ∨ m.refreshId = other.refreshId) := by
  obtain ⟨-, -, -, ⟨i, hi, hi', hkey⟩, ⟨j, hj, hj', hid⟩⟩ := hnew
  obtain ⟨-, -, -, ⟨i₀, -, hi₀, hkey₀⟩, ⟨j₀, -, hj₀, hid₀⟩⟩ := hold
  rw [← hstart.uuids, ← hw.uuids] at hkey₀ hid₀
  rw [← hw.uuids] at hkey hid
  rintro (he | he)
  · rw [hkey, hkey₀] at he
    have hsame := hd i i₀ hi' (by omega) he
    omega
  · rw [hid, hid₀] at he
    have hsame := hd j j₀ hj' (by omega) he
    omega

/-! ## Opening a session -/

/-- A pair is made. -/
theorem mint_ensures {α : Type} {Q : Except Failure α → World → Prop} (next : Mint → Flow α)
    (h : Stands s start rows keys w) (hnext : ∀ w₁ m, Later w w₁ → Stands s start rows keys w₁ →
      Made s start w₁ m → (next m).Ensures (Passes s) Q w₁) :
    Flow.Ensures (Passes s) Q (do
      let startedAt ← Flow.now
      let key ← Flow.newUuid
      let issuedAt ← Flow.now
      let accessId ← Flow.newUuid
      let refreshId ← Flow.newUuid
      next ⟨startedAt, key, issuedAt, accessId, refreshId⟩) w := by
  intro w₁ hd₁ w₂ hd₂ w₃ hd₃ w₄ hd₄ w₅ hd₅
  have h₁ : Stands s start rows keys w₁ := h.passes hd₁
  have h₂ : Stands s start rows keys w₂ := h₁.passes hd₂
  have h₃ : Stands s start rows keys w₃ := (h₂.calm .uuid trivial).passes hd₃
  have h₅ : Stands s start rows keys w₅ :=
    ((h₃.passes hd₄).calm .uuid trivial).passes hd₅
  have hlater₂ : Later w w₂ := (Later.of_passes hd₁).trans (.of_passes hd₂)
  have hlater₃ : Later (w₂.perform .uuid).2 w₃ := .of_passes hd₃
  have hlater₅ : Later w₃ w₅ :=
    ((Later.of_passes hd₄).trans (.perform w₄ .uuid)).trans (.of_passes hd₅)
  have hlater₆ : Later w₅ (w₅.perform .uuid).2 := .perform w₅ .uuid
  refine hnext (w₅.perform .uuid).2 _ ?_ (h₅.calm .uuid trivial)
    ⟨⟨h₁.book.clocked, h₃.book.clocked⟩, h₃.later.now, (hlater₅.trans hlater₆).now,
      ⟨w₂.drawn, h₂.later.drawn, ?_, ?_⟩, ⟨w₅.drawn, h₅.later.drawn, ?_, ?_⟩⟩
  · exact ((hlater₂.trans (.perform w₂ .uuid)).trans hlater₃).trans (hlater₅.trans hlater₆)
  · have hd := (hlater₃.trans (hlater₅.trans hlater₆)).drawn
    exact Nat.lt_of_lt_of_le (Nat.lt_succ_self w₂.drawn) hd
  · exact congrFun h₂.later.uuids w₂.drawn
  · exact Nat.lt_succ_self w₅.drawn
  · exact congrFun h₅.later.uuids w₅.drawn

/-- A call has handed out a new pair to a user, and the book says so. -/
def Renewed (s : Setup) (start : World) (rows : Int → Option Mint) (user : User)
    (result : Except Failure TokenPair) (w : World) : Prop :=
  ∃ m, result = .ok (m.pair s user) ∧ user ∈ w.store.users ∧ Made s start w m ∧
    Stands s start (Function.update rows user.id (some m)) (Function.update rows user.id (some m)) w

/-- With the row written, the key of the pair is cached and the pair is handed out. -/
theorem put_ensures (hl : Lasting s) (hu : user ∈ w.store.users) (hm : Made s start w m)
    (h : Stands s start (Function.update rows user.id (some m)) rows w) :
    Flow.Ensures (Passes s) (Renewed s start rows user) (do
      Sessions.put s.sessionLifetime (m.snapshot user).idCode (m.snapshot user).sessionKey
      return m.pair s user) w := by
  intro w₁ hd
  have h₁ := h.passes hd
  have hlater : Later w w₁ := .of_passes hd
  have hm₁ := hm.later hlater
  have hu₁ := hlater.users user hu
  have hput := h₁.book.put hl hu₁ hm₁.notAfter
  have hlater₁ : Later w₁ _ := .perform w₁ (.cache (.set (Sessions.key user.idCode)
    (utf8 m.key.text) (some s.sessionLifetime)))
  show Flow.Ensures _ _ (Flow.ofExcept (w₁.perform (.cache (.set (Sessions.key user.idCode)
    (utf8 m.key.text) (some s.sessionLifetime)))).1 >>= fun _ => pure (m.pair s user)) _
  rw [h₁.book.put_ok]
  exact ⟨m, rfl, hlater₁.users user hu₁, hm₁.later hlater₁, hput, h₁.later.trans hlater₁⟩

/-- A session begins with a pair that has been made. -/
theorem begin_ensures (hl : Lasting s) (hu : user ∈ w.store.users) (hm : Made s start w m)
    (h : Stands s start rows rows w) (provider : AuthProvider) (ip : String) :
    Flow.Ensures (Passes s) (Renewed s start rows user) (do
      let _ ← Flow.store (.createSession (newRow (m.snapshot user) (m.pair s user) provider ip))
      Sessions.put s.sessionLifetime (m.snapshot user).idCode (m.snapshot user).sessionKey
      return m.pair s user) w := by
  intro w₁ hd
  have h₁ := h.passes hd
  have hlater₁ : Later w w₁ := .of_passes hd
  have hu₁ := hlater₁.users user hu
  have hlater₂ : Later w₁ _ := .perform w₁ (.store (.createSession (newRow (m.snapshot user)
    (m.pair s user) provider ip)))
  have hrow : Book s (Function.update rows user.id (some m)) rows (w₁.perform
      (.store (.createSession (newRow (m.snapshot user) (m.pair s user) provider ip)))).2 :=
    h₁.book.createSession hu₁ hm.inRange rfl rfl rfl
  exact put_ensures hl (hlater₂.users user hu₁) (hm.later (hlater₁.trans hlater₂))
    ⟨hrow, h₁.later.trans hlater₂⟩

theorem create_ensures (hl : Lasting s) (hu : user ∈ w.store.users)
    (h : Stands s start rows rows w) (provider : AuthProvider) (ip : String) :
    (create s user provider ip).Ensures (Passes s) (Renewed s start rows user) w := by
  refine mint_ensures (fun m => do
    let _ ← Flow.store (.createSession (newRow (m.snapshot user) (m.pair s user) provider ip))
    Sessions.put s.sessionLifetime (m.snapshot user).idCode (m.snapshot user).sessionKey
    return m.pair s user) h fun w₁ m hlater h₁ hm => ?_
  exact begin_ensures hl (hlater.users user hu) hm h₁ provider ip

theorem update_ensures (hl : Lasting s) (hu : user ∈ w.store.users)
    (h : Stands s start rows rows w) (provider : AuthProvider) (ip : String) :
    (update s user provider ip).Ensures (Passes s) (Renewed s start rows user) w := by
  refine mint_ensures (fun m => do
    let updated ← Flow.store
      (.updateSession ⟨(m.snapshot user).userId, ip, (m.pair s user).refresh, m.startedAt⟩)
    if !updated then
      let _ ← Flow.store (.createSession (newRow (m.snapshot user) (m.pair s user) provider ip))
    Sessions.put s.sessionLifetime (m.snapshot user).idCode (m.snapshot user).sessionKey
    return m.pair s user) h fun w₁ m hlater h₁ hm => ?_
  intro w₂ hd
  have h₂ := h₁.passes hd
  have hlater₂ : Later w₁ w₂ := .of_passes hd
  have hu₂ := (hlater.trans hlater₂).users user hu
  have hlater₃ : Later w₂ _ := .perform w₂ (.store
    (.updateSession ⟨user.id, ip, (m.pair s user).refresh, m.startedAt⟩))
  have hm₃ := hm.later (hlater₂.trans hlater₃)
  obtain ⟨found, hanswer, hrow⟩ : ∃ found, (w₂.perform (.store
      (.updateSession ⟨user.id, ip, (m.pair s user).refresh, m.startedAt⟩))).1 = .ok found ∧
      Book s (if found then Function.update rows user.id (some m) else rows) rows (w₂.perform
        (.store (.updateSession ⟨user.id, ip, (m.pair s user).refresh, m.startedAt⟩))).2 :=
    h₂.book.updateSession hu₂ hm.inRange rfl rfl rfl
  show Flow.Ensures _ _ (Flow.ofExcept (w₂.perform (.store
    (.updateSession ⟨user.id, ip, (m.pair s user).refresh, m.startedAt⟩))).1 >>= fun updated => do
      if !updated then
        let _ ← Flow.store (.createSession (newRow (m.snapshot user) (m.pair s user) provider ip))
      Sessions.put s.sessionLifetime (m.snapshot user).idCode (m.snapshot user).sessionKey
      return m.pair s user) _
  rw [hanswer]
  -- Without a row nothing was rotated, and the session begins like that of a new user.
  cases found with
  | true => exact put_ensures hl (hlater₃.users user hu₂) hm₃ ⟨hrow, h₂.later.trans hlater₃⟩
  | false =>
    exact begin_ensures hl (hlater₃.users user hu₂) hm₃ ⟨hrow, h₂.later.trans hlater₃⟩ provider ip

/-! ## Refreshing and ending a session -/

theorem calm_ensures {α : Type} {f : Flow α} (hf : f.Acts IsCalm)
    (h : Stands s start rows keys w) :
    f.Ensures (Passes s) (fun _ w' => Stands s start rows keys w') w :=
  .of_acts hf (fun _ _ hd hw => hw.passes hd) (fun _ act ha hw => hw.calm act ha) h

theorem validateRefresh_calm (s : Setup) (token : String) :
    (validateRefresh s token).Acts IsCalm := by
  refine ⟨trivial, fun answer => ?_⟩
  refine (Flow.acts_ofExcept _ _).bind fun found => ?_
  refine (Flow.acts_require _ _ _).bind fun row => ?_
  refine Flow.Acts.bind ⟨trivial, fun now => Flow.acts_ofExcept _ _⟩ fun snapshot => ?_
  exact (Flow.acts_ensure _ _ _).bind fun _ => trivial

theorem refresh_ensures (hl : Lasting s) (h : Stands s start rows rows w) (token ip : String) :
    (refresh s token ip).Ensures (Passes s) (fun result w' =>
      (∃ e, result = .error e ∧ Stands s start rows rows w') ∨
        ∃ user pair, result = .ok (user, pair) ∧ Renewed s start rows user (.ok pair) w') w := by
  refine Flow.Ensures.bind ((calm_ensures (validateRefresh_calm s token) h).mono ?_)
  intro result w₁ h₁
  cases result with
  | error e => exact .inl ⟨e, rfl, h₁⟩
  | ok snapshot =>
    intro w₂ hd
    have h₂ := h₁.passes hd
    show Flow.Ensures _ _ (Flow.require (w₂.store.users.find? (·.idCode == snapshot.idCode))
      .userNotFound >>= fun user => do
        Flow.ensure (!user.isDeleted) .inactiveUser
        let pair ← update s user user.provider ip
        return (user, pair)) w₂
    cases hfound : w₂.store.users.find? (·.idCode == snapshot.idCode) with
    | none => exact .inl ⟨.userNotFound, rfl, h₂⟩
    | some user =>
      have hu : user ∈ w₂.store.users := List.mem_of_find?_eq_some hfound
      rw [Flow.require_some, Flow.done_bind]
      refine Flow.Ensures.bind (Flow.ensures_ensure (fun _ => ?_) (Or.inl ⟨_, rfl, h₂⟩))
      refine Flow.Ensures.bind ((update_ensures hl hu h₂ user.provider ip).mono ?_)
      rintro result w₃ ⟨m, rfl, hrenewed⟩
      exact .inr ⟨user, m.pair s user, rfl, m, rfl, hrenewed⟩

/-- A call has ended the session of a user with the token of its pair, and the book says so. -/
def Ended (s : Setup) (start : World) (rows : Int → Option Mint) (token : String) (w : World) :
    Prop :=
  ∃ user m, user ∈ w.store.users ∧ rows user.id = some m ∧ token = (m.pair s user).refresh ∧
    Stands s start (Function.update rows user.id none) (Function.update rows user.id none) w

/-- A row that is found by a token is that of a user whom the book gives a pair with this token. -/
theorem Book.owner (h : Book s rows keys w) {token : String} {row : SessionRow}
    (hr : w.store.sessionByToken token = some row) :
    ∃ user m, user ∈ w.store.users ∧ user.id = row.userId ∧
      w.store.rowFor user.id = some row ∧ rows user.id = some m ∧
      token = (m.pair s user).refresh ∧ row.startedAt = some m.startedAt := by
  obtain ⟨hmem, htoken, hne⟩ := Store.Memory.mem_of_sessionByToken hr
  have hrow := h.sound.rowFor_of_mem hmem
  have howner : ∃ user ∈ w.store.users, user.id = row.userId := by
    refine Decidable.byContradiction fun hno => ?_
    have hstranger := (h.strangers row.userId fun user hu he => hno ⟨user, hu, he⟩).1
    rw [hrow] at hstranger
    cases hstranger
  obtain ⟨user, hu, hid⟩ := howner
  rw [← hid] at hrow
  have his := h.row user hu
  rw [hrow] at his
  cases hm : rows user.id with
  | none =>
    rw [hm] at his
    exact absurd (htoken.symm.trans (his row rfl)) hne
  | some m =>
    rw [hm] at his
    obtain ⟨r, hr, ht, hs⟩ := his
    cases hr
    exact ⟨user, m, hu, hid, hrow, hm, htoken.symm.trans ht, hs⟩

theorem logout_ensures (h : Stands s start rows rows w) (token : String) :
    (logout token).Ensures (Passes s) (fun result w' =>
      (∃ e, result = .error e ∧ Stands s start rows rows w') ∨
        (result = .ok () ∧ Ended s start rows token w')) w := by
  intro w₁ hd₁
  have h₁ := h.passes hd₁
  change Flow.Ensures _ _ (Flow.require (w₁.store.sessionByToken token) .invalidToken >>= _) w₁
  cases hr : w₁.store.sessionByToken token with
  | none => exact .inl ⟨.invalidToken, rfl, h₁⟩
  | some row =>
    obtain ⟨user, m, hu, hid, hrow, hm, htoken, -⟩ := h₁.book.owner hr
    intro w₂ hd₂ w₃ hd₃
    -- Only time has passed since the row was found: the row that is ended is still its user's.
    have hstore : w₃.store = w₁.store := hd₃.store.trans hd₂.store
    have h₃ : Stands s start rows rows w₃ := (h₁.passes hd₂).passes hd₃
    have hended : Stands s start (Function.update rows user.id none) rows
        (w₃.perform (.store (.endSession row.id w₂.now))).2 :=
      ⟨h₃.book.endSession (hstore ▸ hu) (hstore ▸ hrow) w₂.now, h₃.later.trans (.perform w₃ _)⟩
    intro w₄ hd₄
    have h₄ := hended.passes hd₄
    have hu₄ : user ∈ w₄.store.users :=
      ((Later.perform w₃ _).trans (.of_passes hd₄)).users user (hstore ▸ hu)
    have hfound : w₄.store.users.find? (·.id == row.userId) = some user := by
      rw [← hid]
      exact Store.find?_key_of_mem h₄.book.accounts.ids hu₄
    have hanswer : (w₄.perform (.store (.userById row.userId))).1 = .ok (some user) :=
      congrArg Except.ok hfound
    rw [hanswer]
    intro w₅ hd₅
    have h₅ := h₄.passes hd₅
    have hu₅ := (Later.of_passes hd₅).users user hu₄
    show Flow.Ensures _ _ (Flow.ofExcept
      (w₅.perform (.cache (.delete (Sessions.key user.idCode)))).1) _
    rw [h₅.book.remove_ok]
    exact .inr ⟨rfl, user, m, (Later.perform w₅ _).users user hu₅, hm, htoken,
      h₅.book.remove hu₅, h₅.later.trans (.perform w₅ _)⟩

end SignOn.Session
