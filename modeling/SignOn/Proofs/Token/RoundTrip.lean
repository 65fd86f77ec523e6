import SignOn.Proofs.Crypto.Base64
import SignOn.Proofs.Json.RoundTrip
import SignOn.Proofs.Text.Splitting
import SignOn.Proofs.Uuid
import SignOn.Token.Pair
/-!
An issued token is accepted and says what it was issued for: `read?_write` recovers the claims of a
written token, and `validate_issue` says that an issued token is valid until the second at which it
expires, and from then on invalid. Tokens that are issued under different names are different.
-/

namespace SignOn.Token

open SignOn.Json SignOn.Text SignOn.Crypto

/-! ## Points -/

theorem no_point_in_part (bs : Bytes) : ∀ c ∈ part bs, (c == '.') = false := by
  intro c hc
  rw [beq_eq_false_iff_ne]
  rintro rfl
  exact Base64.point_not_mem_encode bs hc

/-- A text of three parts is taken apart at its points. -/
theorem ofText?_parts (a b c : Bytes) :
    Parts.ofText? (String.ofList ((part a ++ '.' :: part b) ++ '.' :: part c))
      = some ⟨part a, part b, part c⟩ := by
  have hc := splitAtLast?_append (p := (· == '.')) (c := '.') rfl (no_point_in_part c)
    (part a ++ '.' :: part b)
  have hb := splitAtLast?_append (p := (· == '.')) (c := '.') rfl (no_point_in_part b) (part a)
  rw [Parts.ofText?, String.toList_ofList, hc]
  simp only [bind, Option.bind, hb]
  rfl

theorem ofPart?_part (bs : Bytes) : ofPart? (part bs) = some bs :=
  Base64.decode_encode Base64.urlSafe_distinct bs

/-! ## Claims -/

/-- An instant that a token can name as its end. -/
def IsExpiry (expires : Int) : Prop := 0 ≤ expires ∧ expires ≤ 9223372036854775807

/-- A number that 64 bits with a sign can hold. -/
def IsInt64 (n : Int) : Prop := -9223372036854775808 ≤ n ∧ n ≤ 9223372036854775807

theorem IsExpiry.isInt64 {n : Int} (h : IsExpiry n) : IsInt64 n := by
  unfold IsExpiry at h
  constructor <;> omega

theorem accepts_encoded : Header.accepts Header.encoded = true := by
  have hk : Header.shape.Keeps Header.issued := by
    simp [Header.shape, Header.issued, Shape.Keeps, Fields.Keeps, Fields.names, Shape.isNullable,
      outline]
  have hd := Header.shape.decode_encode Header.issued hk
  rw [Header.accepts, Header.encoded, hd]
  rfl

theorem decode?_encode {c : Claims} (h : IsExpiry c.expires) :
    Claims.decode? c.encode = some c := by
  have hk : Claims.shape.Keeps c.toCarrier := by
    have hb : c.expires.natAbs < doubleBound := lt_doubleBound (by unfold IsExpiry at h; omega)
    simp [Claims.shape, Claims.toCarrier, Shape.Keeps, Fields.Keeps, Fields.names, outline, h.1,
      h.2, hb]
  have hd := Claims.shape.decode_encode c.toCarrier hk
  obtain ⟨rest, hr⟩ : ∃ rest, c.encode = openBrace :: rest := by
    rw [Claims.encode, Shape.encode, Shape.encodeText, utf8_ofList]
    exact ⟨_, spell_ascii (by decide) _⟩
  have hopen : ((skipSpace c.encode).head? == some openBrace) = true := by rw [hr]; rfl
  rw [Claims.decode?, if_pos hopen, Claims.encode, hd]
  rfl

theorem print_eq (c : Claims) : Claims.shape.print c.toCarrier
    = '{' :: (printText "iss" ++ ':' :: printText c.payload ++ ',' ::
        commaSeparated [printText "exp" ++ ':' :: printWhole c.expires,
          printText "jti" ++ ':' :: printText c.id]) ++ ['}'] := rfl

/-- The carried text comes first in written claims. -/
theorem encode_eq (c : Claims) : ∃ rest, c.encode
    = spell ('{' :: printText "iss" ++ [':']) ++ (spell (printText c.payload) ++ rest) := by
  rw [Claims.encode, Shape.encode, Shape.encodeText, utf8_ofList, print_eq]
  generalize commaSeparated _ = more
  refine ⟨spell (',' :: more ++ ['}']), ?_⟩
  simp only [← spell_append]
  simp

/-- Written claims tell what they carry, whenever they expire. -/
theorem payload_of_encode {c d : Claims} (h : c.encode = d.encode) : c.payload = d.payload := by
  obtain ⟨rest, hc⟩ := encode_eq c
  obtain ⟨rest', hd⟩ := encode_eq d
  rw [hc, hd] at h
  have hread := readText_printText c.payload rest
  rw [List.append_cancel_left h, readText_printText] at hread
  exact (congrArg Prod.fst (Except.ok.inj hread)).symm

/-- The first member of written claims, byte by byte. -/
theorem encode_members (c : Claims) : ∃ rest, c.encode
    = openBrace :: quote :: (spell ("iss".toList.flatMap escapeChar) ++ quote :: colon ::
        (spell (printText c.payload) ++ rest)) := by
  obtain ⟨rest, h⟩ := encode_eq c
  refine ⟨rest, ?_⟩
  rw [h, List.cons_append, spell_ascii (by decide), spell_append, List.cons_append,
    List.append_assoc, spell_printText, spell_ascii (by decide)]
  rfl

/-- Claims that can be read carry what was written, whenever they expire. -/
theorem payload_of_decode? {c d : Claims} (h : Claims.decode? c.encode = some d) :
    d.payload = c.payload := by
  obtain ⟨rest, hmembers⟩ := encode_members c
  unfold Claims.decode? at h
  split at h
  · cases hv : Claims.shape.decode c.encode with
    | error f =>
      rw [hv] at h
      cases h
    | ok v =>
      rw [hv] at h
      have hpayload : v.1 = c.payload := by
        rw [Shape.decode, wholly, hmembers] at hv
        split at hv
        · cases hv
        · next v' r hread =>
          cases hend : atEnd r with
          | error f =>
            rw [hend] at hv
            cases hv
          | ok done =>
            rw [hend] at hv
            obtain rfl := Except.ok.inj hv
            exact Shape.first_of_read (readText_printText c.payload rest) hread
      obtain ⟨payload, expires, id, aud, sub, nbf, _⟩ := v
      change (if _ then none else some (Claims.mk payload expires id)) = some d at h
      split at h
      · cases h
      · rw [← Option.some.inj h]
        exact hpayload
  · cases h

/-! ## Tokens -/

section
variable (sign : Bytes → Bytes → Bytes) (key : Bytes)

/-- The claims of a written token are read back. -/
theorem read?_write {c : Claims} (h : IsExpiry c.expires) :
    read? sign key (write sign key c) = some c := by
  rw [read?, write, message, signature, ofText?_parts]
  simp only [bind, Option.bind, ofPart?_part, accepts_encoded, Parts.message, signature,
    beq_self_eq_true, Bool.and_self, if_true]
  exact decode?_encode h

theorem write_injective {c d : Claims} (hc : IsExpiry c.expires) (hd : IsExpiry d.expires)
    (h : write sign key c = write sign key d) : c = d := by
  have hr := read?_write sign key hc
  rw [h, read?_write sign key hd] at hr
  exact (Option.some.inj hr).symm

/-- Tokens tell what they carry, whenever they expire and whoever signed them. -/
theorem payload_of_write {key' : Bytes} {c d : Claims}
    (h : write sign key c = write sign key' d) : c.payload = d.payload := by
  have hparts := congrArg Parts.ofText? h
  rw [write, write, message, message, signature, signature, ofText?_parts, ofText?_parts] at hparts
  have hclaims := congrArg (fun p => ofPart? p.claims) (Option.some.inj hparts)
  simp only [ofPart?_part, Option.some.injEq] at hclaims
  exact payload_of_encode hclaims

/-- A token that can be read carries what was written, whatever key it was signed with. -/
theorem payload_of_read? {key' : Bytes} {c d : Claims}
    (h : read? sign key (write sign key' c) = some d) : d.payload = c.payload := by
  rw [read?, write, message, signature, ofText?_parts] at h
  simp only [bind, Option.bind, ofPart?_part, accepts_encoded, Bool.true_and] at h
  split at h
  · exact payload_of_decode? h
  · cases h

theorem write_ne_empty (c : Claims) : write sign key c ≠ "" := by
  intro h
  have := congrArg (fun s => s.toList.length) h
  simp [write, message] at this

end

/-- The snapshot that a token carries: the number of the user stays behind. -/
theorem decode_encode {s : Snapshot} (hs : IsInt64 s.startedAt) :
    Snapshot.decode s.encode = .ok { s with userId := 0 } := by
  obtain ⟨hl, hh⟩ := hs
  have hk : Snapshot.shape.Keeps s.toCarrier := by
    have hb : s.startedAt.natAbs < doubleBound := lt_doubleBound (by omega)
    cases he : s.email <;>
      simp [Snapshot.shape, Snapshot.toCarrier, Shape.Keeps, Fields.Keeps, Fields.names,
        Shape.int64, Shape.isNullable, hl, hh, hb, he]
  rw [Snapshot.decode, Snapshot.encode, Shape.decodeText_encodeText _ _ hk]
  rfl

section
variable (sign : Bytes → Bytes → Bytes) (s : TokenSettings)

/-- An issued token is valid exactly until it expires. -/
theorem validate_issue (kind : Kind) {snapshot : Snapshot} {issuedAt : Int} (id : Uuid)
    (he : IsExpiry (issuedAt + lifetime s kind)) (hs : IsInt64 snapshot.startedAt) (now : Int) :
    validate sign s kind now (issue sign s kind snapshot issuedAt id)
      = if now < issuedAt + lifetime s kind then .ok { snapshot with userId := 0 }
        else .error .invalidToken := by
  rw [validate, issue, read?_write sign _ he]
  simp only [decode_encode hs]
  by_cases h : now < issuedAt + lifetime s kind
  · rw [if_pos h, if_neg (Int.not_le.2 h)]
  · rw [if_neg h, if_pos (Int.not_lt.1 h)]

/-- A token tells what it was issued for. -/
theorem issue_injective (kind : Kind) {a b : Snapshot} {m n : Int} {i j : Uuid}
    (hm : IsExpiry (m + lifetime s kind)) (hn : IsExpiry (n + lifetime s kind))
    (ha : IsExpiry a.startedAt) (hb : IsExpiry b.startedAt)
    (h : issue sign s kind a m i = issue sign s kind b n j) :
    { a with userId := 0 } = { b with userId := 0 } ∧ m = n ∧ i = j := by
  have hc := write_injective sign (secret s kind) hm hn h
  have hexpires : m + lifetime s kind = n + lifetime s kind := congrArg Claims.expires hc
  have hpayload : a.encode = b.encode := congrArg Claims.payload hc
  have hsnapshot := decode_encode ha.isInt64
  rw [hpayload, decode_encode hb.isInt64] at hsnapshot
  exact ⟨(Except.ok.inj hsnapshot).symm, by omega, Uuid.text_injective (congrArg Claims.id hc)⟩

/-- A token tells whose it is, whatever its kind and whenever it expires. -/
theorem idCode_of_kinds (kind kind' : Kind) {a b : Snapshot} {m n : Int} {i j : Uuid}
    (ha : IsInt64 a.startedAt) (hb : IsInt64 b.startedAt)
    (h : issue sign s kind a m i = issue sign s kind' b n j) : a.idCode = b.idCode := by
  have hpayload : a.encode = b.encode := payload_of_write sign (secret s kind) h
  have hsnapshot := decode_encode ha
  rw [hpayload, decode_encode hb] at hsnapshot
  exact (congrArg Snapshot.idCode (Except.ok.inj hsnapshot)).symm

theorem idCode_of_issue (kind : Kind) {a b : Snapshot} {m n : Int} {i j : Uuid}
    (ha : IsInt64 a.startedAt) (hb : IsInt64 b.startedAt)
    (h : issue sign s kind a m i = issue sign s kind b n j) : a.idCode = b.idCode :=
  idCode_of_kinds sign s kind kind ha hb h

/-- A token that is valid carries what it was issued for, whenever it expires. -/
theorem snapshot_of_validate (kind kind' : Kind) {snapshot found : Snapshot} {issuedAt now : Int}
    {id : Uuid} (hs : IsInt64 snapshot.startedAt)
    (h : validate sign s kind now (issue sign s kind' snapshot issuedAt id) = .ok found) :
    found = { snapshot with userId := 0 } := by
  rw [validate, issue] at h
  split at h
  · cases h
  · next claims hread =>
    have hpayload : claims.payload = snapshot.encode := payload_of_read? sign _ hread
    split at h
    · cases h
    · rw [hpayload, decode_encode hs] at h
      exact (Except.ok.inj h).symm

theorem idCode_of_validate (kind kind' : Kind) {snapshot found : Snapshot} {issuedAt now : Int}
    {id : Uuid} (hs : IsInt64 snapshot.startedAt)
    (h : validate sign s kind now (issue sign s kind' snapshot issuedAt id) = .ok found) :
    found.idCode = snapshot.idCode := by
  rw [snapshot_of_validate sign s kind kind' hs h]

theorem issue_ne_empty (kind : Kind) (snapshot : Snapshot) (now : Int) (id : Uuid) :
    issue sign s kind snapshot now id ≠ "" := write_ne_empty sign _ _

end

end SignOn.Token
