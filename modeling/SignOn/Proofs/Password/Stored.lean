import SignOn.Proofs.Crypto.Argon2
import SignOn.Proofs.Crypto.Base64
import SignOn.Password.Stored
import SignOn.Proofs.Text.Splitting
/-!
The text that is stored for a new password is read back, whatever its salt and its hash:
`parse?_print`. So comparing a password with it never finds a fault of the store, and accepts
exactly the passwords that have the same hash under the same salt: `verify_cases`. That there is no
other than the right one is up to the hash function.
-/

namespace SignOn.Password

open SignOn.Text SignOn.Crypto

namespace Stored

/-! ## Fields -/

theorem isValueChar_digit : ∀ n : Fin 64, isValueChar (Base64.digit Base64.standard n) = true := by
  decide

theorem isValueChar_of_mem_encode {bs : Bytes} {c : Char}
    (h : c ∈ Base64.encode Base64.standard bs) : isValueChar c = true := by
  rw [Base64.encode_eq_map] at h
  obtain ⟨n, hn, rfl⟩ := List.mem_map.1 h
  exact isValueChar_digit ⟨n, Base64.groups_lt bs n hn⟩

/-- An encoded field is not cut at dollar signs. -/
theorem pieces_encode (bs : Bytes) : pieces (· == '$') (Base64.encode Base64.standard bs)
    = [Base64.encode Base64.standard bs] := by
  refine pieces_of_all_not fun c hc => ?_
  rw [beq_eq_false_iff_ne]
  rintro rfl
  exact absurd (isValueChar_of_mem_encode hc) (by decide)

/-- A salt for which a stored text has room. -/
def IsSalt (salt : Bytes) : Prop := 8 ≤ salt.length ∧ salt.length ≤ 48

theorem readSalt_encode {salt : Bytes} (h : IsSalt salt) :
    readSalt (Base64.encode Base64.standard salt)
      = some (String.ofList (Base64.encode Base64.standard salt)) := by
  obtain ⟨hleast, hmost⟩ := h
  have hlength := Base64.length_encode Base64.standard salt
  have hchars : (Base64.encode Base64.standard salt).all isValueChar = true :=
    List.all_eq_true.2 fun c hc => isValueChar_of_mem_encode hc
  have hvalue : isValue (Base64.encode Base64.standard salt) = true := by
    rw [isValue, hchars, Bool.and_true, decide_eq_true_eq]
    omega
  rw [readSalt, hvalue, Bool.and_true, if_pos]
  rw [decide_eq_true_eq]
  omega

theorem readHash_encode {digest : Bytes} (h : digest.length = 32) :
    readHash (Base64.encode Base64.standard digest) = some digest := by
  rw [readHash, Base64.decode_encode Base64.standard_distinct]
  simp [h]

/-! ## The whole text -/

/-- What is hashed for a new password. -/
def newInput (salt : Bytes) (password : String) : Argon2.Input :=
  ⟨.hybrid, 19, defaultCosts, utf8 password, salt, [], 32⟩

/-- The parts of the text of a new password. -/
def newStored (salt digest : Bytes) : Stored where
  algorithm := "argon2id"
  version := some 19
  params := [("m", "19456"), ("t", "2"), ("p", "1")]
  salt := some (String.ofList (Base64.encode Base64.standard salt))
  hash := some digest

/-- The text of a new password, field by field. -/
theorem print_newInput (salt : Bytes) (password : String) (digest : Bytes) :
    print (newInput salt password) digest
      = "$argon2id$v=19$m=19456,t=2,p=1".toList ++ '$' ::
          Base64.encode Base64.standard salt ++ '$' :: Base64.encode Base64.standard digest := by
  have hcosts : "$argon2id$v=".toList ++ Nat.toDigits 10 19 ++ "$m=".toList ++
      Nat.toDigits 10 19456 ++ ",t=".toList ++ Nat.toDigits 10 2 ++ ",p=".toList ++
      Nat.toDigits 10 1 = "$argon2id$v=19$m=19456,t=2,p=1".toList := by decide +kernel
  rw [← hcosts]
  rfl

theorem pieces_print (salt : Bytes) (password : String) (digest : Bytes) :
    pieces (· == '$') (print (newInput salt password) digest)
      = [[], "argon2id".toList, "v=19".toList, "m=19456,t=2,p=1".toList,
          Base64.encode Base64.standard salt, Base64.encode Base64.standard digest] := by
  have hcosts : pieces (· == '$') "$argon2id$v=19$m=19456,t=2,p=1".toList
      = [[], "argon2id".toList, "v=19".toList, "m=19456,t=2,p=1".toList] := by decide +kernel
  rw [print_newInput, pieces_append (by decide), pieces_append (by decide), pieces_encode,
    pieces_encode, hcosts]
  rfl

theorem readParams_new :
    readParams "m=19456,t=2,p=1".toList = some [("m", "19456"), ("t", "2"), ("p", "1")] := by
  decide +kernel

/-- The text of a new password is read back. -/
theorem parse?_print {salt digest : Bytes} (hs : IsSalt salt) (hd : digest.length = 32)
    (password : String) : parse? (String.ofList (print (newInput salt password) digest))
      = some (newStored salt digest) := by
  have hnames : parse? (String.ofList (print (newInput salt password) digest))
      = readRest "argon2id" (some 19) ["m=19456,t=2,p=1".toList,
          Base64.encode Base64.standard salt, Base64.encode Base64.standard digest] := by
    rw [parse?, String.toList_ofList, pieces_print]
    rfl
  have hparams : ("m=19456,t=2,p=1".toList).contains '=' = true := by decide +kernel
  rw [hnames, readRest, if_pos hparams, readParams_new, Option.bind_some, readEnd,
    readSalt_encode hs, readHash_encode hd]
  rfl

/-! ## Comparing -/

/-- To compare a password with a stored one, the same has to be hashed as for a new one. -/
theorem input?_newStored (salt : Bytes) {digest : Bytes} (hd : digest.length = 32)
    (password : String) :
    (newStored salt digest).input? password digest = some (newInput salt password) := by
  have hsetting : (newStored salt digest).params.foldlM setParam ⟨defaultCosts, []⟩
      = some ⟨defaultCosts, []⟩ := rfl
  have hsalt := Base64.decode_encode Base64.standard_distinct salt
  have hvariant : variant? "argon2id" = some .hybrid := rfl
  simp only [input?, hsetting, hd]
  simp only [newStored, hvariant, Option.bind_eq_bind, Option.bind_some, String.toList_ofList,
    hsalt]
  rfl

/-- A new stored text accepts the passwords that have its hash. -/
theorem accepts_newStored (salt : Bytes) {digest : Bytes} (hd : digest.length = 32)
    (password : String) : (newStored salt digest).accepts password = true ↔
      Argon2.hash (newInput salt password) = some digest := by
  have hinput := input?_newStored salt hd password
  have hhash : (newStored salt digest).hash = some digest := rfl
  simp only [accepts, hhash, hinput, beq_iff_eq]

end Stored

open Stored

/-- What is stored for a password. -/
theorem hash_eq_ok_iff {salt : Bytes} {password stored : String} :
    hash salt password = .ok stored ↔ ∃ digest, Argon2.hash (newInput salt password) = some digest ∧
      stored = String.ofList (print (newInput salt password) digest) := by
  constructor
  · intro h
    unfold hash at h
    dsimp only at h
    split at h
    · next digest hdigest => exact ⟨digest, hdigest, (Except.ok.inj h).symm⟩
    · cases h
  · rintro ⟨digest, hdigest, rfl⟩
    have hinput : Argon2.hash ⟨.hybrid, 19, defaultCosts, utf8 password, salt, [], 32⟩
        = some digest := hdigest
    simp only [hash, hinput]
    rfl

theorem exists_hash {salt : Bytes} (h : 8 ≤ salt.length) (password : String) :
    ∃ stored, hash salt password = .ok stored := by
  have hsound : (newInput salt password).isSound = true := by
    have hsalt : (newInput salt password).salt = salt := rfl
    simp only [Argon2.Input.isSound, hsalt, h]
    rfl
  obtain ⟨digest, hdigest⟩ := Argon2.exists_hash hsound
  exact ⟨_, hash_eq_ok_iff.2 ⟨digest, hdigest, rfl⟩⟩

theorem le_length_of_hash {salt : Bytes} {password stored : String}
    (h : hash salt password = .ok stored) : 8 ≤ salt.length := by
  obtain ⟨digest, hdigest, -⟩ := hash_eq_ok_iff.1 h
  have hsound := Argon2.isSound_of_hash hdigest
  simp only [Argon2.Input.isSound, Bool.and_eq_true, decide_eq_true_eq] at hsound
  exact hsound.1.2

/-- A stored text tells the hash. -/
theorem digest_of_print {salt digest digest' : Bytes} {password other : String}
    (h : String.ofList (print (newInput salt password) digest)
      = String.ofList (print (newInput salt other) digest')) : digest = digest' := by
  rw [String.ofList_inj, print_newInput, print_newInput] at h
  exact Base64.encode_injective Base64.standard_distinct
    (List.cons.inj (List.append_cancel_left h)).2

section
variable {salt : Bytes} {password stored : String}

/-- Passwords with the same hash are stored alike. -/
theorem hash_print {digest : Bytes} (other : String) :
    hash salt other = .ok (String.ofList (print (newInput salt password) digest)) ↔
      Argon2.hash (newInput salt other) = some digest := by
  rw [hash_eq_ok_iff]
  constructor
  · rintro ⟨digest', hother, hprint⟩
    rw [hother, digest_of_print hprint]
  · intro hother
    exact ⟨digest, hother, by rw [print_newInput, print_newInput]⟩

/-- What is stored for a password can be read: a password is right or wrong. -/
theorem verify_cases (hmost : salt.length ≤ 48) (h : hash salt password = .ok stored)
    (other : String) : (hash salt other = .ok stored ∧ verify stored other = .ok ()) ∨
      hash salt other ≠ .ok stored ∧ verify stored other = .error .incorrectPassword := by
  have hs : IsSalt salt := ⟨le_length_of_hash h, hmost⟩
  obtain ⟨digest, hdigest, rfl⟩ := hash_eq_ok_iff.1 h
  have hd : digest.length = 32 := Argon2.length_hash hdigest
  have haccepts := accepts_newStored salt hd other
  have hverify : verify (String.ofList (print (newInput salt password) digest)) other
      = if (newStored salt digest).accepts other then .ok () else .error .incorrectPassword := by
    rw [verify, parse?_print hs hd]
  rw [hverify, ne_eq, hash_print, ← haccepts]
  by_cases hright : (newStored salt digest).accepts other = true
  · exact .inl ⟨hright, if_pos hright⟩
  · exact .inr ⟨hright, if_neg hright⟩

end

end SignOn.Password
