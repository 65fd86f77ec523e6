import SignOn.Crypto.Argon2
/-!
How long digests are. A digest has as many bytes as were asked for: a long one takes half of each
digest before the last, so that a stored password names the length of its hash by the hash itself.
-/

namespace SignOn.Crypto

namespace Blake2b

theorem length_flatMap_bytesOf (ws : List UInt64) :
    (ws.flatMap bytesOf).length = 8 * ws.length := by
  induction ws with
  | nil => rfl
  | cons w ws ih =>
    have hw : (bytesOf w).length = 8 := by rw [bytesOf, List.length_map, List.length_range]
    rw [List.flatMap_cons, List.length_append, ih, hw, List.length_cons]
    omega

theorem size_compress (h : Array UInt64) (block : Bytes) (count : Nat) (isLast : Bool) :
    (compress h block count isLast).size = 8 := by
  simp only [compress, List.size_toArray, List.length_map, List.length_range]

theorem size_compressAll (blocks : Nat) (h : Array UInt64) (bs : Bytes) (count : Nat) :
    (compressAll blocks h bs count).size = 8 := by
  induction blocks generalizing h bs count with
  | zero => exact size_compress _ _ _ _
  | succ blocks ih => exact ih _ _ _

theorem length_digest {size : Nat} (h : size ≤ 64) (m : Bytes) : (digest size m).length = size := by
  rw [digest, List.length_take, length_flatMap_bytesOf, Array.length_toList, size_compressAll]
  omega

end Blake2b

namespace Argon2

theorem length_extend {fuel size : Nat} (hf : 0 < fuel) (h : size ≤ 32 * fuel + 32) (v : Bytes) :
    (extend fuel size v).length = size := by
  induction fuel generalizing size v with
  | zero => cases hf
  | succ fuel ih =>
    rw [extend]
    split
    · next hshort => exact Blake2b.length_digest hshort v
    · have hrest : (extend fuel (size - 32) (Blake2b.digest 64 v)).length = size - 32 :=
        ih (by omega) (by omega) _
      have hhalf : ((Blake2b.digest 64 v).take 32).length = 32 := by
        rw [List.length_take, Blake2b.length_digest (Nat.le_refl 64)]
        rfl
      rw [List.length_append, hrest, hhalf]
      omega

theorem length_longDigest (size : Nat) (m : Bytes) : (longDigest size m).length = size :=
  length_extend (Nat.succ_pos _) (by omega) _

/-- A hash is as long as was asked for. -/
theorem length_hash {i : Input} {digest : Bytes} (h : hash i = some digest) :
    digest.length = i.size := by
  unfold hash at h
  split at h
  · rw [← Option.some.inj h]
    exact length_longDigest _ _
  · cases h

theorem isSound_of_hash {i : Input} {digest : Bytes} (h : hash i = some digest) :
    i.isSound = true := by
  unfold hash at h
  split at h
  · next hsound => exact hsound
  · cases h

/-- A hash is defined for every sound input. -/
theorem exists_hash {i : Input} (h : i.isSound = true) : ∃ digest, hash i = some digest := by
  unfold hash
  rw [if_pos h]
  exact ⟨_, rfl⟩

end Argon2

end SignOn.Crypto
