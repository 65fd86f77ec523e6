import Mathlib.Algebra.Group.Nat.Defs
import SignOn.Proofs.Flow.Concurrent
import SignOn.Setup
/-!
A small deployment in which everything works, for worked runs: the provider knows one user, every
message is delivered, the cache never fails, and random values count upwards.
-/

namespace SignOn.Sample

/-- The UUID of a number. -/
def uuid (n : Nat) : Uuid := ⟨fun i => UInt8.ofNat (n / 256 ^ i.1)⟩

/-- What lies outside. -/
def outside : Outside where
  exchange code := .ok ⟨code, none, none⟩
  profile _ := .ok { email := "ada@example.org" }
  deliverMail _ _ := .ok ()
  deliverText _ _ := .ok ()
  cacheFails _ := false
  uuids := uuid
  codes n := n
  salts _ := []

/-- Default settings. -/
def setup : Setup := { settings := {}, suite := Crypto.Suite.standard, authorizationUrl := id }

/-- An empty world, some minutes after the epoch. -/
def world : World := { outside := outside, clock := 1000000 }

/-- A user who came through Google. -/
def ada : User where
  id := 1
  idCode := "ada"
  email := some "ada@example.org"
  phone := none
  passwordHash := ""
  activated := true
  provider := .google
  createdAt := ⟨900, 0⟩
  updatedAt := none
  deletedAt := none

/-- A world that knows one user. -/
def home : World := { world with store := { users := [ada] } }

theorem uuid_injective {m n : Nat} (hm : m < 256) (hn : n < 256) (h : uuid m = uuid n) : m = n := by
  have hb := congrArg (fun u => (u.bytes 0).toNat) h
  simp only [uuid, Fin.val_zero, Nat.pow_zero, Nat.div_one, UInt8.toNat_ofNat'] at hb
  omega

/-- Few UUIDs that count upwards are distinct. -/
theorem distinct {w : World} (hu : w.outside.uuids = uuid) (hd : w.drawn ≤ 256) :
    System.Distinct w := by
  intro m n hm hn he
  rw [hu] at he
  exact uuid_injective (by omega) (by omega) he

end SignOn.Sample
