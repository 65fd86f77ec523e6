import SignOn.Keyspace.Bundles
import SignOn.Keyspace.Requests
import SignOn.Keyspace.Sessions
import SignOn.Keyspace.States
import SignOn.Proofs.Json.Scalars
import SignOn.Proofs.Text.Decimal
/-!
The four families of cache keys do not meet, and within a family a key tells what it is for.
-/

namespace SignOn.Keyspace

open SignOn.Text

theorem append_ne {p q : String} {c d : Char} {cs ds : List Char} (hp : p.toList = c :: cs)
    (hq : q.toList = d :: ds) (h : c ≠ d) (a b : String) : p ++ a ≠ q ++ b := by
  intro he
  have ht := congrArg String.toList he
  rw [String.toList_append, String.toList_append, hp, hq, List.cons_append, List.cons_append] at ht
  exact h (List.cons.inj ht).1

theorem append_injective {p a b : String} (h : p ++ a = p ++ b) : a = b := by
  have ht := congrArg String.toList h
  rw [String.toList_append, String.toList_append] at ht
  exact String.toList_injective (List.append_cancel_left ht)

theorem sessions_ne_states (a b : String) : Sessions.key a ≠ States.key b :=
  append_ne rfl rfl (by decide) a b

theorem sessions_ne_requests (a b : String) : Sessions.key a ≠ Requests.key b :=
  append_ne rfl rfl (by decide) a b

theorem sessions_ne_bundles (a : String) (b : Verification.Subject) :
    Sessions.key a ≠ Bundles.key b := append_ne rfl rfl (by decide) a b.key

theorem requests_ne_bundles (a : String) (b : Verification.Subject) :
    Requests.key a ≠ Bundles.key b := append_ne rfl rfl (by decide) a b.key

theorem requests_ne_states (a b : String) : Requests.key a ≠ States.key b :=
  append_ne rfl rfl (by decide) a b

theorem states_ne_bundles (a : String) (b : Verification.Subject) :
    States.key a ≠ Bundles.key b := append_ne rfl rfl (by decide) a b.key

theorem sessions_key_injective {a b : String} (h : Sessions.key a = Sessions.key b) : a = b :=
  append_injective h

theorem states_key_injective {a b : String} (h : States.key a = States.key b) : a = b :=
  append_injective h

theorem requests_key_injective {a b : String} (h : Requests.key a = Requests.key b) : a = b :=
  append_injective h

theorem bundles_key_injective {a b : Verification.Subject} (h : Bundles.key a = Bundles.key b) :
    a.key = b.key := append_injective h

namespace States

/-- A claim never looks consumed. -/
theorem claimValue_ne_consumed (claimedAt : Int) : claimValue claimedAt ≠ consumed := by
  intro h
  obtain ⟨b, bs, hb, hk⟩ := Json.spell_decimal_head claimedAt
  rw [claimValue, utf8_ofList, hb, consumed, utf8_eq_spell] at h
  have hc : b = 0x63 := (List.cons.inj h).1
  rw [hc] at hk
  exact absurd hk (by decide)

/-- The second of a claim is read back. -/
theorem ofValue_claimValue {claimedAt : Int} (hl : -9223372036854775808 ≤ claimedAt)
    (hh : claimedAt ≤ 9223372036854775807) :
    ofValue (some (claimValue claimedAt)) = some claimedAt := by
  have htrim : trim (decimal claimedAt) = decimal claimedAt :=
    trim_eq_self fun c hc => isBlank_of_mem_decimal hc
  have hread : ofUtf8? (claimValue claimedAt) = some (String.ofList (decimal claimedAt)) :=
    ofUtf8?_utf8 _
  simp only [ofValue, Option.bind_eq_bind, Option.bind_some, claimValue_ne_consumed, if_false,
    hread, String.toList_ofList, htrim, int64?_decimal hl hh]

end States
end SignOn.Keyspace
