import SignOn.Crypto.Base64
/-!
Base 64 loses nothing: the groups of six bits into which bytes are cut are put together again, and
every group is told apart by its character.
-/

namespace SignOn.Crypto.Base64

/-- The groups of six bits of bytes; the last one is filled up with zeros. -/
def groups : Bytes → List Nat
  | [] => []
  | [a] => [a.toNat / 4, a.toNat % 4 * 16]
  | [a, b] => [a.toNat / 4, a.toNat % 4 * 16 + b.toNat / 16, b.toNat % 16 * 4]
  | a :: b :: c :: rest =>
    a.toNat / 4 :: (a.toNat % 4 * 16 + b.toNat / 16) :: (b.toNat % 16 * 4 + c.toNat / 64) ::
      c.toNat % 64 :: groups rest

theorem encode_eq_map (al : Alphabet) (bs : Bytes) : encode al bs = (groups bs).map (digit al) := by
  fun_induction groups bs with
  | case1 => rfl
  | case2 a => rfl
  | case3 a b => rfl
  | case4 a b c rest ih => rw [encode, ih]; rfl

theorem groups_lt (bs : Bytes) : ∀ n ∈ groups bs, n < 64 := by
  fun_induction groups bs with
  | case1 => intro n h; cases h
  | case2 a =>
    have ha := a.toNat_lt
    simp only [List.forall_mem_cons, List.not_mem_nil, false_implies, implies_true, and_true]
    omega
  | case3 a b =>
    have ha := a.toNat_lt
    have hb := b.toNat_lt
    simp only [List.forall_mem_cons, List.not_mem_nil, false_implies, implies_true, and_true]
    omega
  | case4 a b c rest ih =>
    have ha := a.toNat_lt
    have hb := b.toNat_lt
    have hc := c.toNat_lt
    simp only [List.forall_mem_cons]
    exact ⟨by omega, by omega, by omega, by omega, ih⟩

theorem length_groups (bs : Bytes) : (groups bs).length = (4 * bs.length + 2) / 3 := by
  fun_induction groups bs with
  | case1 => rfl
  | case2 a => simp
  | case3 a b => simp
  | case4 a b c rest ih =>
    simp only [List.length_cons, ih]
    omega

theorem length_encode (al : Alphabet) (bs : Bytes) :
    (encode al bs).length = (4 * bs.length + 2) / 3 := by
  rw [encode_eq_map, List.length_map, length_groups]

theorem ofNat_eq {b : UInt8} {n : Nat} (h : n = b.toNat) : UInt8.ofNat n = b := by
  subst h; exact UInt8.ofNat_toNat

theorem ofValues_groups (bs : Bytes) : ofValues (groups bs) = some bs := by
  fun_induction groups bs with
  | case1 => rfl
  | case2 a =>
    have ha := a.toNat_lt
    rw [ofValues, if_pos (by omega), ofNat_eq (b := a) (by omega)]
  | case3 a b =>
    have ha := a.toNat_lt
    have hb := b.toNat_lt
    rw [ofValues, if_pos (by omega), ofNat_eq (b := a) (by omega), ofNat_eq (b := b) (by omega)]
  | case4 a b c rest ih =>
    have ha := a.toNat_lt
    have hb := b.toNat_lt
    have hc := c.toNat_lt
    rw [ofValues, ih, Option.map_some, ofNat_eq (b := a) (by omega), ofNat_eq (b := b) (by omega),
      ofNat_eq (b := c) (by omega)]

/-- An alphabet whose characters tell the groups apart. -/
def Alphabet.Distinct (al : Alphabet) : Prop := ∀ n : Fin 64, value? al (digit al n) = some n.1

theorem urlSafe_distinct : urlSafe.Distinct := by
  unfold Alphabet.Distinct; decide

theorem standard_distinct : standard.Distinct := by
  unfold Alphabet.Distinct; decide

theorem mapM_value?_digit {al : Alphabet} (h : al.Distinct) (ns : List Nat)
    (hn : ∀ n ∈ ns, n < 64) :
    (ns.map (digit al)).mapM (value? al) = some ns := by
  induction ns with
  | nil => rfl
  | cons n ns ih =>
    have hv := h ⟨n, hn n List.mem_cons_self⟩
    have ih := ih fun m hm => hn m (List.mem_cons_of_mem _ hm)
    rw [List.map_cons, List.mapM_cons, hv, ih]
    rfl

/-- Decoding gives back the encoded bytes. -/
theorem decode_encode {al : Alphabet} (h : al.Distinct) (bs : Bytes) :
    decode al (encode al bs) = some bs := by
  rw [decode, encode_eq_map, mapM_value?_digit h _ (groups_lt bs)]
  exact ofValues_groups bs

theorem encode_injective {al : Alphabet} (h : al.Distinct) {as bs : Bytes}
    (he : encode al as = encode al bs) : as = bs := by
  have hdecode := decode_encode h as
  rw [he, decode_encode h bs] at hdecode
  exact (Option.some.inj hdecode).symm

theorem digit_urlSafe_ne_point : ∀ n : Fin 64, digit urlSafe n ≠ '.' := by decide

theorem point_not_mem_encode (bs : Bytes) : '.' ∉ encode urlSafe bs := by
  rw [encode_eq_map]
  intro h
  obtain ⟨n, hn, he⟩ := List.mem_map.1 h
  exact digit_urlSafe_ne_point ⟨n, groups_lt bs n hn⟩ he

end SignOn.Crypto.Base64
