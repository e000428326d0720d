import DomainPolicy.Bcrypt.Radix64

/-!
# Reading back what was written six bits a character

`decode?` reads `encode` back (`decode?_encode`), so different bytes are written differently, and it reads nothing else
(`decode?_eq_some_iff`).  Every character that is written, or that can be read, is one of the alphabet: ASCII, and no
dollar sign.
-/

namespace DomainPolicy.Bcrypt.Radix64

/-! ### Characters -/

/-- The characters that are written, in the order of their six bits. -/
def alphabet : List Char := "./ABCDEFGHIJKLMNOPQRSTUVWXYZabcdefghijklmnopqrstuvwxyz0123456789".toList

theorem getElem?_alphabet {n : Nat} (h : n < 64) : alphabet[n]? = some (char n) := by
  have : ∀ n < 64, alphabet[n]? = some (char n) := by decide
  exact this n h

theorem value?_char {n : Nat} (h : n < 64) : value? (char n) = some n := by
  have : ∀ n < 64, value? (char n) = some n := by decide
  exact this n h

/-- A character that can be read is ASCII, and no dollar sign. -/
theorem ascii_of_value? {c : Char} {n : Nat} (h : value? c = some n) : c.toNat < 128 ∧ c ≠ '$' := by
  have hne : c.toNat ≠ '$'.toNat → c ≠ '$' := fun hn hc => hn (by rw [hc])
  have hdollar : '$'.toNat = 36 := rfl
  unfold value? at h
  simp only at h
  split at h
  · exact ⟨by omega, hne (by omega)⟩
  · split at h
    · exact ⟨by omega, hne (by omega)⟩
    · split at h
      · exact ⟨by omega, hne (by omega)⟩
      · split at h
        · exact ⟨by omega, hne (by omega)⟩
        · cases h

/-- The characters of a text that can be read. -/
theorem ascii_of_decode? {cs : List Char} {bs : Bytes} (h : decode? cs = some bs) :
    ∀ c ∈ cs, c.toNat < 128 ∧ c ≠ '$' := by
  unfold decode? at h
  cases hm : cs.mapM value? with
  | none =>
    rw [hm] at h
    cases h
  | some ns =>
    intro c hc
    clear h
    induction cs generalizing ns with
    | nil => cases hc
    | cons x xs ih =>
      rw [List.mapM_cons] at hm
      cases hx : value? x with
      | none =>
        rw [hx] at hm
        cases hm
      | some n =>
        cases hxs : xs.mapM value? with
        | none =>
          rw [hx, hxs] at hm
          cases hm
        | some ms =>
          rcases List.mem_cons.1 hc with rfl | hc
          · exact ascii_of_value? hx
          · exact ih ms hxs hc

/-! ### Bytes -/

theorem mapM_value?_char {ns : List Nat} (h : ∀ n ∈ ns, n < 64) : (ns.map char).mapM value? = some ns := by
  induction ns with
  | nil => rfl
  | cons n ns ih =>
    rw [List.map_cons, List.mapM_cons, value?_char (h n (List.mem_cons_self ..)),
      ih fun m hm => h m (List.mem_cons_of_mem _ hm)]
    rfl

/-- The groups of six bits of bytes. -/
def groups : Bytes → List Nat
  | [] => []
  | [a] => [a.toNat / 4, a.toNat % 4 * 16]
  | [a, b] => [a.toNat / 4, a.toNat % 4 * 16 + b.toNat / 16, b.toNat % 16 * 4]
  | a :: b :: c :: rest =>
    a.toNat / 4 :: (a.toNat % 4 * 16 + b.toNat / 16) :: (b.toNat % 16 * 4 + c.toNat / 64) :: c.toNat % 64 ::
      groups rest

theorem encode_eq_map (bs : Bytes) : encode bs = (groups bs).map char := by
  induction bs using groups.induct with
  | case1 => rfl
  | case2 a => rfl
  | case3 a b => rfl
  | case4 a b c rest ih => simp only [encode, groups, List.map_cons, ih]

theorem groups_lt (bs : Bytes) : ∀ n ∈ groups bs, n < 64 := by
  induction bs using groups.induct with
  | case1 => simp [groups]
  | case2 a =>
    have := a.toNat_lt
    simp only [groups, List.forall_mem_cons, List.not_mem_nil, false_implies, implies_true, and_true]
    omega
  | case3 a b =>
    have := a.toNat_lt
    have := b.toNat_lt
    simp only [groups, List.forall_mem_cons, List.not_mem_nil, false_implies, implies_true, and_true]
    omega
  | case4 a b c rest ih =>
    have := a.toNat_lt
    have := b.toNat_lt
    have := c.toNat_lt
    simp only [groups, List.forall_mem_cons]
    refine ⟨?_, ?_, ?_, ?_, ih⟩ <;> omega

/-- Three bytes take four characters, and what is left one more than its bytes. -/
theorem length_encode (bs : Bytes) : (encode bs).length = (4 * bs.length + 2) / 3 := by
  rw [encode_eq_map, List.length_map]
  induction bs using groups.induct with
  | case1 => rfl
  | case2 a => simp [groups]
  | case3 a b => simp [groups]
  | case4 a b c rest ih =>
    simp only [groups, List.length_cons, ih]
    omega

private theorem toUInt8_eq {n : Nat} {a : UInt8} (h : n = a.toNat) : n.toUInt8 = a := by
  rw [h]
  exact UInt8.ofNat_toNat

theorem join?_groups (bs : Bytes) : join? (groups bs) = some bs := by
  induction bs using groups.induct with
  | case1 => rfl
  | case2 a =>
    have ha : a.toNat / 4 * 4 + a.toNat % 4 * 16 / 16 = a.toNat := by omega
    rw [groups, join?, if_pos (by omega), toUInt8_eq ha]
  | case3 a b =>
    have := b.toNat_lt
    have ha : a.toNat / 4 * 4 + (a.toNat % 4 * 16 + b.toNat / 16) / 16 = a.toNat := by omega
    have hb : (a.toNat % 4 * 16 + b.toNat / 16) % 16 * 16 + b.toNat % 16 * 4 / 4 = b.toNat := by omega
    rw [groups, join?, if_pos (by omega), toUInt8_eq ha, toUInt8_eq hb]
  | case4 a b c rest ih =>
    have := b.toNat_lt
    have := c.toNat_lt
    have ha : a.toNat / 4 * 4 + (a.toNat % 4 * 16 + b.toNat / 16) / 16 = a.toNat := by omega
    have hb : (a.toNat % 4 * 16 + b.toNat / 16) % 16 * 16 + (b.toNat % 16 * 4 + c.toNat / 64) / 4 = b.toNat := by
      omega
    have hc : (b.toNat % 16 * 4 + c.toNat / 64) % 4 * 64 + c.toNat % 64 = c.toNat := by omega
    rw [groups, join?, ih, toUInt8_eq ha, toUInt8_eq hb, toUInt8_eq hc]
    rfl

/-- Reading gives back the bytes that were written. -/
theorem decode?_encode (bs : Bytes) : decode? (encode bs) = some bs := by
  rw [decode?, encode_eq_map, mapM_value?_char (groups_lt bs)]
  exact join?_groups bs

/-- Different bytes are written differently. -/
theorem encode_injective : Function.Injective encode := by
  intro p q h
  have : decode? (encode p) = decode? (encode q) := by rw [h]
  rwa [decode?_encode, decode?_encode, Option.some_inj] at this

/-! ### What can be read -/

/-- A character that can be read is the one that is written for its six bits. -/
theorem char_of_value? {c : Char} {n : Nat} (h : value? c = some n) : n < 64 ∧ char n = c := by
  have hchar : ∀ m, m = c.toNat → Char.ofNat m = c := by
    rintro m rfl
    exact Char.ofNat_toNat c
  unfold value? at h
  simp only at h
  unfold char
  split at h
  · cases h
    refine ⟨by omega, ?_⟩
    rw [if_pos (by omega)]
    exact hchar _ (by omega)
  · split at h
    · cases h
      refine ⟨by omega, ?_⟩
      rw [if_neg (by omega), if_pos (by omega)]
      exact hchar _ (by omega)
    · split at h
      · cases h
        refine ⟨by omega, ?_⟩
        rw [if_neg (by omega), if_neg (by omega), if_pos (by omega)]
        exact hchar _ (by omega)
      · split at h
        · cases h
          refine ⟨by omega, ?_⟩
          rw [if_neg (by omega), if_neg (by omega), if_neg (by omega)]
          exact hchar _ (by omega)
        · cases h

/-- The groups of six bits that characters are read as. -/
theorem map_char_of_mapM_value? {cs : List Char} {ns : List Nat} (h : cs.mapM value? = some ns) :
    (∀ n ∈ ns, n < 64) ∧ cs = ns.map char := by
  induction cs generalizing ns with
  | nil =>
    cases h
    simp
  | cons c cs ih =>
    rw [List.mapM_cons] at h
    obtain ⟨n, hn, h⟩ := Option.bind_eq_some_iff.1 h
    obtain ⟨ms, hms, h⟩ := Option.bind_eq_some_iff.1 h
    cases h
    obtain ⟨hlt, hchar⟩ := char_of_value? hn
    obtain ⟨hall, hcs⟩ := ih hms
    exact ⟨List.forall_mem_cons.2 ⟨hlt, hall⟩, by rw [List.map_cons, hchar, ← hcs]⟩

private theorem toNat_toUInt8 {n : Nat} (h : n < 256) : n.toUInt8.toNat = n := UInt8.toNat_ofNat_of_lt' h

/-- Groups of six bits that can be joined are those of the bytes that they are joined to. -/
theorem groups_of_join? {ns : List Nat} {bs : Bytes} (hlt : ∀ n ∈ ns, n < 64) (h : join? ns = some bs) :
    ns = groups bs := by
  induction ns using join?.induct generalizing bs with
  | case1 =>
    cases h
    rfl
  | case2 a => cases h
  | case3 a b hb =>
    simp only [List.forall_mem_cons] at hlt
    rw [join?, if_pos hb] at h
    cases h
    have ha : (a * 4 + b / 16).toUInt8.toNat = a * 4 + b / 16 := toNat_toUInt8 (by omega)
    simp only [groups, ha, List.cons.injEq, and_true]
    omega
  | case4 a b hb =>
    rw [join?, if_neg hb] at h
    cases h
  | case5 a b c hc =>
    simp only [List.forall_mem_cons] at hlt
    rw [join?, if_pos hc] at h
    cases h
    have ha : (a * 4 + b / 16).toUInt8.toNat = a * 4 + b / 16 := toNat_toUInt8 (by omega)
    have hb : (b % 16 * 16 + c / 4).toUInt8.toNat = b % 16 * 16 + c / 4 := toNat_toUInt8 (by omega)
    simp only [groups, ha, hb, List.cons.injEq, and_true]
    omega
  | case6 a b c hc =>
    rw [join?, if_neg hc] at h
    cases h
  | case7 a b c d rest ih =>
    simp only [List.forall_mem_cons] at hlt
    obtain ⟨_, _, _, _, hrest⟩ := hlt
    rw [join?] at h
    obtain ⟨tail, htail, rfl⟩ := Option.map_eq_some_iff.1 h
    have ha : (a * 4 + b / 16).toUInt8.toNat = a * 4 + b / 16 := toNat_toUInt8 (by omega)
    have hb : (b % 16 * 16 + c / 4).toUInt8.toNat = b % 16 * 16 + c / 4 := toNat_toUInt8 (by omega)
    have hc : (c % 4 * 64 + d).toUInt8.toNat = c % 4 * 64 + d := toNat_toUInt8 (by omega)
    simp only [groups, ha, hb, hc, ← ih hrest htail, List.cons.injEq, and_true]
    omega

/-- Reading accepts exactly what writing produces. -/
theorem decode?_eq_some_iff {cs : List Char} {bs : Bytes} : decode? cs = some bs ↔ cs = encode bs := by
  constructor
  · intro h
    obtain ⟨ns, hns, hbs⟩ := Option.bind_eq_some_iff.1 h
    obtain ⟨hlt, rfl⟩ := map_char_of_mapM_value? hns
    rw [encode_eq_map, groups_of_join? hlt hbs]
  · rintro rfl
    exact decode?_encode bs

/-- The characters that are written. -/
theorem ascii_of_mem_encode {c : Char} {bs : Bytes} (h : c ∈ encode bs) : c.toNat < 128 ∧ c ≠ '$' :=
  ascii_of_decode? (decode?_encode bs) c h

theorem mem_alphabet_of_mem_encode {c : Char} {bs : Bytes} (h : c ∈ encode bs) : c ∈ alphabet := by
  rw [encode_eq_map] at h
  obtain ⟨n, hn, rfl⟩ := List.mem_map.1 h
  exact List.mem_of_getElem? (getElem?_alphabet (groups_lt bs n hn))

end DomainPolicy.Bcrypt.Radix64
