import DomainPolicy.Proofs.Bcrypt.Salt

/-!
# Texts that are read as hashes

The reader takes more than is ever written: any number of dollar signs around the parts, a plus sign and zeros in front
of the cost, and anything behind the salt.  What it takes is said by a grammar (`IsReadable`, `exists_read?_iff`).  What
is written has one form only (`IsCanonical`, `isCanonical_write`).  A check compares a text with what is written for a
password (`hash?_eq_self_iff`), so a text of another form is the hash of no password.
-/

namespace DomainPolicy.Bcrypt

/-! ### Salts -/

namespace Radix64

/-- Groups of six bits that end with two for one byte are joined if and only if no bit of the last is left over. -/
theorem exists_join?_iff {ns : List Nat} (h : ns.length % 4 = 2) :
    (∃ bs, join? ns = some bs) ↔ ∃ n, ns.getLast? = some n ∧ n % 16 = 0 := by
  induction ns using join?.induct with
  | case1 => cases h
  | case2 a => cases h
  | case3 a b hb => exact iff_of_true ⟨_, if_pos hb⟩ ⟨b, rfl, hb⟩
  | case4 a b hb =>
    refine iff_of_false ?_ ?_
    · rintro ⟨bs, hbs⟩
      rw [join?, if_neg hb] at hbs
      cases hbs
    · rintro ⟨n, hn, hzero⟩
      cases hn
      exact hb hzero
  | case5 a b c hc => cases h
  | case6 a b c hc => cases h
  | case7 a b c d rest ih =>
    have hrest : rest.length % 4 = 2 := by
      simp only [List.length_cons] at h
      omega
    have hne : rest ≠ [] := by
      rintro rfl
      cases hrest
    obtain ⟨n, rest', hrest'⟩ := List.exists_cons_of_ne_nil hne
    have hlast : (a :: b :: c :: d :: rest).getLast? = rest.getLast? := by
      rw [hrest']
      simp only [List.getLast?_cons_cons]
    rw [hlast, ← ih hrest]
    simp only [join?, Option.map_eq_some_iff]
    constructor
    · rintro ⟨_, bs, hbs, -⟩
      exact ⟨bs, hbs⟩
    · rintro ⟨bs, hbs⟩
      exact ⟨_, bs, hbs, rfl⟩

theorem exists_map_char {cs : List Char} (h : ∀ c ∈ cs, c ∈ alphabet) :
    ∃ ns : List Nat, (∀ n ∈ ns, n < 64) ∧ cs = ns.map char := by
  induction cs with
  | nil => exact ⟨[], fun _ => nofun, rfl⟩
  | cons c cs ih =>
    rw [List.forall_mem_cons] at h
    obtain ⟨ns, hlt, rfl⟩ := ih h.2
    obtain ⟨n, hn, hc⟩ := List.mem_iff_getElem.1 h.1
    have hchar : char n = c := by
      have := getElem?_alphabet hn
      rwa [List.getElem?_eq_getElem hn, hc, Option.some_inj, eq_comm] at this
    exact ⟨n :: ns, List.forall_mem_cons.2 ⟨hn, hlt⟩, by rw [List.map_cons, hchar]⟩

/-- The characters whose last four bits are zero. -/
theorem char_mem_iff {n : Nat} (h : n < 64) : char n ∈ ['.', 'O', 'e', 'u'] ↔ n % 16 = 0 := by
  have : ∀ n < 64, char n ∈ ['.', 'O', 'e', 'u'] ↔ n % 16 = 0 := by decide
  exact this n h

/-- Characters that end with two for one byte are those of bytes if and only if they are of the alphabet and the last
has no bit left over. -/
theorem exists_encode_iff {cs : List Char} (h : cs.length % 4 = 2) :
    (∃ bs, cs = encode bs) ↔
      (∀ c ∈ cs, c ∈ alphabet) ∧ ∃ c, cs.getLast? = some c ∧ c ∈ ['.', 'O', 'e', 'u'] := by
  constructor
  · rintro ⟨bs, rfl⟩
    refine ⟨fun c => mem_alphabet_of_mem_encode, ?_⟩
    rw [encode_eq_map, List.length_map] at h
    obtain ⟨n, hn, hzero⟩ := (exists_join?_iff h).1 ⟨bs, join?_groups bs⟩
    have hlt : n < 64 := groups_lt bs n (List.mem_of_getLast? hn)
    refine ⟨char n, ?_, (char_mem_iff hlt).2 hzero⟩
    rw [encode_eq_map, List.getLast?_map, hn]
    rfl
  · rintro ⟨halphabet, c, hc, hend⟩
    obtain ⟨ns, hlt, rfl⟩ := exists_map_char halphabet
    rw [List.length_map] at h
    rw [List.getLast?_map] at hc
    obtain ⟨n, hn, rfl⟩ := Option.map_eq_some_iff.1 hc
    have hzero : n % 16 = 0 := (char_mem_iff (hlt n (List.mem_of_getLast? hn))).1 hend
    obtain ⟨bs, hbs⟩ := (exists_join?_iff h).2 ⟨n, hn, hzero⟩
    refine ⟨bs, decode?_eq_some_iff.1 ?_⟩
    rw [decode?, mapM_value?_char hlt]
    exact hbs

end Radix64

/-! ### What is read -/

/-- Whether characters are those of 16 bytes: 22 of the alphabet, of which the last has no bit left over. -/
structure IsSaltText (salt : List Char) : Prop where
  length : salt.length = 22
  alphabet : ∀ c ∈ salt, c ∈ Radix64.alphabet
  last : ∃ c, salt.getLast? = some c ∧ c ∈ ['.', 'O', 'e', 'u']

theorem isSaltText_iff {salt : List Char} :
    IsSaltText salt ↔ salt.length = 22 ∧ ∃ bs, Radix64.decode? salt = some bs := by
  simp only [Radix64.decode?_eq_some_iff]
  constructor
  · intro h
    exact ⟨h.length, (Radix64.exists_encode_iff (by rw [h.length])).2 ⟨h.alphabet, h.last⟩⟩
  · rintro ⟨hlength, hbytes⟩
    obtain ⟨halphabet, hlast⟩ := (Radix64.exists_encode_iff (by rw [hlength])).1 hbytes
    exact ⟨hlength, halphabet, hlast⟩

/-- Whether a text is one that is read as a hash.  Dollar signs, one at least between two parts, separate a version, a
cost with or without a plus sign, and what begins with a salt and goes on in any way. -/
def IsReadable (text : List Char) : Prop :=
  ∃ version sign cost salt rest, isVersion version = true ∧ (sign = [] ∨ sign = ['+']) ∧ IsCostText cost ∧
    IsSaltText salt ∧ '$' ∉ rest ∧ ∃ i j k l, text = dollars i ++ (version ++ (dollars (j + 1) ++ (sign ++ cost ++
      (dollars (k + 1) ++ (salt ++ rest ++ dollars l)))))

theorem Setting.Sound.isSaltText {s : Setting} (h : s.Sound) : IsSaltText s.salt :=
  isSaltText_iff.2 ⟨h.salt_length, _, h.salt_read⟩

/-- The reader takes what is readable and nothing else. -/
theorem exists_read?_iff {text : List Char} : (∃ s, Setting.read? text = some s) ↔ IsReadable text := by
  constructor
  · rintro ⟨s, hs⟩
    obtain ⟨hsound, cost, rest, hpieces, hcost⟩ := Setting.read?_eq_some_iff.1 hs
    obtain ⟨sign, ds, rfl, hsign, hds, -⟩ := readCost?_eq_some_iff.1 hcost
    obtain ⟨⟨-, -, hrest⟩, i, j, k, l, rfl⟩ := pieces_eq_three_iff.1 hpieces
    exact ⟨s.version, sign, ds, s.salt, rest, hsound.version, hsign, hds, hsound.isSaltText,
      fun hmem => hrest.2 (List.mem_append_right _ hmem), i, j, k, l, rfl⟩
  · rintro ⟨version, sign, ds, salt, rest, hversion, hsign, hcost, hsalt, hrest, i, j, k, l, rfl⟩
    obtain ⟨hlength, bs, hbs⟩ := isSaltText_iff.1 hsalt
    have hs : Setting.Sound ⟨version, Decimal.value ds, salt, bs⟩ := ⟨hversion, hcost.bounds, hlength, hbs⟩
    have hpieces : pieces _ = [version, sign ++ ds, salt ++ rest] :=
      pieces_eq_three_iff.2
        ⟨⟨isPiece_version hversion, isPiece_signed hsign hcost, hs.isPiece_salt.append hrest⟩, i, j, k, l, rfl⟩
    have hread : readCost? (sign ++ ds) = some (Decimal.value ds) :=
      readCost?_eq_some_iff.2 ⟨sign, ds, rfl, hsign, hcost, rfl⟩
    exact ⟨_, Setting.read?_eq_some_iff.2 ⟨hs, _, _, hpieces, hread⟩⟩

/-! ### What is written -/

/-- Whether a text has the form in which hashes are written: a version, a cost in two digits, and 53 characters of the
alphabet, with one dollar sign in front of each. -/
def IsCanonical (text : List Char) : Prop :=
  ∃ version cost rest, text = '$' :: (version ++ '$' :: (cost ++ '$' :: rest)) ∧ isVersion version = true ∧
    (cost.length = 2 ∧ IsCostText cost) ∧ rest.length = 53 ∧ ∀ c ∈ rest, c ∈ Radix64.alphabet

theorem IsCanonical.length {text : List Char} (h : IsCanonical text) : text.length = 60 := by
  obtain ⟨version, cost, rest, rfl, hversion, ⟨hcost, -⟩, hrest, -⟩ := h
  have hlength : version.length = 2 := by
    rcases isVersion_iff.1 hversion with rfl | rfl | rfl | rfl <;> rfl
  simp only [List.length_cons, List.length_append, hlength, hcost, hrest]

/-- A sound setting and a digest of 23 bytes are written in the one form. -/
theorem isCanonical_write {s : Setting} (hs : s.Sound) {digest : Bytes} (hdigest : digest.length = 23) :
    IsCanonical (s.write digest) := by
  have hcost := hs.cost_le
  have hsalt := hs.isSaltText
  refine ⟨s.version, Decimal.padded 2 s.cost, s.salt ++ Radix64.encode digest, ?_, hs.version,
    ⟨Decimal.length_padded_two (by omega), isCostText_padded hcost⟩, ?_, ?_⟩
  · rw [Setting.write]
    simp
  · rw [List.length_append, hsalt.length, Radix64.length_encode, hdigest]
  · exact List.forall_mem_append.2 ⟨hsalt.alphabet, fun c => Radix64.mem_alphabet_of_mem_encode⟩

/-- A password has a hash if and only if the hash is what is written for it under a setting. -/
theorem hash?_eq_self_iff {digest : Digest} {p : Bytes} {hash : String} :
    hash? digest p hash = some hash ↔
      ∃ s : Setting, s.Sound ∧ hash.toList = s.write (digest s.cost s.saltBytes (cyclicKey p)) := by
  rw [hash?, Option.map_eq_some_iff]
  constructor
  · rintro ⟨s, hs, hhash⟩
    exact ⟨s, Setting.sound_of_read? hs, by rw [← hhash, String.toList_ofList]⟩
  · rintro ⟨s, hs, hhash⟩
    refine ⟨s, ?_, ?_⟩
    · rw [hhash]
      exact hs.read?_write _
    · rw [← hhash, String.ofList_toList]

end DomainPolicy.Bcrypt
