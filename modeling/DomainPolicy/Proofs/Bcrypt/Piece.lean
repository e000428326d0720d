import DomainPolicy.Bcrypt.Hash

/-!
# Pieces between dollar signs

The pieces of a text are found from left to right: a dollar sign is passed over, and a piece goes up to the next one
(`pieces_dollar_cons`, `pieces_append_dollar`).  So a text has three pieces if and only if dollar signs, one at least
between two of them, are all that stands around them (`pieces_eq_three_iff`).  A cost is read with or without a plus
sign and with any number of zeros in front (`readCost?_eq_some_iff`).
-/

namespace DomainPolicy.Bcrypt

/-! ### Pieces -/

/-- Dollar signs. -/
def dollars (n : Nat) : List Char := List.replicate n '$'

/-- Whether characters can be a piece between dollar signs. -/
def IsPiece (p : List Char) : Prop := p ≠ [] ∧ '$' ∉ p

theorem IsPiece.append {p q : List Char} (hp : IsPiece p) (hq : '$' ∉ q) : IsPiece (p ++ q) :=
  ⟨List.append_ne_nil_of_left_ne_nil hp.1 q, fun hmem => (List.mem_append.1 hmem).elim hp.2 hq⟩

theorem pieces_dollar_cons (cs : List Char) : pieces ('$' :: cs) = pieces cs := by
  rw [pieces, show '$' :: cs = [] ++ '$' :: cs from rfl,
    List.splitOn_append_cons_self_of_not_mem List.not_mem_nil]
  rfl

theorem pieces_append_dollar {p : List Char} (hp : IsPiece p) (cs : List Char) :
    pieces (p ++ '$' :: cs) = p :: pieces cs := by
  rw [pieces, List.splitOn_append_cons_self_of_not_mem hp.2, List.filter_cons_of_pos (by simpa using hp.1)]
  rfl

theorem pieces_dollars_append (n : Nat) (cs : List Char) : pieces (dollars n ++ cs) = pieces cs := by
  induction n with
  | zero => rfl
  | succ n ih => exact (pieces_dollar_cons _).trans ih

theorem pieces_dollars (n : Nat) : pieces (dollars n) = [] := by
  rw [← List.append_nil (dollars n), pieces_dollars_append]
  rfl

theorem pieces_of_isPiece {p : List Char} (hp : IsPiece p) : pieces p = [p] := by
  rw [pieces, List.splitOn_eq_singleton hp.2]
  simp [hp.1]

theorem pieces_append_dollars {p : List Char} (hp : IsPiece p) (n : Nat) : pieces (p ++ dollars n) = [p] := by
  cases n with
  | zero =>
    show pieces (p ++ []) = [p]
    rw [List.append_nil, pieces_of_isPiece hp]
  | succ n =>
    show pieces (p ++ '$' :: dollars n) = [p]
    rw [pieces_append_dollar hp, pieces_dollars]

/-- A text is dollar signs alone, or dollar signs and a piece, behind which it ends or another dollar sign stands. -/
theorem exists_piece (cs : List Char) :
    (∃ n, cs = dollars n) ∨
      ∃ n p, IsPiece p ∧ (cs = dollars n ++ p ∨ ∃ rest, cs = dollars n ++ (p ++ '$' :: rest)) := by
  induction cs with
  | nil => exact Or.inl ⟨0, rfl⟩
  | cons c cs ih =>
    by_cases hc : c = '$'
    · subst hc
      rcases ih with ⟨n, rfl⟩ | ⟨n, p, hp, rfl | ⟨rest, rfl⟩⟩
      · exact Or.inl ⟨n + 1, rfl⟩
      · exact Or.inr ⟨n + 1, p, hp, Or.inl rfl⟩
      · exact Or.inr ⟨n + 1, p, hp, Or.inr ⟨rest, rfl⟩⟩
    · -- the piece goes up to the next dollar sign
      by_cases hmem : '$' ∈ cs
      · obtain ⟨before, rest, rfl, hbefore⟩ := List.eq_append_cons_of_mem hmem
        refine Or.inr ⟨0, c :: before, ⟨List.cons_ne_nil _ _, ?_⟩, Or.inr ⟨rest, rfl⟩⟩
        exact List.not_mem_cons_of_ne_of_not_mem (Ne.symm hc) hbefore
      · refine Or.inr ⟨0, c :: cs, ⟨List.cons_ne_nil _ _, ?_⟩, Or.inl rfl⟩
        exact List.not_mem_cons_of_ne_of_not_mem (Ne.symm hc) hmem

theorem exists_of_pieces_eq_nil {cs : List Char} (h : pieces cs = []) : ∃ n, cs = dollars n := by
  rcases exists_piece cs with hdollars | ⟨n, p, hp, rfl | ⟨rest, rfl⟩⟩
  · exact hdollars
  · rw [pieces_dollars_append, pieces_of_isPiece hp] at h
    cases h
  · rw [pieces_dollars_append, pieces_append_dollar hp] at h
    cases h

/-- The first of the pieces of a text, and what stands behind it: nothing, or a dollar sign and the other pieces. -/
theorem exists_of_pieces_eq_cons {cs p : List Char} {ps : List (List Char)} (h : pieces cs = p :: ps) :
    IsPiece p ∧ ∃ n, (ps = [] ∧ cs = dollars n ++ p) ∨
      ∃ rest, pieces rest = ps ∧ cs = dollars n ++ (p ++ '$' :: rest) := by
  rcases exists_piece cs with ⟨n, rfl⟩ | ⟨n, q, hq, rfl | ⟨rest, rfl⟩⟩
  · rw [pieces_dollars] at h
    cases h
  · rw [pieces_dollars_append, pieces_of_isPiece hq] at h
    cases h
    exact ⟨hq, n, Or.inl ⟨rfl, rfl⟩⟩
  · rw [pieces_dollars_append, pieces_append_dollar hq] at h
    cases h
    exact ⟨hq, n, Or.inr ⟨rest, rfl, rfl⟩⟩

/-- The texts of three pieces. -/
theorem pieces_eq_three_iff {cs p q r : List Char} :
    pieces cs = [p, q, r] ↔ (IsPiece p ∧ IsPiece q ∧ IsPiece r) ∧ ∃ i j k l,
      cs = dollars i ++ (p ++ (dollars (j + 1) ++ (q ++ (dollars (k + 1) ++ (r ++ dollars l))))) := by
  constructor
  · intro h
    obtain ⟨hp, i, ⟨hnil, -⟩ | ⟨behindFirst, hsecond, rfl⟩⟩ := exists_of_pieces_eq_cons h
    · cases hnil
    obtain ⟨hq, j, ⟨hnil, -⟩ | ⟨behindSecond, hthird, rfl⟩⟩ := exists_of_pieces_eq_cons hsecond
    · cases hnil
    obtain ⟨hr, k, ⟨-, rfl⟩ | ⟨behindThird, hend, rfl⟩⟩ := exists_of_pieces_eq_cons hthird
    · refine ⟨⟨hp, hq, hr⟩, i, j, k, 0, ?_⟩
      rw [show dollars 0 = [] from rfl, List.append_nil]
      rfl
    · obtain ⟨l, rfl⟩ := exists_of_pieces_eq_nil hend
      exact ⟨⟨hp, hq, hr⟩, i, j, k, l + 1, rfl⟩
  · rintro ⟨⟨hp, hq, hr⟩, i, j, k, l, rfl⟩
    have hbehind : ∀ (p : List Char) (n : Nat) (cs : List Char), IsPiece p →
        pieces (p ++ (dollars (n + 1) ++ cs)) = p :: pieces cs := by
      intro p n cs hp
      show pieces (p ++ '$' :: (dollars n ++ cs)) = p :: pieces cs
      rw [pieces_append_dollar hp, pieces_dollars_append]
    rw [pieces_dollars_append, hbehind p j _ hp, hbehind q k _ hq, pieces_append_dollars hr]

/-! ### Versions and costs -/

theorem isVersion_iff {version : List Char} :
    isVersion version = true ↔
      version = ['2', 'a'] ∨ version = ['2', 'b'] ∨ version = ['2', 'x'] ∨ version = ['2', 'y'] := by
  simp only [isVersion, decide_eq_true_eq, List.mem_cons, List.not_mem_nil, or_false]

theorem isPiece_version {version : List Char} (h : isVersion version = true) : IsPiece version := by
  rcases isVersion_iff.1 h with rfl | rfl | rfl | rfl <;> exact ⟨List.cons_ne_nil _ _, by decide⟩

theorem ascii_of_isVersion {version : List Char} (h : isVersion version = true) : ∀ c ∈ version, c.toNat < 128 := by
  rcases isVersion_iff.1 h with rfl | rfl | rfl | rfl <;> simp

/-- Whether characters are the digits of a cost within bounds, any number of zeros in front. -/
structure IsCostText (ds : List Char) : Prop where
  digits : ∀ c ∈ ds, Decimal.isDigit c = true
  bounds : 4 ≤ Decimal.value ds ∧ Decimal.value ds ≤ 31

theorem IsCostText.ne_nil {ds : List Char} (h : IsCostText ds) : ds ≠ [] := by
  rintro rfl
  exact absurd h.bounds.1 (by decide)

/-- A cost is read with or without a plus sign. -/
theorem readCost?_eq_some_iff {cs : List Char} {n : Nat} :
    readCost? cs = some n ↔
      ∃ sign ds, cs = sign ++ ds ∧ (sign = [] ∨ sign = ['+']) ∧ IsCostText ds ∧ Decimal.value ds = n := by
  have hread : ∀ ds : List Char, (if ds ≠ [] ∧ ds.all Decimal.isDigit = true then
      if 4 ≤ Decimal.value ds ∧ Decimal.value ds ≤ 31 then some (Decimal.value ds) else none else none) = some n ↔
        IsCostText ds ∧ Decimal.value ds = n := by
    intro ds
    rw [Option.ite_none_right_eq_some, Option.ite_none_right_eq_some, Option.some_inj, List.all_eq_true]
    constructor
    · rintro ⟨⟨-, hdigits⟩, hbounds, hn⟩
      exact ⟨⟨hdigits, hbounds⟩, hn⟩
    · rintro ⟨hcost, hn⟩
      exact ⟨⟨hcost.ne_nil, hcost.digits⟩, hcost.bounds, hn⟩
  unfold readCost?
  dsimp only
  split
  · rename_i ds
    refine (hread ds).trans ⟨fun h => ⟨['+'], ds, rfl, Or.inr rfl, h⟩, ?_⟩
    rintro ⟨sign, ds', hcs, rfl | rfl, hcost, hn⟩
    · -- a plus sign is no digit
      have hplus : '+' ∈ ds' := by
        rw [show ds' = '+' :: ds from hcs.symm]
        exact List.mem_cons_self ..
      cases hcost.digits _ hplus
    · cases hcs
      exact ⟨hcost, hn⟩
  · rename_i hplus
    refine (hread cs).trans ⟨fun h => ⟨[], cs, rfl, Or.inl rfl, h⟩, ?_⟩
    rintro ⟨sign, ds, rfl, rfl | rfl, hcost, hn⟩
    · exact ⟨hcost, hn⟩
    · exact absurd rfl (hplus ds)

theorem IsCostText.isPiece {ds : List Char} (h : IsCostText ds) : IsPiece ds :=
  ⟨h.ne_nil, fun hmem => absurd (h.digits _ hmem) (by decide)⟩

theorem isPiece_signed {sign ds : List Char} (hsign : sign = [] ∨ sign = ['+']) (h : IsCostText ds) :
    IsPiece (sign ++ ds) := by
  rcases hsign with rfl | rfl
  · exact h.isPiece
  · have hplus : IsPiece ['+'] := ⟨List.cons_ne_nil _ _, by decide⟩
    exact hplus.append h.isPiece.2

theorem isCostText_padded {n : Nat} (h : 4 ≤ n ∧ n ≤ 31) : IsCostText (Decimal.padded 2 n) :=
  ⟨fun _ => Decimal.isDigit_of_mem_padded, by rwa [Decimal.value_padded]⟩

/-- A cost within bounds is read back. -/
theorem readCost?_padded {n : Nat} (h : 4 ≤ n ∧ n ≤ 31) : readCost? (Decimal.padded 2 n) = some n :=
  readCost?_eq_some_iff.2 ⟨[], _, rfl, Or.inl rfl, isCostText_padded h, Decimal.value_padded 2 n⟩

theorem isPiece_padded {n : Nat} (h : 4 ≤ n ∧ n ≤ 31) : IsPiece (Decimal.padded 2 n) := (isCostText_padded h).isPiece

end DomainPolicy.Bcrypt
