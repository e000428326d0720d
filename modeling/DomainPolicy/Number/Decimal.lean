/-!
# Decimal digits

* `Decimal.digits` writes a number in decimal digits, most significant first; `Decimal.value` reads digits back.
* Reading what was written gives the number (`value_digits`).
-/

namespace DomainPolicy.Decimal

/-- The character of a digit. -/
def digitChar (d : Nat) : Char := Char.ofNat (48 + d % 10)

def isDigit (c : Char) : Bool := 48 ≤ c.toNat && c.toNat ≤ 57

def digitValue (c : Char) : Nat := c.toNat - 48

/-- The decimal digits of a number in front of `rest`. -/
def digitsOnto (n : Nat) (rest : List Char) : List Char :=
  if n < 10 then digitChar n :: rest else digitsOnto (n / 10) (digitChar (n % 10) :: rest)

/-- The decimal digits of a number. -/
def digits (n : Nat) : List Char := digitsOnto n []

/-- A number in decimal digits, with its sign if it is negative. -/
def intDigits : Int → List Char
  | .ofNat n => digits n
  | .negSucc n => '-' :: digits (n + 1)

/-- The number that decimal digits write. -/
def value (cs : List Char) : Nat := cs.foldl (fun n c => n * 10 + digitValue c) 0

/-- Digits, filled up with zeros in front to a width. -/
def padded (width n : Nat) : List Char :=
  let ds := digits n
  List.replicate (width - ds.length) '0' ++ ds

theorem digitsOnto_append (n : Nat) (r s : List Char) : digitsOnto n (r ++ s) = digitsOnto n r ++ s := by
  induction n using Nat.strongRecOn generalizing r with
  | _ n ih =>
    unfold digitsOnto
    split
    · rfl
    · rw [← ih (n / 10) (by omega)]; rfl

theorem digits_of_lt {n : Nat} (h : n < 10) : digits n = [digitChar n] := by
  rw [digits, digitsOnto, if_pos h]

theorem digits_of_le {n : Nat} (h : 10 ≤ n) : digits n = digits (n / 10) ++ [digitChar (n % 10)] := by
  rw [digits, digitsOnto, if_neg (by omega), digits, ← digitsOnto_append, List.nil_append]

private theorem toNat_digitChar {d : Nat} (h : d < 10) : (digitChar d).toNat = 48 + d := by
  have hv : (48 + d % 10).isValidChar := Or.inl (by omega)
  have ht : (digitChar d).toNat = 48 + d % 10 := by rw [digitChar, Char.ofNat, dif_pos hv]; rfl
  omega

theorem digitValue_digitChar {d : Nat} (h : d < 10) : digitValue (digitChar d) = d := by
  rw [digitValue, toNat_digitChar h]; omega

theorem isDigit_digitChar {d : Nat} (h : d < 10) : isDigit (digitChar d) = true := by
  simp only [isDigit, toNat_digitChar h, Bool.and_eq_true, decide_eq_true_eq]; omega

theorem value_append_single (cs : List Char) (c : Char) : value (cs ++ [c]) = value cs * 10 + digitValue c := by
  simp [value]

theorem value_digits (n : Nat) : value (digits n) = n := by
  induction n using Nat.strongRecOn with
  | _ n ih =>
    by_cases h : n < 10
    · rw [digits_of_lt h]; simp [value, digitValue_digitChar h]
    · rw [digits_of_le (by omega), value_append_single, ih _ (by omega),
        digitValue_digitChar (Nat.mod_lt _ (by omega))]
      omega

theorem isDigit_of_mem_digits {n : Nat} {c : Char} (h : c ∈ digits n) : isDigit c = true := by
  induction n using Nat.strongRecOn with
  | _ n ih =>
    by_cases hn : n < 10
    · rw [digits_of_lt hn] at h; simp at h; subst h; exact isDigit_digitChar hn
    · rw [digits_of_le (by omega)] at h
      rcases List.mem_append.1 h with h | h
      · exact ih _ (by omega) h
      · simp at h; subst h; exact isDigit_digitChar (Nat.mod_lt _ (by omega))

theorem isDigit_of_mem_padded {width n : Nat} {c : Char} (h : c ∈ padded width n) : isDigit c = true := by
  rcases List.mem_append.1 h with h | h
  · rw [List.eq_of_mem_replicate h]
    rfl
  · exact isDigit_of_mem_digits h

theorem value_padded (width n : Nat) : value (padded width n) = n := by
  have hzeros : ∀ k, (List.replicate k '0').foldl (fun n c => n * 10 + digitValue c) 0 = 0 := by
    intro k
    induction k with
    | zero => rfl
    | succ k ih => exact ih
  rw [padded, value, List.foldl_append, hzeros]
  exact value_digits n

theorem length_padded_two {n : Nat} (h : n < 100) : (padded 2 n).length = 2 := by
  rw [padded]
  by_cases hn : n < 10
  · rw [digits_of_lt hn]
    rfl
  · have htens : n / 10 < 10 := by omega
    rw [digits_of_le (by omega), digits_of_lt htens]
    rfl

end DomainPolicy.Decimal
