import DomainPolicy.Bcrypt.Hash
import Mathlib.Data.List.GetD

/-!
# Passwords with one key

A digest sees a password only through its key, the password and one zero byte repeated to 72 bytes.  Two passwords of
at most 72 bytes, the second without a zero byte, have one key if and only if the first repeats the second with a zero
byte between, perhaps cut at 72 bytes (`cyclicKey_eq_iff`).  Without a zero byte in either they are the same
(`eq_of_take_repeats`).
-/

namespace DomainPolicy.Bcrypt

/-! ### Bytes over and over -/

theorem cycle_eq_iff {a b : Bytes} {n : Nat} :
    cycle a n = cycle b n ↔ ∀ i < n, a.getD (i % a.length) 0 = b.getD (i % b.length) 0 := by
  simp only [cycle, List.map_inj_left, List.mem_range]

theorem getD_flatten_replicate (b : Bytes) {k i : Nat} (h : i < k * b.length) :
    (List.replicate k b).flatten.getD i 0 = b.getD (i % b.length) 0 := by
  induction k generalizing i with
  | zero => simp at h
  | succ k ih =>
    rw [List.replicate_succ, List.flatten_cons]
    by_cases hi : i < b.length
    · rw [List.getD_append _ _ _ _ hi, Nat.mod_eq_of_lt hi]
    · rw [Nat.not_lt] at hi
      have hrest : i - b.length < k * b.length := by
        rw [Nat.succ_mul] at h
        omega
      rw [List.getD_append_right _ _ _ _ hi, ih hrest, ← Nat.mod_eq_sub_mod hi]

theorem eq_of_getD {p q : Bytes} (hlen : p.length = q.length) (h : ∀ i < p.length, p.getD i 0 = q.getD i 0) :
    p = q := by
  refine List.ext_getElem hlen fun i hp hq => ?_
  rw [List.getElem_eq_getD 0, List.getElem_eq_getD 0]
  exact h i hp

theorem getD_take {p : Bytes} {n i : Nat} (h : i < n) : (p.take n).getD i 0 = p.getD i 0 := by
  rw [List.getD_eq_getElem?_getD, List.getElem?_take_of_lt h, ← List.getD_eq_getElem?_getD]

/-! ### Repeated passwords -/

/-- A password, and `k` times a zero byte and the password again. -/
def repeats (q : Bytes) (k : Nat) : Bytes := (List.replicate k (q ++ [0])).flatten ++ q

theorem repeats_append_zero (q : Bytes) (k : Nat) :
    repeats q k ++ [0] = (List.replicate (k + 1) (q ++ [0])).flatten := by
  rw [repeats, List.replicate_succ', List.flatten_append, List.append_assoc, List.flatten_singleton]

theorem length_repeats (q : Bytes) (k : Nat) : (repeats q k).length = k * (q.length + 1) + q.length := by
  simp [repeats]

theorem getD_repeats {q : Bytes} {k i : Nat} (h : i ≤ (repeats q k).length) :
    (repeats q k ++ [0]).getD i 0 = (q ++ [0]).getD (i % (q.length + 1)) 0 := by
  have hi : i < (k + 1) * (q ++ [0]).length := by
    rw [length_repeats] at h
    rw [List.length_append, List.length_singleton, Nat.succ_mul]
    omega
  rw [repeats_append_zero, getD_flatten_replicate _ hi, List.length_append, List.length_singleton]

theorem getD_append_zero {p : Bytes} {i : Nat} (h : i < p.length) : (p ++ [0]).getD i 0 = p.getD i 0 :=
  List.getD_append _ _ _ _ h

theorem cyclicKey_take_repeats (q : Bytes) (k : Nat) : cyclicKey ((repeats q k).take 72) = cyclicKey q := by
  refine cycle_eq_iff.2 fun i hi => ?_
  have hq : (q ++ [0]).length = q.length + 1 := List.length_append
  -- if nothing is cut off, a whole number of copies is repeated; otherwise nothing is
  rcases Nat.le_total (repeats q k).length 72 with hlen | hlen
  · rw [List.take_of_length_le hlen]
    have hlength : (repeats q k ++ [0]).length = (q.length + 1) * (k + 1) := by
      rw [List.length_append, length_repeats, List.length_singleton, Nat.mul_comm (q.length + 1), Nat.succ_mul]
      rfl
    have hle : i % (repeats q k ++ [0]).length ≤ (repeats q k).length := by
      rw [List.length_append]
      exact Nat.le_of_lt_succ (Nat.mod_lt _ (Nat.succ_pos _))
    rw [getD_repeats hle, hlength, hq, Nat.mod_mul_right_mod]
  · have htake : ((repeats q k).take 72).length = 72 := by rw [List.length_take, Nat.min_eq_left hlen]
    have hmod : i % ((repeats q k).take 72 ++ [0]).length = i := by
      rw [List.length_append, htake]
      exact Nat.mod_eq_of_lt (Nat.lt_succ_of_lt hi)
    rw [hmod, getD_append_zero (by rw [htake]; exact hi), getD_take hi, hq,
      ← getD_append_zero (Nat.lt_of_lt_of_le hi hlen), getD_repeats (Nat.le_of_lt (Nat.lt_of_lt_of_le hi hlen))]

/-- A zero byte stands behind a password and nowhere in it. -/
theorem eq_length_of_getD_eq_zero {q : Bytes} (hq : 0 ∉ q) {i : Nat} (hi : i ≤ q.length)
    (h : (q ++ [0]).getD i 0 = 0) : i = q.length := by
  rcases Nat.lt_or_eq_of_le hi with hlt | heq
  · rw [getD_append_zero hlt, List.getD_eq_getElem _ _ hlt] at h
    exact absurd (h ▸ List.getElem_mem hlt) hq
  · exact heq

/-- Passwords of at most 72 bytes with the key of a password that has no zero byte. -/
theorem cyclicKey_eq_iff {p q : Bytes} (hp : p.length ≤ 72) (hq : 0 ∉ q) :
    cyclicKey p = cyclicKey q ↔ ∃ k, p = (repeats q k).take 72 := by
  constructor
  · intro h
    have hkey : ∀ i < 72, (p ++ [0]).getD (i % (p ++ [0]).length) 0 = (q ++ [0]).getD (i % (q ++ [0]).length) 0 :=
      cycle_eq_iff.1 h
    simp only [List.length_append, List.length_singleton] at hkey
    have hbytes : ∀ i < p.length, p.getD i 0 = (q ++ [0]).getD (i % (q.length + 1)) 0 := by
      intro i hi
      rw [← hkey i (by omega), Nat.mod_eq_of_lt (by omega), getD_append_zero hi]
    -- as many copies as there is room for, or, where the zero byte behind `p` is seen, as `p` has room for
    have hlength : ∃ k, p.length = ((repeats q k).take 72).length := by
      rcases Nat.lt_or_eq_of_le hp with hlt | heq
      · have hzero : (q ++ [0]).getD (p.length % (q.length + 1)) 0 = 0 := by
          rw [← hkey p.length hlt, Nat.mod_eq_of_lt (Nat.lt_succ_self _),
            List.getD_append_right _ _ _ _ (Nat.le_refl _), Nat.sub_self]
          rfl
        have hmod : p.length % (q.length + 1) = q.length :=
          eq_length_of_getD_eq_zero hq (Nat.le_of_lt_succ (Nat.mod_lt _ (Nat.succ_pos _))) hzero
        have hdiv : p.length / (q.length + 1) * (q.length + 1) + q.length = p.length := by
          have := Nat.div_add_mod' p.length (q.length + 1)
          rwa [hmod] at this
        refine ⟨p.length / (q.length + 1), ?_⟩
        rw [List.length_take, length_repeats, hdiv, Nat.min_eq_right hp]
      · refine ⟨72, ?_⟩
        rw [List.length_take, length_repeats, heq]
        omega
    obtain ⟨k, hk⟩ := hlength
    refine ⟨k, eq_of_getD hk fun i hi => ?_⟩
    have hi' : i < (repeats q k).length := by
      rw [List.length_take] at hk
      omega
    rw [hbytes i hi, getD_take (by omega), ← getD_append_zero hi', getD_repeats (Nat.le_of_lt hi')]
  · rintro ⟨k, rfl⟩
    exact cyclicKey_take_repeats q k

example : cyclicKey [97, 0, 97] = cyclicKey [97] := by decide

/-- Without a zero byte nothing is repeated. -/
theorem eq_of_take_repeats {p q : Bytes} {k : Nat} (hp : 0 ∉ p) (hq : q.length ≤ 72) (h : p = (repeats q k).take 72) :
    p = q := by
  cases k with
  | zero => rw [h, repeats, List.replicate_zero, List.flatten_nil, List.nil_append, List.take_of_length_le hq]
  | succ k =>
    have hrepeats : repeats q (k + 1) = q ++ 0 :: repeats q k := by
      simp [repeats, List.replicate_succ]
    rw [hrepeats] at h
    rcases Nat.lt_or_eq_of_le hq with hlt | heq
    · refine absurd ?_ hp
      rw [h, List.take_append, List.take_of_length_le hq, List.take_cons (by omega)]
      exact List.mem_append_right _ (List.mem_cons_self ..)
    · rw [h, ← heq, List.take_left]

end DomainPolicy.Bcrypt
