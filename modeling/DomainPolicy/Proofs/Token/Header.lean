import DomainPolicy.Text.Utf8
import DomainPolicy.Token
import Mathlib.Data.List.Forall2
import Mathlib.Data.List.Perm.Basic

/-!
# Headers that present a token

Headers `Presents` bytes if exactly one of them is the token's and its value is those bytes, which must be header text.
A token is taken from headers if and only if they present it (`parse_eq_ok_iff`), and its bytes are the bytes that came
(`encode_value_of_isText`).  Only the values of the token's own headers count, and not their order (`parse_congr`).
-/

namespace DomainPolicy.Token

/-! ### Names -/

/-- Whether a raw name is that of the token's header, in letters of any case. -/
def Spells (name : Bytes) : Prop :=
  List.Forall₂ (fun b c => b = c ∨ b + 32 = c ∧ 97 ≤ c ∧ c ≤ 122) name (Utf8.encode headerName)

theorem lowerByte_eq_iff {b c : UInt8} (hc : ¬(65 ≤ c ∧ c ≤ 90)) :
    lowerByte b = c ↔ b = c ∨ b + 32 = c ∧ 97 ≤ c ∧ c ≤ 122 := by
  unfold lowerByte
  split <;> grind

theorem map_lowerByte_eq_iff {name key : Bytes} (hkey : ∀ c ∈ key, ¬(65 ≤ c ∧ c ≤ 90)) :
    name.map lowerByte = key ↔ List.Forall₂ (fun b c => b = c ∨ b + 32 = c ∧ 97 ≤ c ∧ c ≤ 122) name key := by
  induction key generalizing name with
  | nil => rw [List.map_eq_nil_iff, List.forall₂_nil_right_iff]
  | cons c key ih =>
    rw [List.forall_mem_cons] at hkey
    rw [List.map_eq_cons_iff, List.forall₂_cons_right_iff]
    simp only [lowerByte_eq_iff hkey.1, ih hkey.2]
    constructor
    · rintro ⟨b, rest, rfl, hb, hrest⟩
      exact ⟨b, rest, hb, hrest, rfl⟩
    · rintro ⟨b, rest, hb, hrest, rfl⟩
      exact ⟨b, rest, rfl, hb, hrest⟩

theorem isHeaderName_iff {name : Bytes} : isHeaderName name = true ↔ Spells name := by
  rw [isHeaderName, beq_iff_eq]
  exact map_lowerByte_eq_iff (by decide +kernel)

/-! ### Values -/

/-- Whether bytes are header text: printable ASCII, spaces and tabs, and not nothing. -/
def IsText (value : Bytes) : Prop := value ≠ [] ∧ ∀ b ∈ value, b = 0x09 ∨ 0x20 ≤ b ∧ b ≤ 0x7E

theorem isHeaderByte_iff {b : UInt8} : isHeaderByte b = true ↔ b = 0x09 ∨ 0x20 ≤ b ∧ b ≤ 0x7E := by
  simp only [isHeaderByte, Bool.or_eq_true, beq_iff_eq, Bool.and_eq_true, decide_eq_true_eq]

theorem isText_iff {value : Bytes} : (value ≠ [] ∧ value.all isHeaderByte = true) ↔ IsText value := by
  simp only [IsText, List.all_eq_true, isHeaderByte_iff]

/-- Whether exactly one header is the token's, and what its value is. -/
def OneValue (headers : Headers) (value : Bytes) : Prop :=
  ∃ before name after, headers = before ++ (name, value) :: after ∧ Spells name ∧ ∀ h ∈ before ++ after, ¬Spells h.1

/-- Whether headers present bytes as a token. -/
structure Presents (headers : Headers) (value : Bytes) : Prop where
  one : OneValue headers value
  isText : IsText value

theorem values_eq_singleton_iff {headers : Headers} {value : Bytes} :
    values headers = [value] ↔ OneValue headers value := by
  rw [values, List.map_eq_singleton_iff]
  simp only [List.filter_eq_cons_iff, List.filter_eq_nil_iff, isHeaderName_iff]
  constructor
  · rintro ⟨⟨name, v⟩, ⟨before, after, hheaders, hbefore, hname, hafter⟩, rfl⟩
    exact ⟨before, name, after, hheaders, hname, List.forall_mem_append.2 ⟨hbefore, hafter⟩⟩
  · rintro ⟨before, name, after, hheaders, hname, hrest⟩
    obtain ⟨hbefore, hafter⟩ := List.forall_mem_append.1 hrest
    exact ⟨(name, value), ⟨before, after, hheaders, hbefore, hname, hafter⟩, rfl⟩

/-- Headers whose only value is no header text are malformed, and present a token otherwise. -/
theorem parse_of_values {headers : Headers} {value : Bytes} (h : values headers = [value]) :
    (IsText value → parse headers = .ok ⟨Latin1.decode value⟩) ∧
      (¬IsText value → parse headers = .error .malformed) := by
  rw [← isText_iff]
  unfold parse
  rw [h]
  exact ⟨fun ht => if_pos ht, fun ht => if_neg ht⟩

/-- What is wrong with a number of values that is not one. -/
def errorOfCount (count : Nat) : HeaderError := if count = 0 then .missing else .repeated count

/-- Of headers that do not have one value only the number of values counts. -/
theorem parse_of_length_ne_one {headers : Headers} (h : (values headers).length ≠ 1) :
    parse headers = .error (errorOfCount (values headers).length) := by
  unfold parse
  cases hvalues : values headers with
  | nil => rfl
  | cons value rest =>
    cases rest with
    | nil =>
      rw [hvalues] at h
      exact absurd rfl h
    | cons value' rest => rfl

theorem parse_eq_ok_iff {headers : Headers} {t : Token} :
    parse headers = .ok t ↔ ∃ value, Presents headers value ∧ t = ⟨Latin1.decode value⟩ := by
  constructor
  · intro h
    by_cases hone : (values headers).length = 1
    · obtain ⟨value, hvalue⟩ := List.length_eq_one_iff.1 hone
      obtain ⟨htext, hnot⟩ := parse_of_values hvalue
      by_cases ht : IsText value
      · rw [htext ht] at h
        cases h
        exact ⟨value, ⟨values_eq_singleton_iff.1 hvalue, ht⟩, rfl⟩
      · rw [hnot ht] at h
        cases h
    · rw [parse_of_length_ne_one hone] at h
      cases h
  · rintro ⟨value, hpresents, rfl⟩
    exact (parse_of_values (values_eq_singleton_iff.2 hpresents.one)).1 hpresents.isText

theorem Presents.parse_eq {headers : Headers} {value : Bytes} (h : Presents headers value) :
    parse headers = .ok ⟨Latin1.decode value⟩ := parse_eq_ok_iff.2 ⟨value, h, rfl⟩

/-! ### What counts -/

/-- Values in another order are parsed alike. -/
theorem parse_congr {headers headers' : Headers} (h : (values headers).Perm (values headers')) :
    parse headers = parse headers' := by
  by_cases hone : (values headers).length = 1
  · obtain ⟨value, hvalue⟩ := List.length_eq_one_iff.1 hone
    rw [hvalue] at h
    unfold parse
    rw [hvalue, h.singleton_eq]
  · rw [parse_of_length_ne_one hone, h.length_eq, parse_of_length_ne_one (h.length_eq ▸ hone)]

theorem parse_perm {headers headers' : Headers} (h : headers.Perm headers') : parse headers = parse headers' :=
  parse_congr ((h.filter _).map _)

/-- A header of another name does not count. -/
theorem parse_append_cons {before after : Headers} {h : Bytes × Bytes} (hname : ¬Spells h.1) :
    parse (before ++ h :: after) = parse (before ++ after) := by
  have hfalse : isHeaderName h.1 = false := Bool.eq_false_iff.2 fun ht => hname (isHeaderName_iff.1 ht)
  refine parse_congr (.of_eq ?_)
  unfold values
  rw [List.filter_append, List.filter_append, List.filter_cons, hfalse]
  rfl

/-! ### Bytes -/

theorem utf8EncodeChar_ofNat {b : UInt8} (hb : b < 128) : String.utf8EncodeChar (Char.ofNat b.toNat) = [b] := by
  have hlt : b.toNat < 128 := UInt8.lt_iff_toNat_lt.1 hb
  have hnat : (Char.ofNat b.toNat).toNat = b.toNat := Latin1.toNat_ofNat_of_lt (Nat.lt_trans hlt (by decide))
  have hsize : (Char.ofNat b.toNat).utf8Size = 1 := by
    rw [Char.utf8Size_eq_one_iff, UInt32.le_iff_toNat_le]
    show (Char.ofNat b.toNat).toNat ≤ 127
    omega
  rw [String.utf8EncodeChar_eq_singleton hsize, List.singleton_inj, ← UInt8.toNat_inj, UInt32.toNat_toUInt8]
  show (Char.ofNat b.toNat).toNat % 256 = b.toNat
  rw [hnat, Nat.mod_eq_of_lt (Nat.lt_trans hlt (by decide))]

theorem lt_of_isText {value : Bytes} (h : IsText value) : ∀ b ∈ value, b < 128 := by
  intro b hb
  rcases h.2 b hb with rfl | ⟨-, hle⟩
  · decide
  · exact Nat.lt_of_le_of_lt (UInt8.le_iff_toNat_le.1 hle) (by decide)

/-- The bytes of a token are those of the header. -/
theorem encode_value_of_isText {value : Bytes} (h : IsText value) : Utf8.encode (Latin1.decode value) = value := by
  rw [Utf8.encode, Latin1.decode, String.toList_ofList, List.flatMap_map]
  calc
    _ = value.flatMap fun b => [b] := List.flatMap_congr fun b hb => utf8EncodeChar_ofNat (lt_of_isText h b hb)
    _ = value := List.flatMap_singleton' value

end DomainPolicy.Token
