import DomainPolicy.Proofs.Text.Trim
import DomainPolicy.Proofs.Token.Codec

/-!
# Tokens that come back

A text can be sent if and only if it is header text without a space or a tab at its ends (`exists_encode_iff`), and the
one value of the token's header is parsed if and only if it is header text (`exists_parse_iff`).  So a token that is
sent is the token that is parsed, and a token that was parsed can be sent again unless it has a space or a tab at an end
(`parse_encode_roundTrip`).
-/

namespace DomainPolicy.Token

variable {s : String} {t : Token} {headers : Headers} {name value : Bytes}

/-- Whether a text neither starts nor ends with a space or a tab. -/
def IsTight (s : String) : Prop := ∀ c, s.toList.head? = some c ∨ s.toList.getLast? = some c → c ≠ ' ' ∧ c ≠ '\t'

theorem isSpaceOrTab_eq_false_iff {c : Char} : isSpaceOrTab c = false ↔ c ≠ ' ' ∧ c ≠ '\t' := by
  rw [isSpaceOrTab, Bool.or_eq_false_iff, beq_eq_false_iff_ne, beq_eq_false_iff_ne]

theorem trim_eq_self_iff_isTight : Blank.trim isSpaceOrTab s.toList = s.toList ↔ IsTight s := by
  simp only [Blank.trim_eq_self_iff, isSpaceOrTab_eq_false_iff, IsTight, or_imp]
  exact forall_and.symm

/-- The characters of a text whose bytes are header text are those of header text. -/
theorem isText_encode_iff : IsText (Utf8.encode s) ↔ s.toList ≠ [] ∧ s.toList.all isHeaderChar = true := by
  refine ⟨fun h => ?_, fun h => isText_encode h.1 h.2⟩
  have hs : s.toList = (Utf8.encode s).map fun b => Char.ofNat b.toNat := by
    rw [← String.toList_ofList (l := (Utf8.encode s).map _)]
    exact congrArg String.toList (decode_encode_of_isText h).symm
  refine ⟨fun hnil => h.1 ?_, List.all_eq_true.2 fun c hc => ?_⟩
  · rw [Utf8.encode, hnil, List.flatMap_nil]
  · rw [hs] at hc
    obtain ⟨b, hb, rfl⟩ := List.mem_map.1 hc
    have hbyte := h.2 b hb
    rw [← UInt8.toNat_inj, UInt8.le_iff_toNat_le, UInt8.le_iff_toNat_le] at hbyte
    rw [isHeaderChar_iff, Latin1.toNat_ofNat_of_lt b.toNat_lt]
    exact hbyte

theorem encode_eq_ok_iff {text : String} :
    t.encode = .ok text ↔ text = t.value ∧ IsText (Utf8.encode t.value) ∧ IsTight t.value := by
  rw [← trim_eq_self_iff_isTight]
  constructor
  · intro h
    obtain ⟨rfl, htext⟩ := isText_of_encode h
    refine ⟨rfl, htext, by_contra fun htrim => ?_⟩
    rw [encode] at h
    simp only [(isText_encode_iff.1 htext).1, htrim, if_false, if_true, ne_eq, not_false_eq_true] at h
    cases h
  · rintro ⟨rfl, htext, htrim⟩
    obtain ⟨hne, hall⟩ := isText_encode_iff.1 htext
    rw [encode]
    simp only [hne, htrim, hall, if_false, if_true, ne_eq, not_true_eq_false]

theorem exists_encode_iff : (∃ text, t.encode = .ok text) ↔ IsText (Utf8.encode t.value) ∧ IsTight t.value := by
  simp only [encode_eq_ok_iff, exists_eq_left]

/-- The one value of the token's header is parsed if and only if it is header text. -/
theorem exists_parse_iff (h : OneValue headers value) : (∃ v, parse headers = .ok v) ↔ IsText value := by
  obtain ⟨htext, hnot⟩ := parse_of_values (values_eq_singleton_iff.2 h)
  refine ⟨fun ⟨v, hv⟩ => by_contra fun hvalue => ?_, fun hvalue => ⟨_, htext hvalue⟩⟩
  cases hv.symm.trans (hnot hvalue)

theorem oneValue_singleton (h : Spells name) : OneValue [(name, value)] value := ⟨[], name, [], rfl, h, fun _ => nofun⟩

/-- What is parsed is header text, and the bytes that came are those of what is parsed. -/
theorem presents_of_parse (h : parse headers = .ok t) : Presents headers (Utf8.encode t.value) := by
  obtain ⟨value, hpresents, rfl⟩ := parse_eq_ok_iff.1 h
  rwa [encode_value_of_isText hpresents.isText]

/-- What can be sent is parsed as what it was, under every spelling of the name and in every place among headers of
other names.  What was parsed can be sent again if and only if it has no space or tab at its ends, and then its header
has the value that came.  The texts that can be sent are those whose bytes are parsed as the only value and that have no
space or tab at their ends. -/
theorem parse_encode_roundTrip :
    (∀ (t : Token) text, t.encode = .ok text → ∀ before name after, Spells name →
        (∀ p ∈ before ++ after, ¬Spells p.1) → parse (before ++ (name, Utf8.encode text) :: after) = .ok t) ∧
      (∀ headers t, parse headers = .ok t →
        ((∃ text, t.encode = .ok text) ↔ IsTight t.value) ∧
          (IsTight t.value → ∃ value, t.header = .ok (Utf8.encode headerName, value) ∧ OneValue headers value ∧
            value = Utf8.encode t.value)) ∧
      ∀ (t : Token) name, Spells name → ((∃ text, t.encode = .ok text) ↔
        (∃ t', parse [(name, Utf8.encode t.value)] = .ok t') ∧ IsTight t.value) := by
  refine ⟨?_, ?_, ?_⟩
  · intro t text h before name after hname hothers
    obtain ⟨rfl, htext, -⟩ := encode_eq_ok_iff.1 h
    have hpresents : Presents (before ++ (name, Utf8.encode t.value) :: after) (Utf8.encode t.value) :=
      ⟨⟨before, name, after, rfl, hname, hothers⟩, htext⟩
    rw [hpresents.parse_eq, decode_encode_of_isText htext]
  · intro headers t h
    have hpresents := presents_of_parse h
    refine ⟨?_, fun htight => ⟨_, ?_, hpresents.one, rfl⟩⟩
    · rw [exists_encode_iff]
      exact and_iff_right hpresents.isText
    · rw [header, encode_eq_ok_iff.2 ⟨rfl, hpresents.isText, htight⟩]
      rfl
  · intro t name hname
    rw [exists_encode_iff, exists_parse_iff (oneValue_singleton hname)]

/-- Between other headers a token with a tab and a space inside comes back; with one of them at its end it is parsed
and cannot be sent. -/
theorem parse_encode_roundTrip_inside :
    parse [(Utf8.encode "Host", []), (Utf8.encode "X-Api-TOKEN", Utf8.encode "a\tb c"), (Utf8.encode "X-Api", [])] =
        .ok ⟨"a\tb c"⟩ ∧
      (∃ t, parse [(Utf8.encode "x-api-token", Utf8.encode "a ")] = .ok t) ∧
      ¬∃ text, (⟨"a "⟩ : Token).encode = .ok text := by
  obtain ⟨hsent, hparsed, hboth⟩ := parse_encode_roundTrip
  have hspells : ∀ name, isHeaderName name = true → Spells name := fun name => isHeaderName_iff.1
  have hothers : ∀ name, isHeaderName name = false → ¬Spells name := fun name h hname => by
    rw [isHeaderName_iff.2 hname] at h
    cases h
  have hend : parse [(Utf8.encode "x-api-token", Utf8.encode "a ")] = .ok ⟨"a "⟩ := by decide +kernel
  refine ⟨?_, ⟨_, hend⟩, fun h => ?_⟩
  · refine hsent ⟨"a\tb c"⟩ "a\tb c" (by decide +kernel) [(Utf8.encode "Host", [])] _ [(Utf8.encode "X-Api", [])]
      (hspells _ (by decide +kernel)) ?_
    simp only [List.cons_append, List.nil_append, List.forall_mem_cons]
    exact ⟨hothers _ (by decide +kernel), hothers _ (by decide +kernel), fun _ => nofun⟩
  · exact ((hparsed _ _ hend).1.1 h ' ' (Or.inr rfl)).1 rfl

end DomainPolicy.Token
