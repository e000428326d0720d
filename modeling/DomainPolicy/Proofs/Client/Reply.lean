import DomainPolicy.Proofs.Json.Portable
import DomainPolicy.Proofs.Json.ReadBack
import DomainPolicy.Server.Life

/-!
# What a client makes of an answer

An answer that lists domains comes to a client as this list, whatever characters the domains hold, provided that the id
under which it goes out is in ASCII (`conclude_domainsAnswer`).  The answer to a request that was ended is a failure
with status `500` (`conclude_lastResort`).
-/

namespace DomainPolicy

open Json (Value)
open Server (domainsAnswer lastResort idHeader)

/-! ### Lists in JSON -/

/-- The object that carries domains either way. -/
def Json.Value.ofDomains (domains : List String) : Value :=
  .ofMembers [("domains", .array (domains.map .ofString))]

theorem not_spoilt_ofDomains (domains : List String) (hidden : Text → Bool) :
    ¬(Value.ofDomains domains).Spoilt hidden := by
  simp [Value.ofDomains, Value.ofMembers]

theorem isPortable_ofDomains (domains : List String) : (Value.ofDomains domains).isPortable = true :=
  Value.isPortable_iff.2 (not_spoilt_ofDomains domains _)

/-- Domains are read back from the bytes in which they are written. -/
theorem readBytes_ofDomains (domains : List String) :
    Json.readBytes (Utf8.encode (Value.ofDomains domains).compact) = .ok (.ofDomains domains) := by
  have hitems : (Value.array (domains.map .ofString)).ReadsBack 1 := by
    refine Value.readsBack_array fun v hv => ?_
    obtain ⟨d, -, rfl⟩ := List.mem_map.1 hv
    exact Value.readsBack_string _
  exact Value.readBytes_member hitems (by decide) (isPortable_ofDomains domains)

namespace Client

/-! ### Headers -/

/-- Whether a text is in ASCII. -/
def IsAscii (s : String) : Prop := ∀ c ∈ s.toList, c.toNat < 128

instance : DecidablePred IsAscii := fun s =>
  @List.decidableBAll Char (·.toNat < 128) (fun c => Nat.decLt c.toNat 128) s.toList

/-- What is in ASCII is sent as it is. -/
theorem decode_encode {s : String} (h : IsAscii s) : Latin1.decode (Latin1.encode s) = s := by
  have hchars : ∀ c ∈ s.toList, Char.ofNat (c.toNat.toUInt8).toNat = c := by
    intro c hc
    have hlt : c.toNat < 256 := Nat.lt_trans (h c hc) (by decide)
    rw [Nat.toUInt8_eq, UInt8.toNat_ofNat', Nat.mod_eq_of_lt hlt, Char.ofNat_toNat]
  have hlist : (Latin1.encode s).map (fun b => Char.ofNat b.toNat) = s.toList := by
    rw [Latin1.encode, List.map_map]
    exact (List.map_congr_left hchars).trans (List.map_id _)
  rw [Latin1.decode, hlist, String.ofList_toList]

theorem header?_eq_none {r : Reply} {name : String}
    (h : ∀ p ∈ r.headers, String.ofList ((Latin1.decode p.1).toList.map Char.toLower) ≠ name) :
    r.header? name = none := by
  have hnone : r.headers.filter (fun p => String.ofList ((Latin1.decode p.1).toList.map Char.toLower) = name) = [] :=
    List.filter_eq_nil_iff.2 fun p hp => by simpa using h p hp
  rw [Reply.header?, hnone]

/-- A body in no coding comes as it is. -/
theorem expanded?_of_uncoded {r : Reply} (h : r.header? "content-encoding" = none) : r.expanded? = some r := by
  have hcodings : Http.Coding.ofHeader "" = [] := by decide +kernel
  have hbody : Http.Coding.decode? [] r.body = some r.body := by
    unfold Http.Coding.decode?
    split
    · rename_i hempty
      rw [List.isEmpty_iff.1 hempty]
    · rfl
  rw [Reply.expanded?, h]
  show (Http.Coding.decode? (Http.Coding.ofHeader "") r.body).map _ = _
  rw [hcodings, hbody]
  rfl

/-! ### Responses in JSON -/

/-- Whether a header changes nothing of how a reply is read: it is in ASCII, and names no coding and no content type. -/
structure IsNeutral (h : String × String) : Prop where
  name : IsAscii h.1
  value : IsAscii h.2
  coding : String.ofList (h.1.toList.map Char.toLower) ≠ "content-encoding"
  contentType : String.ofList (h.1.toList.map Char.toLower) ≠ contentTypeName

theorem isNeutral_id {id : String} (h : IsAscii id) : IsNeutral (idHeader, id) :=
  ⟨(by decide : IsAscii idHeader), h,
    (by decide +kernel : String.ofList (idHeader.toList.map Char.toLower) ≠ "content-encoding"),
    (by decide +kernel : String.ofList (idHeader.toList.map Char.toLower) ≠ contentTypeName)⟩

/-- A response that carries a JSON value, with more headers behind its own, as it comes back. -/
def Reply.ofJson (status : Nat) (v : Value) (more : List (String × String)) : Reply where
  status := status
  headers := rawHeaders
    (("content-length", toString (Utf8.size v.compact)) :: ("content-type", "application/json") :: more)
  body := Utf8.encode v.compact

variable {status : Nat} {v : Value} {more : List (String × String)}

theorem status_ofJson : (Reply.ofJson status v more).status = status := rfl

theorem body_ofJson : (Reply.ofJson status v more).body = Utf8.encode v.compact := rfl

theorem headers_ofJson (status : Nat) (v : Value) (more : List (String × String)) :
    (Reply.ofJson status v more).headers =
      (Latin1.encode "content-length", Latin1.encode (toString (Utf8.size v.compact))) ::
        (Latin1.encode "content-type", Latin1.encode "application/json") :: Reply.rawHeaders more := rfl

theorem expanded?_ofJson (h : ∀ p ∈ more, IsNeutral p) :
    (Reply.ofJson status v more).expanded? = some (.ofJson status v more) := by
  refine expanded?_of_uncoded (header?_eq_none ?_)
  have hlength : String.ofList ((Latin1.decode (Latin1.encode "content-length")).toList.map Char.toLower) ≠
      "content-encoding" := by decide +kernel
  have htype : String.ofList ((Latin1.decode (Latin1.encode "content-type")).toList.map Char.toLower) ≠
      "content-encoding" := by decide +kernel
  rw [headers_ofJson, List.forall_mem_cons, List.forall_mem_cons]
  refine ⟨hlength, htype, List.forall_mem_map.2 fun p hp => ?_⟩
  rw [decode_encode (h p hp).name]
  exact (h p hp).coding

/-- What carries JSON can be read as a text. -/
theorem exists_text_ofJson (h : ∀ p ∈ more, IsNeutral p) : ∃ t, (Reply.ofJson status v more).text = .ok t := by
  have htype : (Reply.ofJson status v more).header? contentTypeName = some "application/json" := by
    have hlength : String.ofList ((Latin1.decode (Latin1.encode "content-length")).toList.map Char.toLower) ≠
        contentTypeName := by decide +kernel
    have hown : String.ofList ((Latin1.decode (Latin1.encode "content-type")).toList.map Char.toLower) =
        contentTypeName := by decide +kernel
    have hmore : (Reply.rawHeaders more).filter
        (fun p => String.ofList ((Latin1.decode p.1).toList.map Char.toLower) = contentTypeName) = [] := by
      refine List.filter_eq_nil_iff.2 (List.forall_mem_map.2 fun p hp => ?_)
      rw [decode_encode (h p hp).name]
      simpa using (h p hp).contentType
    -- the type is the same text, however the headers are read
    have htext : (Reply.ofJson status v more).headerText (Latin1.encode "application/json") = "application/json" := by
      unfold Reply.headerText
      split
      · decide +kernel
      · decide +kernel
    rw [Reply.header?, headers_ofJson, List.filter_cons_of_neg (by simpa using hlength),
      List.filter_cons_of_pos (by simpa using hown), hmore]
    simp only [List.map_cons, List.map_nil, htext]
    rfl
  have hcharset : ContentType.charset "application/json" = .ok (.unicode .utf8) := by decide +kernel
  simp only [Reply.text, htype, Option.getD_some, hcharset]
  split <;> exact ⟨_, rfl⟩

/-! ### Answers -/

variable {server id : String}

/-- A client gets the domains that an answer lists, each as it is. -/
theorem conclude_domainsAnswer (domains : List String) (hid : IsAscii id) :
    conclude server (.ofResponse ((domainsAnswer domains).withHeader idHeader id)) =
      .ok (domains.map Value.ofString) := by
  have hneutral : ∀ p ∈ [(idHeader, id)], IsNeutral p := List.forall_mem_singleton.2 (isNeutral_id hid)
  generalize hr : Reply.ofResponse ((domainsAnswer domains).withHeader idHeader id) = r
  have hjson : r = .ofJson 200 (.ofDomains domains) [(idHeader, id)] := by rw [← hr]; rfl
  have htarget : r.target? server = none := by
    rw [Reply.target?, hjson, status_ofJson]
    rfl
  have hok : r.isError = false := by
    rw [Reply.isError, hjson, status_ofJson]
    rfl
  have hexpanded : r.expanded? = some r := by rw [hjson, expanded?_ofJson hneutral]
  rw [conclude, hexpanded]
  simp only [htarget, hok, Bool.false_eq_true, if_false]
  rw [listing, hjson, body_ofJson, readBytes_ofDomains]
  rfl

/-- A client gets a failure for a request that was ended. -/
theorem conclude_lastResort :
    conclude server (.ofResponse lastResort) = .error (.refused 500 (Text.ofString "Internal Server Error")) := rfl

end Client

end DomainPolicy
