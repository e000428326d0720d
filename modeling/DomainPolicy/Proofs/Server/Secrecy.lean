import DomainPolicy.Proofs.Guard.Stage
import DomainPolicy.Proofs.Server.Handling

/-!
# What is told of the secret and of tokens

Two apps whose secrets differ, and two requests whose tokens differ, are not told apart by what the service shows, as
long as the tokens fare alike: they are malformed both or compared with the same result (`Alike`).  The guard then ends
in the same way (`requireAdmin_alike`), and nothing else looks at secret, credential or token (`serve_alike`).  So two
lives with different secrets and salts show the same from start-up to shutdown, and leave the same behind
(`run_independent_of_secret`).
-/

namespace DomainPolicy

open Bcrypt (Digest)
open Token (IsText)

/-! ### Tokens that fare alike -/

namespace Token

/-- The headers that are not the token's. -/
def others (headers : Headers) : Headers := headers.filter fun h => !isHeaderName h.1

/-- Another header is looked up among the others. -/
theorem header?_others {name : String} (hname : isHeaderName (Utf8.encode name) = false) (headers : Headers) :
    Http.header? name (others headers) = Http.header? name headers := by
  rw [Http.header?, Http.header?, others, List.find?_filter]
  congr 2
  funext h
  cases hh : h.1 == Utf8.encode name with
  | true => rw [beq_iff_eq.1 hh, hname]; rfl
  | false => simp

/-- Whether headers differ in the values of the token's own only, and if there is one such value, the two are no header
text both or are compared with the same result. -/
structure Alike (digest : Digest) (c c' : Credential) (headers headers' : Headers) : Prop where
  others : others headers = others headers'
  count : (values headers).length = (values headers').length
  outcome : ∀ value value', values headers = [value] → values headers' = [value'] →
    ¬IsText value ∧ ¬IsText value' ∨
      IsText value ∧ IsText value' ∧ c.verify digest ⟨Latin1.decode value⟩ = c'.verify digest ⟨Latin1.decode value'⟩

variable {digest : Digest} {c c' : Credential} {headers headers' : Headers}

theorem alike_of_values {value value' : Bytes} (hothers : Token.others headers = Token.others headers')
    (hvalue : values headers = [value]) (hvalue' : values headers' = [value'])
    (h : ¬IsText value ∧ ¬IsText value' ∨ IsText value ∧ IsText value' ∧
      c.verify digest ⟨Latin1.decode value⟩ = c'.verify digest ⟨Latin1.decode value'⟩) :
    Alike digest c c' headers headers' := by
  refine ⟨hothers, by rw [hvalue, hvalue']; rfl, fun v v' hv hv' => ?_⟩
  rw [hvalue, List.singleton_inj] at hv
  rw [hvalue', List.singleton_inj] at hv'
  rw [← hv, ← hv']
  exact h

/-- Of several values, only their number counts. -/
theorem alike_of_length_ne_one (digest : Digest) (c c' : Credential)
    (hothers : Token.others headers = Token.others headers')
    (hcount : (values headers).length = (values headers').length) (hone : (values headers).length ≠ 1) :
    Alike digest c c' headers headers' :=
  ⟨hothers, hcount, fun _ _ hv _ => absurd (congrArg List.length hv) hone⟩

namespace Alike

theorem header?_eq (h : Alike digest c c' headers headers') {name : String}
    (hname : isHeaderName (Utf8.encode name) = false) : Http.header? name headers = Http.header? name headers' := by
  rw [← header?_others hname, h.others, header?_others hname]

/-- The headers are refused for the same reason, or present tokens that are compared with the same result. -/
theorem parse_cases (h : Alike digest c c' headers headers') :
    (∃ e, parse headers = .error e ∧ parse headers' = .error e) ∨
      ∃ t t', parse headers = .ok t ∧ parse headers' = .ok t' ∧ c.verify digest t = c'.verify digest t' := by
  by_cases hone : (values headers).length = 1
  · obtain ⟨value, hvalue⟩ := List.length_eq_one_iff.1 hone
    obtain ⟨value', hvalue'⟩ := List.length_eq_one_iff.1 (h.count ▸ hone)
    rcases h.outcome value value' hvalue hvalue' with ⟨hnot, hnot'⟩ | ⟨htext, htext', hverify⟩
    · exact Or.inl ⟨.malformed, (parse_of_values hvalue).2 hnot, (parse_of_values hvalue').2 hnot'⟩
    · exact Or.inr ⟨_, _, (parse_of_values hvalue).1 htext, (parse_of_values hvalue').1 htext', hverify⟩
  · refine Or.inl ⟨errorOfCount (values headers).length, parse_of_length_ne_one hone, ?_⟩
    rw [h.count]
    exact parse_of_length_ne_one (h.count ▸ hone)

end Alike

end Token

/-- The guard ends alike for tokens that fare alike. -/
theorem Guard.requireAdmin_alike {δ : Type} {digest : Digest} {c c' : Credential} {headers headers' : Headers}
    (h : Token.Alike digest c c' headers headers') (registry : Registry δ) :
    requireAdmin digest { registry with credential := .holds c } headers =
      requireAdmin digest { registry with credential := .holds c' } headers' := by
  unfold requireAdmin compare
  simp only [Slot.get?]
  rcases h.parse_cases with ⟨e, he, he'⟩ | ⟨t, t', ht, ht', hverify⟩
  · rw [he, he']
  · rw [ht, ht']
    simp only [hverify]

namespace Server

open Http (Request Response)

/-! ### Apps with two secrets -/

/-- An app with another secret and another credential. -/
def App.withSecret (a : App) (secret : String) (c : Credential) : App :=
  { a with
    settings := { a.settings with apiToken := some secret }
    registry := { a.registry with credential := .holds c } }

/-- Whether two requests that arrive differ in the token alone, and their tokens fare alike. -/
structure Alike (digest : Digest) (c c' : Credential) (q q' : Arrival) : Prop where
  rest : q' = { q with request := { q.request with headers := q'.request.headers } }
  token : Token.Alike digest c c' q.request.headers q'.request.headers

variable {digest : Digest} {c c' : Credential} (secret secret' : String)

section Request

variable {r : Request} {headers' : Headers} (h : Token.Alike digest c c' r.headers headers')
include h

theorem guarded_alike (a : App) (go : Admin Unit → Handled) :
    guarded digest (a.withSecret secret c) r go =
      guarded digest (a.withSecret secret' c') { r with headers := headers' } go := by
  have hguard := Guard.requireAdmin_alike h a.registry
  unfold guarded App.withSecret
  simp only [hguard]

theorem respond_alike (a : App) :
    respond digest (a.withSecret secret c) r =
      respond digest (a.withSecret secret' c') { r with headers := headers' } := by
  have hlocation : ∀ path, r.location path = Request.location { r with headers := headers' } path := by
    intro path
    unfold Request.location Request.host
    have hhost : Http.header? "host" r.headers = Http.header? "host" headers' := h.header?_eq (by decide)
    rw [hhost]
  unfold respond
  cases Route.find r.method r.path with
  | action action =>
    cases action with
    | health => rfl
    | ready => rfl
    | edit effect kind => exact guarded_alike secret secret' h a _
    | view kind => exact guarded_alike secret secret' h a _
  | otherMethod allowed => rfl
  | page p => rfl
  | otherPageMethod => rfl
  | elsewhere path => simp only [hlocation]; rfl
  | nothing => rfl

/-- A request is served alike, and leaves the two apps alike. -/
theorem serve_alike (a : App) (fresh : String) :
    ∃ (b : App) (e : Exchange), (a.withSecret secret c).serve digest fresh r = (b.withSecret secret c, e) ∧
      (a.withSecret secret' c').serve digest fresh { r with headers := headers' } = (b.withSecret secret' c', e) := by
  have hid : requestId fresh r = requestId fresh { r with headers := headers' } := by
    unfold requestId
    have hheader : Http.header? idHeader r.headers = Http.header? idHeader headers' := h.header?_eq (by decide)
    rw [hheader]
  have hrespond := respond_alike secret secret' h a
  refine ⟨{ a with db := (respond digest (a.withSecret secret c) r).db, journal := a.journal.clear }, _, rfl, ?_⟩
  unfold App.serve
  simp only [← hrespond, ← hid]
  rfl

end Request

/-- So are any number of them. -/
theorem run_alike {qs qs' : List Arrival} (h : List.Forall₂ (Alike digest c c') qs qs') (a : App) :
    ∃ (b : App) (seen : List Seen),
      (a.withSecret secret c).run digest (qs.map Arrival.step) = (b.withSecret secret c, seen) ∧
      (a.withSecret secret' c').run digest (qs'.map Arrival.step) = (b.withSecret secret' c', seen) := by
  induction h generalizing a with
  | nil => exact ⟨a, [], rfl, rfl⟩
  | @cons q q' qs qs' hq _ ih =>
    obtain ⟨b, e, hserve, hserve'⟩ := serve_alike secret secret' hq.token a q.fresh
    obtain ⟨b', seen, hrun, hrun'⟩ := ih b
    refine ⟨b', .exchange e :: seen, ?_, ?_⟩
    · rw [run_arrivals_cons, hserve, hrun]
    · rw [hq.rest, run_arrivals_cons, hserve', hrun']

/-! ### Lives with two secrets -/

/-- The app of settings with a secret, and what is reported meanwhile. -/
def App.createWith (digest : Digest) (pages : Pages) (settings : Settings) (secret : String) (salt : Bytes) :
    Except CreateError App × List Record :=
  App.create digest (Credential.saltText salt) pages { settings with apiToken := some (.ofString secret) }

/-- Either there are credentials for both secrets, and the two apps are alike, or there is no app for either, for the
same reason. -/
theorem createWith_alike {secret secret' : String} {salt salt' : Bytes} (digest : Digest)
    (hsecret : Utf8.size secret ≤ maxSecretBytes) (hsecret' : Utf8.size secret' ≤ maxSecretBytes)
    (hsalt : salt.length = 16) (hsalt' : salt'.length = 16) (pages : Pages) (settings : Settings) :
    (∃ e records, App.createWith digest pages settings secret salt = (.error e, records) ∧
        App.createWith digest pages settings secret' salt' = (.error e, records)) ∨
      ∃ c c' a records,
        Credential.build digest secret settings.bcryptRounds (Credential.saltText salt) = .ok c ∧
        Credential.build digest secret' settings.bcryptRounds (Credential.saltText salt') = .ok c' ∧
        App.createWith digest pages settings secret salt = (.ok (App.withSecret a secret c), records) ∧
        App.createWith digest pages settings secret' salt' = (.ok (a.withSecret secret' c'), records) := by
  unfold App.createWith App.create
  simp only
  cases hj : ({} : Journal).configure settings.serviceName settings.logLevel settings.jsonLogs with
  | mk journal error =>
    cases error with
    | some e => exact Or.inl ⟨_, _, rfl, rfl⟩
    | none =>
      by_cases hrounds : 4 ≤ settings.bcryptRounds ∧ settings.bcryptRounds ≤ 31
      · obtain ⟨c, hc⟩ := Credential.exists_build_of_rounds digest hsecret hrounds hsalt
        obtain ⟨c', hc'⟩ := Credential.exists_build_of_rounds digest hsecret' hrounds hsalt'
        simp only [Text.toString?_ofString, hc, hc']
        exact Or.inr ⟨c, c', { settings, journal, pages }, _, rfl, rfl, rfl, rfl⟩
      · obtain ⟨e, he⟩ := Credential.exists_error_of_rounds digest hrounds
        simp only [Text.toString?_ofString, he _ _ hsecret, he _ _ hsecret']
        exact Or.inl ⟨_, _, rfl, rfl⟩

/-- Two apps that are alike start alike, or do not for the same reason. -/
theorem start_alike (c c' : Credential) (a : App) (disk : Disk) :
    (∃ disk' e records, (a.withSecret secret c).start disk = ((disk', .error e), records) ∧
        (a.withSecret secret' c').start disk = ((disk', .error e), records)) ∨
      ∃ (disk' : Disk) (b : App) (records : List Record),
        (a.withSecret secret c).start disk = ((disk', .ok (b.withSecret secret c)), records) ∧
        (a.withSecret secret' c').start disk = ((disk', .ok (b.withSecret secret' c')), records) := by
  have hopen : (a.withSecret secret c).openDatabase disk = a.openDatabase disk := rfl
  have hopen' : (a.withSecret secret' c').openDatabase disk = a.openDatabase disk := rfl
  unfold App.start
  rw [hopen, hopen']
  cases a.openDatabase disk with
  | mk disk' opened =>
    cases opened with
    | error e => exact Or.inl ⟨disk', e, _, rfl, rfl⟩
    | ok db => exact Or.inr ⟨disk', a.withDatabase db, _, rfl, rfl⟩

namespace Life

/-- A life with a secret, whose app is sent requests. -/
def withSecret (settings : Settings) (pages : Pages) (isStarted : Bool) (secret : String) (salt : Bytes)
    (qs : List Arrival) : Life where
  settings := .ok { settings with apiToken := some (.ofString secret) }
  salt := Credential.saltText salt
  pages := pages
  isStarted := isStarted
  steps := qs.map Arrival.step

/-- The app of a life after its last step, if it gets one. -/
def last? (digest : Digest) (disk : Disk) (life : Life) : Option App :=
  match life.settings with
  | .error _ => none
  | .ok settings =>
    match (App.create digest life.salt life.pages settings).1 with
    | .error _ => none
    | .ok a =>
      if life.isStarted then
        match (a.start disk).1.2 with
        | .error _ => none
        | .ok a => some (a.run digest life.steps).1
      else some (a.run digest life.steps).1

/-- Take two lives that differ in the secret, in the salt and in the tokens that requests present, the tokens of each
request faring alike.  They show the same at start-up, for every request and at shutdown, and leave the same database
and the same disk. -/
theorem run_independent_of_secret {digest : Digest} {settings : Settings} {pages : Pages} {isStarted : Bool}
    {secret secret' : String} {salt salt' : Bytes} {qs qs' : List Arrival} (hsecret : Utf8.size secret ≤ maxSecretBytes)
    (hsecret' : Utf8.size secret' ≤ maxSecretBytes) (hsalt : salt.length = 16) (hsalt' : salt'.length = 16)
    (hqs : ∀ c c', Credential.build digest secret settings.bcryptRounds (Credential.saltText salt) = .ok c →
      Credential.build digest secret' settings.bcryptRounds (Credential.saltText salt') = .ok c' →
        List.Forall₂ (Alike digest c c') qs qs') (disk : Disk) :
    let life := withSecret settings pages isStarted secret salt qs
    let life' := withSecret settings pages isStarted secret' salt' qs'
    life.run digest disk = life'.run digest disk ∧
      (life.last? digest disk).map App.db = (life'.last? digest disk).map App.db := by
  intro life life'
  rcases createWith_alike digest hsecret hsecret' hsalt hsalt' pages settings with
    ⟨e, records, h, h'⟩ | ⟨c, c', a, created, hc, hc', h, h'⟩ <;> rw [App.createWith] at h h'
  · simp only [life, life', run, last?, withSecret, h, h', and_self]
  · have hrun := run_alike secret secret' (hqs c c' hc hc')
    cases isStarted with
    | false =>
      obtain ⟨b, seen, hb, hb'⟩ := hrun a
      simp only [life, life', run, last?, withSecret, h, h', hb, hb']
      exact ⟨rfl, rfl⟩
    | true =>
      rcases start_alike secret secret' c c' a disk with
        ⟨disk', e, started, hs, hs'⟩ | ⟨disk', b, started, hs, hs'⟩
      · simp only [life, life', run, last?, withSecret, h, h', hs, hs']
        exact ⟨rfl, rfl⟩
      · obtain ⟨b', seen, hb, hb'⟩ := hrun b
        simp only [life, life', run, last?, withSecret, h, h', hs, hs', hb, hb']
        exact ⟨rfl, rfl⟩

/-- The right token, no header text, two tokens, and a token that is too long for a secret. -/
theorem run_independent_of_secret_s3cr3t :
    let ask (tokens : List Bytes) : Arrival :=
      { fresh := "1"
        request := { method := "POST", path := "/api/v1/admin/allow", server := "test"
                     headers := tokens.map (Utf8.encode Token.headerName, ·)
                     chunks := [Utf8.encode "\x7b\"domains\": [\"a\"]\x7d"] } }
    let life := withSecret {} {} true "s3cr3t" (List.replicate 16 0)
      [ask [Utf8.encode "s3cr3t"], ask [[10]], ask [Utf8.encode "s3cr3t", []], ask [List.replicate 73 97]]
    let life' := withSecret {} {} true "other" (List.replicate 16 1)
      [ask [Utf8.encode "other"], ask [[]], ask [[97], [97]], ask [List.replicate 73 98]]
    life.run Bcrypt.digest .usual = life'.run Bcrypt.digest .usual ∧
      (life.last? Bcrypt.digest .usual).map App.db = (life'.last? Bcrypt.digest .usual).map App.db := by
  intro ask life life'
  refine run_independent_of_secret (by decide) (by decide) rfl rfl (fun c c' hc hc' => ?_) .usual
  have hright : Token.Alike Bcrypt.digest c c' (ask [Utf8.encode "s3cr3t"]).request.headers
      (ask [Utf8.encode "other"]).request.headers := by
    have htext : IsText (Utf8.encode "s3cr3t") := Token.isText_iff.1 (by decide)
    have htext' : IsText (Utf8.encode "other") := Token.isText_iff.1 (by decide)
    refine Token.alike_of_values rfl rfl rfl (Or.inr ⟨htext, htext', ?_⟩)
    exact (Credential.verify_self hc).trans (Credential.verify_self hc').symm
  have hmalformed : Token.Alike Bcrypt.digest c c' (ask [[10]]).request.headers (ask [[]]).request.headers := by
    have htext : ¬IsText [10] := mt Token.isText_iff.2 (by decide)
    have htext' : ¬IsText [] := mt Token.isText_iff.2 (by decide)
    exact Token.alike_of_values rfl rfl rfl (Or.inl ⟨htext, htext'⟩)
  have htwice : Token.Alike Bcrypt.digest c c' (ask [Utf8.encode "s3cr3t", []]).request.headers
      (ask [[97], [97]]).request.headers := Token.alike_of_length_ne_one _ _ _ rfl rfl (by decide)
  have hlong : Token.Alike Bcrypt.digest c c' (ask [List.replicate 73 97]).request.headers
      (ask [List.replicate 73 98]).request.headers := by
    have htext : IsText (List.replicate 73 97) := Token.isText_iff.1 (by decide)
    have htext' : IsText (List.replicate 73 98) := Token.isText_iff.1 (by decide)
    refine Token.alike_of_values rfl rfl rfl (Or.inr ⟨htext, htext', ?_⟩)
    rw [Credential.verify_of_long, Credential.verify_of_long]
    · rw [Utf8.size, Token.encode_value_of_isText htext']
      decide
    · rw [Utf8.size, Token.encode_value_of_isText htext]
      decide
  exact .cons ⟨rfl, hright⟩ (.cons ⟨rfl, hmalformed⟩ (.cons ⟨rfl, htwice⟩ (.cons ⟨rfl, hlong⟩ .nil)))

end Life

end Server

end DomainPolicy
