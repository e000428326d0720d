import DomainPolicy.Proofs.Server.Complaint
import DomainPolicy.Proofs.Server.Integrity

/-!
# What becomes of a body

An edit that the guard grants is answered `200` if its body submits domains and the store takes them, and `422` if the
body does not.  It is answered `500` exactly when the body or the store leaves it `Unanswerable` (`status_of_edit`):
the body cannot be read for the length or depth of what is in it, something that is complained of cannot be written, or
the store cannot take what the body submits.
-/

namespace DomainPolicy.Server

open Http (Request Response)
open Json (Value Members)
open Submission (Accepts Rejects isHidden)

/-! ### What a body leads to -/

/-- Why an edit of a body has no answer of its own: the body holds a number that is too long or nests too deep, it is
wrong in a part that cannot be echoed, it submits a text that is no string, or it submits domains to a store that cannot
be written. -/
inductive Unanswerable (db : Database) (body : Bytes) : Prop where
  | unreadable {e : Json.ReadError} (h : Json.readBytes body = .error e) (he : e = .tooManyDigits ∨ e = .tooDeep)
  | unechoed {v w : Value} (h : Json.readBytes body = .ok v) (hw : Rejects v w) (hspoilt : w.Spoilt isHidden)
  | unstorable {v : Value} {ts : List Text} (h : Json.readBytes body = .ok v) (hts : Accepts v ts)
    (hhalf : ∃ t ∈ ts, ¬t.Whole)
  | unwritable {domains : List String} (h : Command.Submits body domains) (hdb : db.isWritable = false)
    (hne : Domain.wanted (domains.map Text.ofString) ≠ [])

/-- Whether a body submits domains that a store takes. -/
def Submitted (db : Database) (body : Bytes) : Prop :=
  ∃ domains, Command.Submits body domains ∧ (db.isWritable = true ∨ Domain.wanted (domains.map Text.ofString) = [])

/-- Whether a body is complained of. -/
inductive Malformed (body : Bytes) : Prop where
  | unread {e : Json.ReadError} (h : Json.readBytes body = .error e) (he : e = .malformed ∨ e = .undecodable)
  | rejected {v w : Value} (h : Json.readBytes body = .ok v) (hw : Rejects v w)

theorem exists_ofString_of_whole {ts : List Text} (h : ¬∃ t ∈ ts, ¬t.Whole) :
    ∃ ds : List String, ts = ds.map Text.ofString := by
  induction ts with
  | nil => exact ⟨[], rfl⟩
  | cons t ts ih =>
    obtain ⟨d, rfl⟩ := Text.whole_iff_ofString.1 (not_not.1 fun ht => h ⟨t, List.mem_cons_self .., ht⟩)
    obtain ⟨ds, rfl⟩ := ih fun ⟨t, ht, hhalf⟩ => h ⟨t, List.mem_cons_of_mem _ ht, hhalf⟩
    exact ⟨d :: ds, rfl⟩

theorem submits_iff {body : Bytes} {domains : List String} :
    Command.Submits body domains ↔
      ∃ v, Json.readBytes body = .ok v ∧ Accepts v (domains.map Text.ofString) := by
  simp only [Command.Submits, Accepts, List.length_map, List.map_map]
  constructor
  · rintro ⟨hpos, hle, ms, hbody, hget⟩
    exact ⟨_, hbody, ms, rfl, hget, hpos, hle⟩
  · rintro ⟨_, hbody, ms, rfl, hget, hpos, hle⟩
    exact ⟨hpos, hle, ms, hbody, hget⟩

/-- Whatever a body is, it submits domains that the store takes, or is complained of, or cannot be answered. -/
theorem body_cases (db : Database) (body : Bytes) : Submitted db body ∨ Malformed body ∨ Unanswerable db body := by
  cases hbody : Json.readBytes body with
  | error e =>
    cases e with
    | malformed => exact Or.inr (Or.inl (.unread hbody (Or.inl rfl)))
    | undecodable => exact Or.inr (Or.inl (.unread hbody (Or.inr rfl)))
    | tooManyDigits => exact Or.inr (Or.inr (.unreadable hbody (Or.inl rfl)))
    | tooDeep => exact Or.inr (Or.inr (.unreadable hbody (Or.inr rfl)))
  | ok v =>
    cases hdomains : Submission.domains v with
    | error cs =>
      have hsorts := Submission.sorts_domains v
      rw [hdomains] at hsorts
      cases hsorts with
      | error hsome habout =>
        obtain ⟨w, hw⟩ := hsome
        exact Or.inr (Or.inl (.rejected hbody hw))
    | ok ts =>
      have haccepts := Submission.domains_eq_ok_iff.1 hdomains
      by_cases hhalf : ∃ t ∈ ts, ¬t.Whole
      · exact Or.inr (Or.inr (.unstorable hbody haccepts hhalf))
      · obtain ⟨ds, rfl⟩ := exists_ofString_of_whole hhalf
        have hsubmits := submits_iff.2 ⟨v, hbody, haccepts⟩
        cases hw : db.isWritable with
        | true => exact Or.inl ⟨ds, hsubmits, Or.inl hw⟩
        | false =>
          by_cases hwanted : Domain.wanted (ds.map Text.ofString) = []
          · exact Or.inl ⟨ds, hsubmits, Or.inr hwanted⟩
          · exact Or.inr (Or.inr (.unwritable hsubmits hw hwanted))

/-! ### What the edit does -/

variable {db : Database} {t : Table} {body : Bytes} {effect : Effect} {kind : RuleKind}

theorem Effect.writes_call (effect : Effect) (kind : RuleKind) (domains : List Text) :
    (effect.call kind domains).writes = decide (Domain.wanted domains ≠ []) := by
  cases effect <;> rfl

theorem refuses_eq_false_iff {domains : List Text} :
    db.refuses (effect.call kind domains) = false ↔ db.isWritable = true ∨ Domain.wanted domains = [] := by
  rw [Database.refuses, Effect.writes_call]
  cases db.isWritable <;> simp

theorem editAsAsked_of_submits {domains : List String} (h : Command.Submits body domains) :
    editAsAsked db effect kind body = edit db effect kind (domains.map Text.ofString) := by
  simp only [editAsAsked, Command.read_of_submits h]

/-- A list with a text that is no string is refused, since it comes to a name that is none. -/
theorem refusal?_of_half {ts : List Text} (effect : Effect) (kind : RuleKind) (l : Limits) (hlength : ts.length ≤ 1000)
    (hhalf : ∃ t ∈ ts, ¬t.Whole) :
    (effect.call kind ts).refusal? .onConflict l = some .unencodable := by
  obtain ⟨t, ht, hhalf⟩ := hhalf
  have hname : Domain.normalizeText t ∈ Domain.wanted ts := by
    refine Domain.mem_wanted.2 (Domain.mem_names.2 ⟨?_, t, ht, rfl⟩)
    intro hempty
    refine hhalf (Domain.whole_normalizeText.1 ?_)
    rw [hempty]
    exact fun _ => nofun
  have hany : ((Domain.wanted ts).any fun name => name.toString?.isNone) = true :=
    List.any_eq_true.2 ⟨_, hname, Text.isNone_toString?_iff.2 (mt Domain.whole_normalizeText.1 hhalf)⟩
  have hne : Domain.wanted ts ≠ [] := List.ne_nil_of_mem hname
  have hcount := (Domain.length_wanted_le ts).trans hlength
  cases effect with
  | add =>
    have hvalues : ¬l.maxValues < 3 * (Domain.wanted ts).length := l.not_maxValues_lt (by omega)
    exact (if_neg hne).trans ((if_neg hvalues).trans (if_pos hany))
  | remove =>
    have hvalues : ¬l.maxValues < 1 + (Domain.wanted ts).length := l.not_maxValues_lt (by omega)
    exact (if_neg hne).trans ((if_neg hvalues).trans (if_pos hany))

theorem answer_of_submitted (effect : Effect) (kind : RuleKind) (hdb : db.Holds t) (h : Submitted db body) :
    ∃ ds, (editAsAsked db effect kind body).answer = .ok (domainsAnswer ds) := by
  obtain ⟨domains, hsubmits, hwrites⟩ := h
  have hrefuses : db.refuses (effect.call kind (domains.map Text.ofString)) = false := refuses_eq_false_iff.2 hwrites
  rw [editAsAsked_of_submits hsubmits, edit, runCall,
    hdb.session_done (Database.refusal?_of_not_refuses (Command.plain_of_submits hsubmits effect kind) hrefuses _)]
  exact ⟨_, rfl⟩

theorem answer_of_rejection {cs : List Complaint} (h : Submission.read body = .error (.complaints cs)) :
    (editAsAsked db effect kind body).answer =
      (Submission.rejection? cs).elim (.error .answerUnwritable) .ok := by
  simp only [editAsAsked, h]
  cases Submission.rejection? cs <;> rfl

theorem read_of_rejects {v w : Value} (hbody : Json.readBytes body = .ok v) (hw : Rejects v w) :
    ∃ cs, Submission.read body = .error (.complaints cs) ∧ About cs (Rejects v) := by
  have hsorts := Submission.sorts_domains v
  cases hdomains : Submission.domains v with
  | ok ts =>
    rw [hdomains] at hsorts
    cases hsorts with
    | ok ha hnone => exact absurd hw (hnone w)
  | error cs =>
    rw [hdomains] at hsorts
    cases hsorts with
    | error hsome habout =>
      refine ⟨cs, ?_, habout⟩
      rw [Submission.read_of_readBytes hbody, hdomains]
      rfl

theorem answer_of_malformed (effect : Effect) (kind : RuleKind) (h : Malformed body)
    (hanswerable : ¬Unanswerable db body) :
    ∃ r, (editAsAsked db effect kind body).answer = .ok r ∧ r.status = 422 := by
  suffices hread : ∃ cs, Submission.read body = .error (.complaints cs) ∧ Submission.rejection? cs ≠ none by
    obtain ⟨cs, hcs, hne⟩ := hread
    obtain ⟨r, hr⟩ := Option.ne_none_iff_exists'.1 hne
    exact ⟨r, by rw [answer_of_rejection hcs, hr]; rfl, Submission.status_rejection hr⟩
  cases h with
  | unread hbody he =>
    refine ⟨_, by rcases he with rfl | rfl <;> rw [Submission.read, hbody], ?_⟩
    rw [Ne, Submission.rejection?_eq_none_iff]
    · simp
    · intro c hc k hk
      cases List.mem_singleton.1 hc
      cases List.mem_singleton.1 hk
      exact Text.whole_ofString _
  | rejected hbody hw =>
    obtain ⟨cs, hcs, habout⟩ := read_of_rejects hbody hw
    refine ⟨cs, hcs, ?_⟩
    rw [Ne, Submission.rejection?_eq_none_iff habout.path]
    rintro ⟨c, hc, hspoilt⟩
    exact hanswerable (.unechoed hbody ((habout.input_iff _).1 ⟨c, hc, rfl⟩) hspoilt)

theorem answer_of_unanswerable (effect : Effect) (kind : RuleKind) (hdb : db.Holds t) (h : Unanswerable db body) :
    ∃ crash, (editAsAsked db effect kind body).answer = .error crash := by
  cases h with
  | @unreadable e hbody he =>
    have hread : Submission.read body = .error (.unreadable e) := by
      rcases he with rfl | rfl <;> rw [Submission.read, hbody]
    exact ⟨.bodyUnreadable e, by simp only [editAsAsked, hread]⟩
  | @unechoed v w hbody hw hspoilt =>
    obtain ⟨cs, hcs, habout⟩ := read_of_rejects hbody hw
    obtain ⟨c, hc, rfl⟩ := (habout.input_iff w).2 hw
    refine ⟨.answerUnwritable, ?_⟩
    rw [answer_of_rejection hcs, (Submission.rejection?_eq_none_iff habout.path).2 ⟨c, hc, hspoilt⟩]
    rfl
  | @unstorable v ts hbody hts hhalf =>
    have hread : Submission.read body = .ok ts := by
      rw [Submission.read_of_readBytes hbody, Submission.domains_eq_ok_iff.2 hts]
      rfl
    refine ⟨.storeFailed .unencodable, ?_⟩
    simp only [editAsAsked, hread, edit, runCall,
      hdb.session_refused (refusal?_of_half effect kind db.toLimits hts.length_le hhalf)]
  | @unwritable domains hsubmits hw hne =>
    have hrefuses : db.refuses (effect.call kind (domains.map Text.ofString)) = true := by
      rw [← Bool.not_eq_false, refuses_eq_false_iff, hw]
      exact not_or.2 ⟨Bool.false_ne_true, hne⟩
    refine ⟨.storeFailed .unwritable, ?_⟩
    rw [editAsAsked_of_submits hsubmits, edit, runCall,
      hdb.session_refused (Database.refusal?_of_refuses (Command.plain_of_submits hsubmits effect kind) hrefuses _)]

/-! ### The status -/

variable {digest : Bcrypt.Digest} {a : App} {r : Request}

/-- A request that the guard grants and that is sent to one of the four routes edits as its body asks. -/
theorem answer_of_edit (hg : Granted digest a r) (hmethod : r.method = "POST")
    (hpath : ∃ p ∈ editPaths, r.path = p ∨ r.path = p ++ "\n") :
    ∃ effect kind, (respond digest a r).answer = (editAsAsked a.db effect kind r.body).answer := by
  have hall : ∀ p ∈ editPaths, ∀ path ∈ [p, p ++ "\n"], ∃ action ∈ Action.all,
      Route.find "POST" path = .action action ∧ action.method = .post := by decide +kernel
  obtain ⟨p, hp, hpath⟩ := hpath
  obtain ⟨action, -, hfind, hpost⟩ := hall p hp r.path (by simpa using hpath)
  obtain ⟨admin, hadmin⟩ := hg
  cases action with
  | edit effect kind =>
    refine ⟨effect, kind, ?_⟩
    rw [respond_action (hmethod ▸ hfind)]
    show (guarded digest a r _).answer = _
    rw [guarded_granted hadmin]
  | _ => cases hpost

/-- What an edit is answered, by what its body leads to. -/
theorem status_of_answer (fresh : String) {handled : Except Crash Response}
    (h : (respond digest a r).answer = handled) :
    (a.serve digest fresh r).2.response.status = match handled with
      | .ok response => response.status
      | .error _ => 500 := by
  cases handled with
  | ok response => rw [response_serve h]; rfl
  | error crash => rw [response_serve_of_crash h]; rfl

end DomainPolicy.Server
