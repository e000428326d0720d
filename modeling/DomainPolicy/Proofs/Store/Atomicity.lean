import DomainPolicy.Proofs.Store.Insertion

/-!
# Sessions are atomic

A session that adds in one statement does all or nothing (`session_atomic`).  It is carried out if the database can do
what it asks (`session_eq_ok_iff`), and then each call is answered from the rows that the calls up to it leave
(`answers_replies`): a domain is listed if a call has added it and none after that has removed it, or if it was there
before and no call has removed it (`mem_list_foldl_after`).  If a call is refused, the calls before it have been answered
so, and what they wrote is undone.  What is left behind is the rows after the last call, or, if the session is aborted or
fails, a database that no later session can tell from the one before (`sessions_alike`).
-/

namespace DomainPolicy

open Domain (named)

/-! ### What a session sees -/

namespace Call

/-- Whether a call adds a domain to the list of a kind. -/
def Adds (c : Call) (kind : RuleKind) (d : String) : Prop := ∃ ds, c = .add kind ds ∧ d ∈ named ds

/-- Whether a call removes a domain from the list of a kind. -/
def Removes (c : Call) (kind : RuleKind) (d : String) : Prop := ∃ ds, c = .remove kind ds ∧ d ∈ named ds

variable {kind k : RuleKind} {ds : List Text} {d : String}

@[simp] theorem adds_add_iff : (add k ds).Adds kind d ↔ kind = k ∧ d ∈ named ds := by
  constructor
  · rintro ⟨_, he, hd⟩
    cases he
    exact ⟨rfl, hd⟩
  · rintro ⟨rfl, hd⟩
    exact ⟨ds, rfl, hd⟩

@[simp] theorem not_adds_remove : ¬(remove k ds).Adds kind d := nofun

@[simp] theorem removes_remove_iff : (remove k ds).Removes kind d ↔ kind = k ∧ d ∈ named ds := by
  constructor
  · rintro ⟨_, he, hd⟩
    cases he
    exact ⟨rfl, hd⟩
  · rintro ⟨rfl, hd⟩
    exact ⟨ds, rfl, hd⟩

@[simp] theorem not_removes_add : ¬(add k ds).Removes kind d := nofun

end Call

namespace Table

variable {t : Table} {kind : RuleKind} {d : String}

/-- What is listed after one call. -/
theorem mem_list_after {c : Call} :
    d ∈ (t.after c).list kind ↔ c.Adds kind d ∨ d ∈ t.list kind ∧ ¬c.Removes kind d := by
  rw [mem_list, mem_list]
  cases c with
  | add k ds =>
    rw [after, domains_add]
    by_cases hk : kind = k <;> simp [hk, or_comm]
  | remove k ds =>
    rw [after, domains_remove]
    by_cases hk : kind = k <;> simp [hk]
  | list k => simp [after, Call.Adds, Call.Removes]
  | rows => simp [after, Call.Adds, Call.Removes]

/-- Whether a table shows a domain after calls: one of them has added it and none after that has removed it, or it was
there and none has removed it. -/
def Shows (t : Table) (calls : List Call) (kind : RuleKind) (d : String) : Prop :=
  (∃ before c after, calls = before ++ c :: after ∧ c.Adds kind d ∧ ∀ c' ∈ after, ¬c'.Removes kind d) ∨
    d ∈ t.list kind ∧ ∀ c ∈ calls, ¬c.Removes kind d

theorem mem_list_foldl_after {calls : List Call} :
    d ∈ Table.list (calls.foldl after t) kind ↔ t.Shows calls kind d := by
  induction calls generalizing t with
  | nil => simp [Shows]
  | cons c calls ih =>
    rw [List.foldl_cons, ih, Shows, Shows, mem_list_after]
    -- the last call that adds is the first of all, or among the others
    constructor
    · rintro (⟨before, c', rest, rfl, hadds, hrest⟩ | ⟨hadds | ⟨hd, hc⟩, hcalls⟩)
      · exact Or.inl ⟨c :: before, c', rest, rfl, hadds, hrest⟩
      · exact Or.inl ⟨[], c, calls, rfl, hadds, hcalls⟩
      · exact Or.inr ⟨hd, List.forall_mem_cons.2 ⟨hc, hcalls⟩⟩
    · rintro (⟨before, c', rest, hcalls, hadds, hrest⟩ | ⟨hd, hcalls⟩)
      · cases before with
        | nil =>
          cases hcalls
          exact Or.inr ⟨Or.inl hadds, hrest⟩
        | cons c'' before =>
          cases hcalls
          exact Or.inl ⟨before, c', rest, rfl, hadds, hrest⟩
      · obtain ⟨hc, hcalls⟩ := List.forall_mem_cons.1 hcalls
        exact Or.inr ⟨Or.inr ⟨hd, hc⟩, hcalls⟩

/-- Whether replies answer calls, each from the table that the calls up to it leave. -/
structure Answers (t : Table) (calls : List Call) (replies : List Reply) : Prop where
  length_eq : replies.length = calls.length
  reply_eq : ∀ before c after, calls = before ++ c :: after →
    replies[before.length]? = some (c.reply ((before ++ [c]).foldl Table.after t))

end Table

namespace Table

theorem length_replies (t : Table) (calls : List Call) : (t.replies calls).length = calls.length := by
  induction calls generalizing t with
  | nil => rfl
  | cons c calls ih => exact congrArg Nat.succ (ih (t.after c))

theorem getElem?_replies (t : Table) (before : List Call) (c : Call) (after : List Call) :
    (t.replies (before ++ c :: after))[before.length]? = some (c.reply ((before ++ [c]).foldl Table.after t)) := by
  induction before generalizing t with
  | nil => rfl
  | cons c' before ih => exact ih (t.after c')

theorem answers_replies (t : Table) (calls : List Call) : t.Answers calls (t.replies calls) := by
  refine ⟨length_replies t calls, ?_⟩
  rintro before c after rfl
  exact getElem?_replies t before c after

end Table

namespace Database

variable {db : Database} {how : Insertion} {ending : Ending} {calls : List Call}

/-! ### Which sessions are carried out -/

/-- Whether a database can carry calls out: it can be reached, is no foreign file, has its table, and refuses none of
them. -/
structure CanCarry (db : Database) (how : Insertion) (calls : List Call) : Prop where
  offers : ∃ t, db.Offers t
  accepted : Call.Accepted how db.toLimits calls

/-- A session is answered if and only if it asks for nothing or the database can carry it out. -/
theorem session_eq_ok_iff (db : Database) (how : Insertion) (ending : Ending) (calls : List Call) :
    (∃ replies, (db.session how ending calls).2 = .ok replies) ↔ calls = [] ∨ db.CanCarry how calls := by
  by_cases hcalls : calls = []
  · subst hcalls
    exact iff_of_true ⟨[], rfl⟩ (Or.inl rfl)
  rw [or_iff_right hcalls]
  rcases offers_or_not db with ⟨t, ht⟩ | hnot
  · rw [session_of_offers ht hcalls, Session.exists_answer_eq_ok_iff]
    exact ⟨fun h => ⟨⟨t, ht⟩, h⟩, CanCarry.accepted⟩
  · obtain ⟨e, isConnected, hsession⟩ := session_of_not_offers hnot hcalls how ending
    rw [hsession]
    refine iff_of_false (fun ⟨_, h⟩ => nomatch h) fun h => ?_
    obtain ⟨t, ht⟩ := h.offers
    exact hnot t ht

/-- A session that can be carried out leaves the rows that its end says, and is answered. -/
theorem session_of_canCarry (h : db.CanCarry how calls) {t : Table} (ht : db.table = some t) (hcalls : calls ≠ [])
    (ending : Ending) :
    db.session how ending calls =
      ({ db with isConnected := true, table := some ((Session.start db.toLimits t).left how ending calls) },
        .ok (t.replies calls)) := by
  obtain ⟨t', ht'⟩ := h.offers
  cases ht'.table_eq.symm.trans ht
  rw [session_of_offers ht' hcalls, Session.answer_of_accepted h.accepted]

/-! ### Later sessions -/

/-- Whether two databases are the same but for the connection that there was to one of them. -/
def Alike (db db' : Database) : Prop := ∃ isConnected, db' = { db with isConnected }

theorem Alike.refl (db : Database) : db.Alike db := ⟨db.isConnected, rfl⟩

theorem Alike.table_eq {db db' : Database} (h : db.Alike db') : db'.table = db.table := by
  obtain ⟨isConnected, rfl⟩ := h
  rfl

/-- A session answers alike on databases that are alike, and leaves them alike. -/
theorem Alike.session {db' : Database} (h : db.Alike db') (how : Insertion) (ending : Ending) (calls : List Call) :
    (db'.session how ending calls).2 = (db.session how ending calls).2 ∧
      (db.session how ending calls).1.Alike (db'.session how ending calls).1 := by
  obtain ⟨isConnected, rfl⟩ := h
  have hconnect : connect { db with isConnected } = db.connect := rfl
  unfold Database.session
  cases calls with
  | nil => exact ⟨rfl, isConnected, rfl⟩
  | cons first rest =>
    simp only [hconnect]
    cases db.connect with
    | error e => exact ⟨rfl, isConnected, rfl⟩
    | ok connected => exact ⟨rfl, .refl _⟩

/-- Sessions one after the other. -/
def sessions (db : Database) :
    List (Insertion × Ending × List Call) → Database × List (Except SessionFailure (List Reply))
  | [] => (db, [])
  | (how, ending, calls) :: rest =>
    let (db, result) := db.session how ending calls
    let (db, results) := sessions db rest
    (db, result :: results)

theorem sessions_alike {db db' : Database} (h : db.Alike db')
    (later : List (Insertion × Ending × List Call)) :
    (db'.sessions later).2 = (db.sessions later).2 ∧ (db.sessions later).1.Alike (db'.sessions later).1 := by
  induction later generalizing db db' with
  | nil => exact ⟨rfl, h⟩
  | cons session later ih =>
    obtain ⟨how, ending, calls⟩ := session
    obtain ⟨hresult, hdb⟩ := h.session how ending calls
    obtain ⟨hresults, hend⟩ := ih hdb
    exact ⟨congrArg₂ List.cons hresult hresults, hend⟩

/-! ### How a session ends -/

variable {db : Database} {how : Insertion} {ending : Ending} {calls : List Call}

/-- What a session that is answered answers, and the rows that it commits. -/
theorem session_of_ok {replies : List Reply} (h : (db.session how ending calls).2 = .ok replies) :
    db.rows.Answers calls replies ∧
      (ending = .clean → (db.session how ending calls).1.rows = calls.foldl Table.after db.rows) := by
  by_cases hcalls : calls = []
  · subst hcalls
    cases h
    exact ⟨Table.answers_replies db.rows [], fun _ => rfl⟩
  · have hcarry := ((session_eq_ok_iff db how ending calls).1 ⟨replies, h⟩).resolve_left hcalls
    obtain ⟨t, ht⟩ := hcarry.offers
    rw [session_of_canCarry hcarry ht.table_eq hcalls] at h ⊢
    cases h
    rw [rows_eq_of_some ht.table_eq]
    refine ⟨Table.answers_replies t calls, ?_⟩
    rintro rfl
    exact Session.left_clean (s := Session.start db.toLimits t) hcarry.accepted

/-- What a session that fails has answered before. -/
theorem session_of_error {f : SessionFailure} (h : (db.session how ending calls).2 = .error f) :
    ∃ before c after, calls = before ++ c :: after ∧ db.rows.Answers before f.replies := by
  by_cases hcalls : calls = []
  · subst hcalls
    cases h
  rcases offers_or_not db with ⟨t, ht⟩ | hnot
  · rw [session_of_offers ht hcalls] at h
    unfold Session.answer at h
    split at h
    · cases h
    · rename_i e he
      cases h
      obtain ⟨before, c, after, rfl, hrefused, hbefore⟩ := List.findSome?_eq_some_iff.1 he
      have htake : (before ++ c :: after).takeWhile (fun c => (c.refusal? how db.toLimits).isNone) = before := by
        rw [List.takeWhile_append_of_pos fun c' hc' => by rw [hbefore c' hc']; rfl,
          List.takeWhile_cons_of_neg (by rw [hrefused]; exact Bool.false_ne_true), List.append_nil]
      refine ⟨before, c, after, rfl, ?_⟩
      rw [htake, rows_eq_of_some ht.table_eq]
      exact Table.answers_replies t before
  · obtain ⟨e, isConnected, hsession⟩ := session_of_not_offers hnot hcalls how ending
    obtain ⟨c, after, rfl⟩ := List.exists_cons_of_ne_nil hcalls
    rw [hsession] at h
    cases h
    exact ⟨[], c, after, rfl, Table.answers_replies db.rows []⟩

/-- A session that adds in one statement and is aborted, or fails, leaves at most a connection. -/
theorem alike_of_undone (h : ending = .abort ∨ ∃ f, (db.session .onConflict ending calls).2 = .error f) :
    db.Alike (db.session .onConflict ending calls).1 := by
  by_cases hcalls : calls = []
  · subst hcalls
    exact .refl db
  rcases offers_or_not db with ⟨t, ht⟩ | hnot
  · rw [session_of_offers ht hcalls] at h ⊢
    rw [Session.left_onConflict (Session.not_carried h), ← ht.table_eq]
    exact ⟨true, rfl⟩
  · obtain ⟨e, isConnected, hsession⟩ := session_of_not_offers hnot hcalls .onConflict ending
    rw [hsession]
    exact ⟨isConnected, rfl⟩

/-! ### All or nothing -/

/-- A session that adds in one statement is answered if the database can carry its calls out, each call from the rows
that the calls up to it leave, which show what these have added and not removed again, and at a clean end the rows after
the last call are committed.  If the session fails, the calls before one that is refused have been answered so; and if
it fails, or is aborted after its calls, the rows and their numbers are those from before, and later sessions go as if it
had never been. -/
theorem session_atomic (db : Database) (ending : Ending) (calls : List Call) :
    ((∃ replies, (db.session .onConflict ending calls).2 = .ok replies) ↔
        calls = [] ∨ db.CanCarry .onConflict calls) ∧
      (∀ replies, (db.session .onConflict ending calls).2 = .ok replies →
        db.rows.Answers calls replies ∧
          (ending = .clean → (db.session .onConflict ending calls).1.rows = calls.foldl Table.after db.rows)) ∧
      (∀ f, (db.session .onConflict ending calls).2 = .error f →
        ∃ before c after, calls = before ++ c :: after ∧ db.rows.Answers before f.replies) ∧
      (∀ before kind d, d ∈ Table.list (before.foldl Table.after db.rows) kind ↔ db.rows.Shows before kind d) ∧
      (ending = .abort ∨ (∃ f, (db.session .onConflict ending calls).2 = .error f) →
        (db.session .onConflict ending calls).1.table = db.table ∧
          ∀ later, ((db.session .onConflict ending calls).1.sessions later).2 = (db.sessions later).2 ∧
            ((db.session .onConflict ending calls).1.sessions later).1.table = (db.sessions later).1.table) := by
  refine ⟨session_eq_ok_iff db .onConflict ending calls, fun replies h => session_of_ok h,
    fun f h => session_of_error h, ?_, ?_⟩
  · intro before kind d
    exact Table.mem_list_foldl_after
  · intro h
    have halike := alike_of_undone h
    refine ⟨halike.table_eq, fun later => ?_⟩
    obtain ⟨hresults, hend⟩ := sessions_alike halike later
    exact ⟨hresults, hend.table_eq⟩

/-- A session that adds `b` and removes `a` leaves the row of `b` if it ends cleanly, and that of `a` if it is
aborted. -/
theorem session_atomic_swap :
    let db : Database := { table := some [⟨1, "a", .allowed⟩] }
    let calls : List Call := [.add .allowed ["b"], .remove .allowed ["a"], .list .allowed]
    (∃ replies, (db.session .onConflict .clean calls).2 = .ok replies ∧ db.rows.Answers calls replies) ∧
      (db.session .onConflict .clean calls).1.rows = [⟨2, "b", .allowed⟩] ∧
      (db.session .onConflict .abort calls).1.table = some [⟨1, "a", .allowed⟩] := by
  intro db calls
  obtain ⟨hanswered, hok, -, -, -⟩ := session_atomic db .clean calls
  have hcarry : db.CanCarry .onConflict calls := ⟨⟨_, fun _ => nofun, rfl, rfl⟩, by decide +kernel⟩
  obtain ⟨replies, hreplies⟩ := hanswered.2 (Or.inr hcarry)
  obtain ⟨hanswers, hrows⟩ := hok replies hreplies
  refine ⟨⟨replies, hreplies, hanswers⟩, ?_, ((session_atomic db .abort calls).2.2.2.2 (Or.inl rfl)).1⟩
  rw [hrows rfl]
  decide +kernel

/-- What a session has written before a call that is refused is undone. -/
example :
    let db : Database := { table := some [] }
    let refused : Text := [.surrogate 0]
    db.session .onConflict .clean [.add .allowed ["b"], .add .allowed [refused]] =
      ({ db with isConnected := true }, .error ⟨[.domains ["b"]], .unencodable⟩) := by
  decide +kernel

end Database

end DomainPolicy
