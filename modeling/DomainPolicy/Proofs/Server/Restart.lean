import DomainPolicy.Proofs.Server.Posts
import DomainPolicy.Proofs.Store.Reopening

/-!
# Restarts keep the policy

Lives follow each other on one file.  A life that gets to serve is attached to the file, and then begins with its rows
and leaves its own in it, or it is detached and changes nothing (`servesOn_of_serving`); a life that does not get to
serve changes no table either (`tableAt_of_unserved`).  So what a life begins with is what the one before it has left,
and the views of any life show what one app would show that had gone through all the posts so far without an end
(`policy_of_lives`).
-/

namespace DomainPolicy

/-- Whether the database that settings name, if they name one, is in the file at a path or cannot be reached. -/
def Settings.IsOn (p : Path) (settings : Settings) : Prop :=
  ∀ location, Location.ofUrl settings.databaseUrl = .ok location →
    (∃ opening, location = .file p opening) ∨ ∃ obstacle, location = .nowhere obstacle

namespace Server

open Http (Request Response)

variable {digest : Bcrypt.Digest} {disk disk' : Disk} {p : Path} {settings : Settings} {a b : App} {life : Life}

/-! ### What a run does to its database -/

theorem backs_of_moves {db db' : Database} (h : disk.Backs p db) (hmoves : db.Moves db') : disk.Backs p db' := by
  cases hmoves with
  | stay => exact h
  | connect hconnect => exact (h.connect hconnect).1
  | session call => exact h.session .onConflict .clean [call]

theorem location_of_moves {db db' : Database} {location : Location} (h : db.location = location)
    (hmoves : db.Moves db') : db'.location = location := by
  cases hmoves with
  | stay => exact h
  | connect hconnect =>
    obtain ⟨-, rfl⟩ := Database.reachable_of_connect hconnect
    exact h
  | session call =>
    rcases db.offers_or_not with ⟨t, ht⟩ | hnot
    · rw [Database.session_of_offers ht (List.cons_ne_nil _ _)]
      exact h
    · obtain ⟨e, isConnected, hsession⟩ :=
        Database.session_of_not_offers hnot (List.cons_ne_nil call []) .onConflict .clean
      rw [hsession]
      exact h

theorem backs_run (h : disk.Backs p a.db) (digest : Bcrypt.Digest) (steps : List Step) :
    disk.Backs p (a.run digest steps).1.db := run_of_moves backs_of_moves h digest steps

/-! ### How a life begins -/

/-- Whether the database of an app is the file at a path. -/
def App.IsOpenAt (p : Path) (a : App) : Prop := ∃ opening, a.db.location = .file p opening

theorem begun_of_create {salt : String} {pages : Pages} {records : List Record}
    (h : App.create digest salt pages settings = (.ok a, records)) : a.settings = settings ∧ a.db = {} := by
  have hcreation := App.creation_create digest salt pages settings
  rw [h] at hcreation
  cases hcreation with
  | disabled => exact ⟨rfl, rfl⟩
  | hashed => exact ⟨rfl, rfl⟩

/-- The database with which a life is started: the file at a path, with its table, which is made if it is absent outside
`prod`; or one that cannot be reached. -/
inductive StartedWith (disk : Disk) (p : Path) (env : Environment) : Database → Prop
  | file {db : Database} (hbacks : disk.Backs p db)
      (htable : db.table = if env = .prod then disk.tableAt p else some (disk.rowsAt p)) : StartedWith disk p env db
  | nowhere {db : Database} {obstacle : Obstacle} (hlocation : db.location = .nowhere obstacle)
      (htable : db.table = none) : StartedWith disk p env db

/-- Opening the database gives one to start with and leaves the disk as it was, or fails and changes no table. -/
theorem openDatabase_cases (hon : a.settings.IsOn p) (disk : Disk) :
    (∃ db, a.openDatabase disk = (disk, .ok db) ∧ StartedWith disk p a.settings.env db) ∨
      ∃ disk' e, a.openDatabase disk = (disk', .error e) ∧ ∀ q, disk'.tableAt q = disk.tableAt q := by
  unfold App.openDatabase
  cases hlocation : Location.ofUrl a.settings.databaseUrl with
  | error e => exact Or.inr ⟨disk, _, rfl, fun _ => rfl⟩
  | ok location =>
    have hopened := Disk.opened_openAt (hon location hlocation) disk
    dsimp only
    by_cases hprod : a.settings.env = .prod
    · -- nothing is initialised, so a database that cannot be reached is started with all the same
      rw [if_pos hprod]
      refine Or.inl ⟨_, rfl, ?_⟩
      rcases hopened.backs_or with ⟨hbacks, htable⟩ | ⟨⟨obstacle, hnowhere⟩, htable⟩
      · exact .file hbacks (by rw [if_pos hprod, htable])
      · exact .nowhere hnowhere htable
    · rw [if_neg hprod]
      cases hinit : (disk.openAt location).init with
      | ok db =>
        obtain ⟨hbacks, htable⟩ := hopened.backs_of_init hinit
        exact Or.inl ⟨db, rfl, .file hbacks (by rw [if_neg hprod, htable])⟩
      | error e => exact Or.inr ⟨_, _, rfl, hopened.tableAt_save⟩

/-- An app that is started has such a database. -/
theorem startedWith_of_start {records : List Record} (hon : a.settings.IsOn p)
    (h : a.start disk = ((disk', .ok b), records)) : disk' = disk ∧ StartedWith disk p a.settings.env b.db := by
  unfold App.start at h
  rcases openDatabase_cases hon disk with ⟨db, hopen, hdb⟩ | ⟨left, e, hopen, -⟩
  · rw [hopen] at h
    cases h
    exact ⟨rfl, hdb⟩
  · rw [hopen] at h
    cases h

theorem tableAt_of_start_error {e : StartError} {records : List Record} (hon : a.settings.IsOn p)
    (h : a.start disk = ((disk', .error e), records)) (q : Path) : disk'.tableAt q = disk.tableAt q := by
  unfold App.start at h
  rcases openDatabase_cases hon disk with ⟨db, hopen, -⟩ | ⟨left, e, hopen, htables⟩
  · rw [hopen] at h
    cases h
  · rw [hopen] at h
    cases h
    exact htables q

/-! ### Lives -/

namespace Life

/-- Whether the database of a life, if it gets as far as to look for one, is in the file at a path or cannot be
reached. -/
def IsOn (p : Path) (life : Life) : Prop := ∀ settings, life.settings = .ok settings → settings.IsOn p

/-- The posts that are answered `200` in a life. -/
def posts (digest : Bcrypt.Digest) (disk : Disk) (life : Life) : List Post :=
  ((life.serving? digest disk).map fun a => a.posts digest life.steps).getD []

/-- The posts that are answered `200` in lives one after the other. -/
def postsOf (digest : Bcrypt.Digest) (disk : Disk) : List Life → List Post
  | [] => []
  | life :: lives => life.posts digest disk ++ postsOf digest (life.run digest disk).1 lives

/-- What a life serves with: the file at a path, in which it leaves its table, or nothing that would last. -/
inductive ServesOn (digest : Bcrypt.Digest) (disk : Disk) (p : Path) (life : Life) (a : App) : Prop
  | attached {settings : Settings} (hsettings : life.settings = .ok settings) (hbacks : disk.Backs p a.db)
      (htable : a.db.table = if settings.env = .prod then disk.tableAt p else some (disk.rowsAt p))
      (hleft : (life.run digest disk).1 = disk.save (a.run digest life.steps).1.db)
  | detached (hlocation : ∀ opening, a.db.location ≠ .file p opening) (htable : a.db.table = none)
      (hleft : (life.run digest disk).1 = disk)

theorem servesOn_of_serving (hon : life.IsOn p) (h : life.serving? digest disk = some a) :
    life.ServesOn digest disk p a := by
  have hfate := fate_run digest disk life
  rw [h] at hfate
  generalize hrun : life.run digest disk = result at hfate
  cases hfate with
  | @started settings created _ disk' _ _ hsettings hcreate hstart =>
    obtain ⟨hcreated, -⟩ := begun_of_create hcreate
    obtain ⟨rfl, hdb⟩ := startedWith_of_start (hcreated ▸ hon settings hsettings) hstart
    have hleft := congrArg Prod.fst hrun
    rw [hcreated] at hdb
    cases hdb with
    | file hbacks htable => exact .attached hsettings hbacks htable hleft
    | @nowhere obstacle hlocation htable =>
      refine .detached (fun opening hfile => ?_) htable ?_
      · cases hlocation.symm.trans hfile
      · rw [hleft]
        exact Disk.save_of_nowhere (run_of_moves location_of_moves hlocation digest life.steps)
  | unstarted hsettings hcreate =>
    -- without a start there is the database in memory that every app is created with
    obtain ⟨-, hdb⟩ := begun_of_create hcreate
    refine .detached (fun opening => ?_) ?_ (congrArg Prod.fst hrun)
    · rw [hdb]
      exact nofun
    · rw [hdb]

/-- A life that does not get to serve changes no table. -/
theorem tableAt_of_unserved (hon : life.IsOn p) (h : life.serving? digest disk = none) (q : Path) :
    (life.run digest disk).1.tableAt q = disk.tableAt q := by
  have hfate := fate_run digest disk life
  rw [h] at hfate
  generalize life.run digest disk = result at hfate
  cases hfate with
  | badSettings => rfl
  | notCreated => rfl
  | notStarted hsettings hcreate hstart =>
    have hcreated := (begun_of_create hcreate).1
    exact tableAt_of_start_error (hcreated ▸ hon _ hsettings) hstart q

namespace ServesOn

/-- What a life that is attached begins with are the rows of the file. -/
theorem rows_of_attached {table : Option Table} {env : Environment}
    (h : table = if env = .prod then disk.tableAt p else some (disk.rowsAt p)) : table.getD [] = disk.rowsAt p := by
  rw [h]
  split
  · exact (Disk.rowsAt_eq disk p).symm
  · rfl

theorem tableAt_of_ne (h : life.ServesOn digest disk p a) {q : Path} (hq : q ≠ p) :
    (life.run digest disk).1.tableAt q = disk.tableAt q := by
  cases h with
  | attached _ hbacks _ hleft =>
    obtain ⟨opening, hlocation⟩ := (backs_run hbacks digest life.steps).location
    rw [hleft]
    exact Disk.tableAt_save_of_ne hlocation hq.symm
  | detached _ _ hleft => rw [hleft]

end ServesOn

variable {u : App}

/-- An app that carries the rows of the file and goes through the posts of a life alone carries the rows that the life
leaves in the file. -/
theorem carries_life (hon : life.IsOn p) (hu : u.Carries (disk.rowsAt p)) (digest : Bcrypt.Digest) :
    (u.replay digest (life.posts digest disk)).Carries ((life.run digest disk).1.rowsAt p) ∧
      u.posts digest ((life.posts digest disk).flatMap Post.steps) = life.posts digest disk := by
  cases hserving : life.serving? digest disk with
  | none =>
    have hposts : life.posts digest disk = [] := by rw [posts, hserving]; rfl
    rw [hposts, Disk.rowsAt_eq, tableAt_of_unserved hon hserving, ← Disk.rowsAt_eq]
    exact ⟨hu, rfl⟩
  | some a =>
    have hposts : life.posts digest disk = a.posts digest life.steps := by rw [posts, hserving]; rfl
    rw [hposts]
    cases servesOn_of_serving hon hserving with
    | attached _ hbacks htable hleft =>
      have hrows : a.db.rows = disk.rowsAt p := ServesOn.rows_of_attached htable
      have hend : (life.run digest disk).1.rowsAt p = (a.run digest life.steps).1.db.rows := by
        rw [hleft, Disk.rowsAt_eq, (backs_run hbacks digest life.steps).tableAt_save]
        rfl
      rw [hend]
      exact carries_run (hrows ▸ hu) digest life.steps
    | detached _ htable hleft =>
      rw [(posts_of_table_none htable digest life.steps).1, hleft]
      exact ⟨hu, rfl⟩

/-- So it is for lives one after the other. -/
theorem carries_lives {lives : List Life} (hon : ∀ life ∈ lives, life.IsOn p) (hu : u.Carries (disk.rowsAt p))
    (digest : Bcrypt.Digest) :
    (u.replay digest (postsOf digest disk lives)).Carries ((runAll digest disk lives).1.rowsAt p) ∧
      u.posts digest ((postsOf digest disk lives).flatMap Post.steps) = postsOf digest disk lives := by
  induction lives generalizing disk u with
  | nil => exact ⟨hu, rfl⟩
  | cons life lives ih =>
    obtain ⟨hlife, hlives⟩ := List.forall_mem_cons.1 hon
    -- what the first life leaves in the file is what the others begin with
    obtain ⟨hcarries, hposts⟩ := carries_life hlife hu digest
    obtain ⟨hall, hlater⟩ := ih hlives hcarries
    rw [postsOf, App.replay_append, List.flatMap_append, App.posts_append, hposts]
    exact ⟨hall, congrArg _ hlater⟩

/-- What a life does to the file at a path, and what its views show, when `rowsAfter` gives the rows after posts. -/
structure KeepsPolicy (digest : Bcrypt.Digest) (p : Path) (disk : Disk) (rowsAfter : List Post → Table) (life : Life) :
    Prop where
  /-- A life that does not get to serve changes no table. -/
  unserved : life.serving? digest disk = none → ∀ q, (life.run digest disk).1.tableAt q = disk.tableAt q
  /-- No life changes another file. -/
  elsewhere : ∀ q, q ≠ p → (life.run digest disk).1.tableAt q = disk.tableAt q
  /-- A life that serves with the file begins with its table, which is made outside `prod` if it is absent. -/
  begun : ∀ settings a, life.settings = .ok settings → life.serving? digest disk = some a → a.IsOpenAt p →
    a.db.table = if settings.env = .prod then disk.tableAt p else some (disk.rowsAt p)
  /-- It leaves its table in the file, however it is stopped. -/
  ended : ∀ a, life.serving? digest disk = some a → a.IsOpenAt p →
    (life.run digest disk).1.tableAt p = (a.run digest life.steps).1.db.table
  /-- A life that serves with anything else has no post answered `200` and leaves the file alone. -/
  detached : ∀ a, life.serving? digest disk = some a → ¬a.IsOpenAt p →
    life.posts digest disk = [] ∧ (life.run digest disk).1.tableAt p = disk.tableAt p
  /-- At any time a connection changes no table, and neither does closing the connections. -/
  idle : ∀ a before after, life.serving? digest disk = some a → life.steps = before ++ after →
    (∀ db, (a.run digest before).1.db.ping = .ok db → db.table = (a.run digest before).1.db.table) ∧
      (a.run digest before).1.db.dispose.table = (a.run digest before).1.db.table
  /-- A view that is answered `200` lists the rows after all posts so far. -/
  viewed : ∀ a before s after q kind, life.serving? digest disk = some a → life.steps = before ++ s :: after →
    s.sent? = some q → Route.find q.request.method q.request.path = .action (.view kind) →
    ((a.run digest before).1.answer digest q).2.response.status = 200 →
    ((a.run digest before).1.answer digest q).2.response =
      (domainsAnswer ((rowsAfter (a.posts digest before)).list kind)).withHeader idHeader (requestId q.fresh q.request)

theorem rows_of_carries {t : Table} (h : u.Carries t) : u.db.rows = t := Database.rows_eq_of_some h.offers.table_eq

/-- A life keeps the policy that an app carries, in the file as well as in its views. -/
theorem keepsPolicy (hon : life.IsOn p) (hu : u.Carries (disk.rowsAt p)) (digest : Bcrypt.Digest) :
    life.KeepsPolicy digest p disk fun posts => (u.replay digest posts).db.rows where
  unserved := tableAt_of_unserved hon
  elsewhere q hq := by
    cases hserving : life.serving? digest disk with
    | none => exact tableAt_of_unserved hon hserving q
    | some a => exact (servesOn_of_serving hon hserving).tableAt_of_ne hq
  begun settings a hsettings hserving hopen := by
    cases servesOn_of_serving hon hserving with
    | attached hsettings' _ htable =>
      cases hsettings.symm.trans hsettings'
      exact htable
    | detached hlocation => exact absurd hopen.choose_spec (hlocation _)
  ended a hserving hopen := by
    cases servesOn_of_serving hon hserving with
    | attached _ hbacks _ hleft =>
      rw [hleft]
      exact (backs_run hbacks digest life.steps).tableAt_save
    | detached hlocation => exact absurd hopen.choose_spec (hlocation _)
  detached a hserving hopen := by
    cases servesOn_of_serving hon hserving with
    | attached _ hbacks => exact absurd hbacks.location hopen
    | detached _ htable hleft =>
      refine ⟨?_, by rw [hleft]⟩
      rw [posts, hserving]
      exact (posts_of_table_none htable digest life.steps).1
  idle a before after hserving hsteps := by
    refine ⟨fun db hping => Database.table_connect hping, ?_⟩
    cases servesOn_of_serving hon hserving with
    | attached _ hbacks =>
      obtain ⟨opening, hlocation⟩ := (backs_run hbacks digest before).location
      unfold Database.dispose
      rw [hlocation]
    | detached _ htable =>
      -- without a table there is none to be lost
      have hnone := (posts_of_table_none htable digest before).2
      rcases Database.table_dispose (a.run digest before).1.db with hdispose | hdispose
      · rw [hdispose, hnone]
      · exact hdispose
  viewed a before s after q kind hserving hsteps hsent hfind hstatus := by
    have hcarried := carried_of_view hfind hstatus
    obtain ⟨t, ht⟩ := hcarried.carry.offers
    -- only a life that is attached to the file has a table to list
    have hrows : (u.replay digest (a.posts digest before)).db.rows = t := by
      cases servesOn_of_serving hon hserving with
      | attached _ _ htable =>
        have hbegun : a.db.rows = disk.rowsAt p := ServesOn.rows_of_attached htable
        rw [rows_of_carries (carries_run (hbegun ▸ hu) digest before).1, Database.rows_eq_of_some ht.table_eq]
      | detached _ htable => cases ht.table_eq.symm.trans (posts_of_table_none htable digest before).2
    rw [App.answer, response_serve (respond_of_carried hcarried ht.table_eq).1, hrows]
    rfl

/-- However many lives follow each other on one file, the rows that they leave in it are those that one app has in
memory that goes through their posts alone and answers each of them with `200`; the next life keeps them, and its views
list what that app would list after the posts of this life so far. -/
theorem policy_of_lives {before : List Life} (hon : ∀ l ∈ before ++ [life], l.IsOn p) (digest : Bcrypt.Digest)
    (disk : Disk) :
    let one := App.holding (disk.rowsAt p)
    let posts := postsOf digest disk before
    let left := (runAll digest disk before).1
    left.rowsAt p = (one.replay digest posts).db.rows ∧
      one.posts digest (posts.flatMap Post.steps) = posts ∧
      life.KeepsPolicy digest p left fun later => (one.replay digest (posts ++ later)).db.rows := by
  intro one posts left
  obtain ⟨hbefore, hlife⟩ := List.forall_mem_append.1 hon
  obtain ⟨hcarries, hposts⟩ := carries_lives hbefore (carries_holding (disk.rowsAt p)) digest
  refine ⟨(rows_of_carries hcarries).symm, hposts, ?_⟩
  have hkeeps := keepsPolicy (hlife life (List.mem_singleton_self life)) hcarries digest
  simp only [← App.replay_append] at hkeeps
  exact hkeeps

/-- Settings for the file `rules.db`. -/
def rulesSettings (env : Environment) (secret : String) : Settings :=
  { env, apiToken := some (.ofString secret), bcryptRounds := 4, databaseUrl := "sqlite+aiosqlite:///rules.db" }

/-- A life of these settings in which one request arrives. -/
def rulesLife (env : Environment) (secret : String) (r : Request) : Life :=
  { settings := .ok (rulesSettings env secret), salt := "abcdefghijklmnopqrstuu", steps := [.request "1" r] }

/-- The app with which such a life serves on a database. -/
def rulesApp (env : Environment) (secret : String) (c : Credential) (db : Database) : App :=
  { settings := rulesSettings env secret, registry := ⟨.holds c, .holds (), .holds .ready⟩
    journal := App.journalOf (rulesSettings env secret) 20, db }

theorem ofUrl_rulesSettings (env : Environment) (secret : String) :
    Location.ofUrl (rulesSettings env secret).databaseUrl = .ok (.file (.ofString "rules.db")) := by
  show Location.ofUrl "sqlite+aiosqlite:///rules.db" = _
  decide +kernel

theorem isOn_rulesLife (env : Environment) (secret : String) (r : Request) :
    (rulesLife env secret r).IsOn (.ofString "rules.db") := by
  intro settings hsettings location hlocation
  cases hsettings
  cases (ofUrl_rulesSettings env secret).symm.trans hlocation
  exact Or.inl ⟨_, rfl⟩

theorem serving?_rulesLife {env : Environment} {secret : String} {c : Credential} {db : Database} (r : Request)
    (hc : Credential.build digest secret 4 "abcdefghijklmnopqrstuu" = .ok c)
    (hopen : (rulesApp env secret c {}).openDatabase disk = (disk, .ok db)) :
    (rulesLife env secret r).serving? digest disk = some (rulesApp env secret c db) := by
  let created : App :=
    { settings := rulesSettings env secret, registry := { credential := .holds c }
      journal := App.journalOf (rulesSettings env secret) 20 }
  have hlevel : Journal.levelRank "INFO" = .ok 20 := by decide
  have hcreate : App.create digest (rulesLife env secret r).salt {} (rulesSettings env secret) = (.ok created, []) :=
    App.create_of_build hlevel rfl hc
  have hopen' : created.openDatabase disk = (disk, .ok db) := by
    rw [App.openDatabase_congr (a := created) (b := rulesApp env secret c {}) rfl, hopen]
  exact serving?_of_start rfl hcreate rfl (App.start_of_openDatabase hopen')

/-- A request to allow the domain `a`. -/
def allowing : Request := presenting "s3cr3t" "POST" "/api/v1/admin/allow" "\x7b\"domains\": [\"a\"]\x7d"

/-- A life in which it arrives leaves one row in a file that is new. -/
theorem tableAt_allowing :
    ((rulesLife .test "s3cr3t" allowing).run Bcrypt.digest {}).1.tableAt (.ofString "rules.db") =
      some [⟨1, "a", .allowed⟩] := by
  have hsize : Utf8.size "s3cr3t" ≤ maxSecretBytes := by decide
  obtain ⟨c, hc⟩ := Credential.exists_build Bcrypt.digest hsize
  let a := rulesApp .test "s3cr3t" c
    { location := .file (.ofString "rules.db"), table := some [], isConnected := true }
  have hserving : (rulesLife .test "s3cr3t" allowing).serving? Bcrypt.digest {} = some a :=
    serving?_rulesLife allowing hc (App.openDatabase_of_init (ofUrl_rulesSettings _ _) Environment.noConfusion rfl)
  have hasked : (Command.edit .add .allowed ["a"]).AskedBy allowing :=
    ⟨rfl, Command.submits_of_read rfl rfl (by decide)⟩
  have hcarries : a.Carries [] := ⟨⟨fun _ => nofun, rfl, rfl⟩, rfl⟩
  have hcarried : (Command.edit .add .allowed ["a"]).Carried Bcrypt.digest a allowing :=
    ⟨hasked, granted_of_secret hc rfl {}, hcarries.canCarry hasked⟩
  have hkeeps := keepsPolicy (isOn_rulesLife .test "s3cr3t" allowing)
    (carries_holding (Disk.rowsAt {} (.ofString "rules.db"))) Bcrypt.digest
  have hadded : Table.after [] (Command.edit .add .allowed ["a"]).call = [⟨1, "a", .allowed⟩] := by decide +kernel
  refine (hkeeps.ended a hserving ⟨_, rfl⟩).trans ?_
  show (respond Bcrypt.digest a allowing).db.table = _
  rw [(respond_of_carried hcarried rfl).2]
  exact congrArg some hadded

/-- A life lists what another one was asked to allow, though a third one without settings came between them and the
secret is another. -/
theorem policy_of_lives_allow :
    let viewing := presenting "t0k3n" "GET" "/api/v1/admin/allowed" ""
    let failing : Life := { settings := .error (.complaints []), salt := "", steps := [] }
    let left := (runAll Bcrypt.digest {} [rulesLife .test "s3cr3t" allowing, failing]).1
    ∃ a, (rulesLife .prod "t0k3n" viewing).serving? Bcrypt.digest left = some a ∧
      (a.answer Bcrypt.digest ⟨"1", viewing⟩).2.response = (domainsAnswer ["a"]).withHeader idHeader "1" := by
  intro viewing failing left
  have hsize : Utf8.size "t0k3n" ≤ maxSecretBytes := by decide
  obtain ⟨c, hc⟩ := Credential.exists_build Bcrypt.digest hsize
  have hleft : left.tableAt (.ofString "rules.db") = some [⟨1, "a", .allowed⟩] := tableAt_allowing
  obtain ⟨isWritable, hopened⟩ := Disk.openFile_of_tableAt hleft {} rfl
  let a := rulesApp .prod "t0k3n" c
    { location := .file (.ofString "rules.db"), isWritable, table := some [⟨1, "a", .allowed⟩] }
  have hserving : (rulesLife .prod "t0k3n" viewing).serving? Bcrypt.digest left = some a := by
    have hopen : (rulesApp .prod "t0k3n" c {}).openDatabase left = (left, .ok (left.openAt _)) :=
      App.openDatabase_of_prod (a := rulesApp .prod "t0k3n" c {}) (ofUrl_rulesSettings _ _) rfl left
    exact serving?_rulesLife viewing hc (hopen.trans (congrArg (fun db => (left, Except.ok db)) hopened))
  have hcarried : (Command.view .allowed).Carried Bcrypt.digest a viewing :=
    ⟨⟨rfl, trivial⟩, granted_of_secret hc rfl {},
      ⟨_, fun _ => nofun, rfl, rfl⟩, Call.accepted_cons.2 ⟨rfl, Call.accepted_nil⟩⟩
  have hstatus : (a.answer Bcrypt.digest ⟨"1", viewing⟩).2.response.status = 200 := by
    rw [App.answer, response_serve (respond_of_carried hcarried rfl).1]
    rfl
  have hon : ∀ l ∈ [rulesLife .test "s3cr3t" allowing, failing] ++ [rulesLife .prod "t0k3n" viewing],
      l.IsOn (.ofString "rules.db") := by
    intro l hl
    simp only [List.cons_append, List.nil_append, List.mem_cons, List.not_mem_nil, or_false] at hl
    rcases hl with rfl | rfl | rfl
    · exact isOn_rulesLife _ _ _
    · intro settings hsettings
      cases hsettings
    · exact isOn_rulesLife _ _ _
  obtain ⟨hrows, -, hkeeps⟩ := policy_of_lives hon Bcrypt.digest {}
  have hresponse := hkeeps.viewed a [] _ [] ⟨"1", viewing⟩ .allowed hserving rfl rfl rfl hstatus
  refine ⟨a, hserving, hresponse.trans ?_⟩
  have hlisted : Table.list (left.rowsAt (.ofString "rules.db")) .allowed = ["a"] := by
    rw [Disk.rowsAt_eq, hleft]
    decide +kernel
  rw [App.posts, List.append_nil, ← hrows, hlisted]
  rfl

end Life

end Server

end DomainPolicy
