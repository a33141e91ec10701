import InviteSystem.Passages
import InviteSystem.SignIns

/-!
Where the accounts of the application come from: in every interleaved run, an
account that the application made goes back, step by step, to an invite that a
signed-in administrator generated.
-/
namespace InviteSystem.AccountProvenance
open InviteSystem.Runs InviteSystem.Text InviteSystem.Chrono InviteSystem.Libraries InviteSystem.Tokens
open InviteSystem.Transactions InviteSystem.Authentication InviteSystem.AdminRoutes InviteSystem.InviteRoutes
open InviteSystem.InviteStorage (Database InviteRecord Changed atomic_cases marked_from)
open InviteSystem.Programs InviteSystem.Traces InviteSystem.Accounts InviteSystem.SubmitInvite InviteSystem.Effects
open InviteSystem.Passages InviteSystem.Application InviteSystem.SignIns
open InviteSystem.Sessions (Issued LastIssued)
open InviteSystem.AdminTraces (Privileged Entitled)
open InviteSystem.DirectoryServer (servedWorld)

/-- The columns of a row that nothing changes. -/
def Same (row row' : InviteRecord) : Prop :=
  row'.id = row.id ∧ row'.token_hash = row.token_hash ∧ row'.groups_json = row.groups_json ∧
    row'.created_at = row.created_at ∧ row'.expires_at = row.expires_at

/-- The call that creates the row. -/
def Creates (row : InviteRecord) (call : InviteStorage.Call) : Prop := ∃ created_by,
  call = .create_invite row.id row.token_hash row.groups_json row.created_at row.expires_at created_by

/-- Every row after a call was there before, or the call created it. -/
theorem changed_from {db after : Database} {call : InviteStorage.Call} {reply : InviteStorage.Reply}
    (changed : Changed db call reply after) {row' : InviteRecord} (stored' : row' ∈ after.invites) :
    (∃ row ∈ db.invites, Same row row') ∨ Creates row' call := by
  cases changed with
  | created _ _ rows _ =>
    rw [rows] at stored'
    rcases List.mem_append.mp stored' with old | new
    · exact .inl ⟨row', old, rfl, rfl, rfl, rfl, rfl⟩
    · rw [List.mem_singleton] at new
      subst new
      exact .inr ⟨_, rfl⟩
  | consumed stored _ rows _ =>
    rw [rows] at stored'
    rcases marked_from stored stored' with rfl | ⟨old, _⟩
    · exact .inl ⟨_, stored, rfl, rfl, rfl, rfl, rfl⟩
    · exact .inl ⟨row', old, rfl, rfl, rfl, rfl, rfl⟩
  | revoked stored _ rows _ =>
    rw [rows] at stored'
    rcases marked_from stored stored' with rfl | ⟨old, _⟩
    · exact .inl ⟨_, stored, rfl, rfl, rfl, rfl, rfl⟩
    · exact .inl ⟨row', old, rfl, rfl, rfl, rfl, rfl⟩
  | cleaned rows _ =>
    rw [rows] at stored'
    exact .inl ⟨row', (List.mem_filter.mp stored').1, rfl, rfl, rfl, rfl, rfl⟩

theorem atomic_from {db after : Database} {call : InviteStorage.Call} {result : Option InviteStorage.Reply}
    (step : Atomic InviteStorage.Call.code db (call, result) after) {row' : InviteRecord} (stored' : row' ∈ after.invites) :
    (∃ row ∈ db.invites, Same row row') ∨ Creates row' call := by
  rcases atomic_cases step with ⟨rfl, _⟩ | ⟨reply, changed, _⟩
  · exact .inl ⟨row', stored', rfl, rfl, rfl, rfl, rfl⟩
  · exact changed_from changed stored'

section
variable {ι : Type} [DecidableEq ι] {crates : Crates} {config : AppConfig} {arrivals : ι → Arrival}

/-! ### Rows and accounts are made by calls -/

/-- A call that changes the store is a repository call. -/
theorem perform_store {w w' : World ι} {i : ι} {c : Call} {reply : Reply c} (performed : Perform crates i w c reply w') :
    w'.store = w.store ∨ ∃ call result, Atomic InviteStorage.Call.code w.store (call, result) w'.store ∧
      ((∃ reply', (⟨c, reply⟩ : (c : Call) × Reply c) = ⟨.admin (.repository call), reply'⟩) ∨
        ∃ token_hash consumed_at consumed_by, call = .consume_invite token_hash consumed_at consumed_by) := by
  cases c with
  | redemption c =>
    obtain ⟨after, performed, rfl⟩ := performed
    rcases RedemptionSystem.perform_store performed with ⟨same, _⟩ | ⟨token_hash, consumed_at, consumed_by, result, _, step, _⟩
    · exact .inl same
    · exact .inr ⟨_, result, step, .inr ⟨token_hash, consumed_at, consumed_by, rfl⟩⟩
  | admin c =>
    cases c with
    | repository call =>
      obtain ⟨store, rfl, step⟩ := performed
      exact .inr ⟨call, reply, step, .inl ⟨reply, rfl⟩⟩
    | spawn_verification stored_hash password =>
      rcases performed with ⟨_, _, rfl⟩ | ⟨_, _, rfl⟩ <;> exact .inl rfl
    | join_verification =>
      obtain ⟨_, rfl⟩ := performed
      exact .inl rfl
    | list_recent limit =>
      obtain ⟨rfl, _⟩ := performed
      exact .inl rfl
    | reserve_attempt now =>
      obtain ⟨_, rfl⟩ := performed
      exact .inl rfl
    | issue_session drawn now =>
      obtain ⟨_, rfl⟩ := performed
      exact .inl rfl
    | csrf_token_at token now =>
      obtain ⟨_, rfl⟩ := performed
      exact .inl rfl
    | _ =>
      cases performed
      exact .inl rfl

theorem perform_directory {w w' : World ι} {i : ι} {c : AdminPrograms.Call} {reply : AdminPrograms.Reply c}
    (performed : PerformAdmin crates i w c reply w') : w'.directory = w.directory := by
  cases c with
  | repository call =>
    obtain ⟨store, rfl, _⟩ := performed
    rfl
  | spawn_verification stored_hash password =>
    rcases performed with ⟨_, _, rfl⟩ | ⟨_, _, rfl⟩ <;> rfl
  | join_verification =>
    obtain ⟨_, rfl⟩ := performed
    rfl
  | list_recent limit =>
    obtain ⟨rfl, _⟩ := performed
    rfl
  | reserve_attempt now =>
    obtain ⟨_, rfl⟩ := performed
    rfl
  | issue_session drawn now =>
    obtain ⟨_, rfl⟩ := performed
    rfl
  | csrf_token_at token now =>
    obtain ⟨_, rfl⟩ := performed
    rfl
  | _ =>
    cases performed
    rfl

/-- A step that creates the row. -/
def Stores (row : InviteRecord) (l : Label ι Call Reply) : Prop :=
  ∃ j call reply, l = .call j (.admin (.repository call)) reply ∧ Creates row call

omit [DecidableEq ι] in
theorem Same.stores {row row' : InviteRecord} (same : Same row row') {l : Label ι Call Reply} (stores : Stores row l) :
    Stores row' l := by
  obtain ⟨id, token_hash, groups_json, created_at, expires_at⟩ := same
  obtain ⟨j, call, reply, rfl, created_by, rfl⟩ := stores
  exact ⟨j, _, reply, rfl, created_by, by rw [id, token_hash, groups_json, created_at, expires_at]⟩

/-- Every row was created by a step of the run, and so was every account that
    is not an outside one. -/
structure Made (labels : List (Label ι Call Reply)) (w : World ι) : Prop where
  rows : ∀ row ∈ w.store.invites, ∃ l ∈ labels, Stores row l
  accounts : ∀ id account i flag, w.directory.account id = some account → account.origin = .request i flag →
    ∃ c reply, .call i (.redemption c) reply ∈ labels ∧ ∃ reported, creates c reply = some (id, reported)

/-- An invite that a redemption finds, by its hash, is a row that some step created. -/
def Found (before : List (Label ι Call Reply)) : (c : Call) → Reply c → Prop
  | .redemption c, reply => ∀ invite, finds c reply = some invite →
    c = .find_by_token_hash invite.token_hash ∧ ∃ l ∈ before, Stores invite l
  | _, _ => True

variable {labels : List (Label ι Call Reply)}

omit [DecidableEq ι] in
theorem Made.rows_snoc {w w' : World ι} (made : Made labels w) {call : InviteStorage.Call}
    {result : Option InviteStorage.Reply} (step : Atomic InviteStorage.Call.code w.store (call, result) w'.store)
    {l : Label ι Call Reply} (own : ∀ row, Creates row call → Stores row l) :
    ∀ row ∈ w'.store.invites, ∃ l' ∈ labels ++ [l], Stores row l' := by
  intro row' stored'
  rcases atomic_from step stored' with ⟨row, stored, same⟩ | created
  · obtain ⟨l', member, stores⟩ := made.rows row stored
    exact ⟨l', List.mem_append_left _ member, same.stores stores⟩
  · exact ⟨l, List.mem_append_right _ (List.mem_singleton_self l), own row' created⟩

omit [DecidableEq ι] in
theorem Made.rows_kept {w w' : World ι} (made : Made labels w) (same : w'.store = w.store) {l : Label ι Call Reply} :
    ∀ row ∈ w'.store.invites, ∃ l' ∈ labels ++ [l], Stores row l' := by
  intro row stored
  rw [same] at stored
  obtain ⟨l', member, stores⟩ := made.rows row stored
  exact ⟨l', List.mem_append_left _ member, stores⟩

omit [DecidableEq ι] in
theorem Made.accounts_kept {w w' : World ι} (made : Made labels w) {l : Label ι Call Reply}
    (kept : ∀ id account', w'.directory.account id = some account' → account'.origin ≠ .outside →
      ∃ account, w.directory.account id = some account ∧ account.origin = account'.origin) :
    ∀ id account i flag, w'.directory.account id = some account → account.origin = .request i flag →
      ∃ c reply, .call i (.redemption c) reply ∈ labels ++ [l] ∧ ∃ reported, creates c reply = some (id, reported) := by
  intro id account' i flag present' origin'
  obtain ⟨account, present, origin⟩ := kept id account' present' (by rw [origin']; rintro ⟨⟩)
  obtain ⟨c, reply, member, created⟩ := made.accounts id account i flag present (origin.trans origin')
  exact ⟨c, reply, List.mem_append_left _ member, created⟩

theorem made_call {w w' : World ι} {i : ι} {c : Call} {reply : Reply c} (made : Made labels w)
    (performed : Perform crates i w c reply w') :
    Made (labels ++ [.call i c reply]) w' ∧ Found labels c reply := by
  have rows : ∀ row ∈ w'.store.invites, ∃ l ∈ labels ++ [.call i c reply], Stores row l := by
    rcases perform_store performed with same | ⟨call, result, step, ⟨reply', own⟩ | ⟨_, _, _, rfl⟩⟩
    · exact made.rows_kept same
    · cases own
      exact made.rows_snoc step fun row created => ⟨i, call, _, rfl, created⟩
    · refine made.rows_snoc step ?_
      rintro row ⟨_, ⟨⟩⟩
  cases c with
  | admin c =>
    refine ⟨⟨rows, made.accounts_kept ?_⟩, trivial⟩
    intro id account' present' _
    rw [perform_directory performed] at present'
    exact ⟨account', present', rfl⟩
  | redemption c =>
    obtain ⟨after, performed, rfl⟩ := performed
    refine ⟨⟨rows, ?_⟩, ?_⟩
    · intro id account' j flag present' origin'
      rcases RedemptionSystem.perform_inserted performed present' with ⟨account, present, origin⟩ | ⟨_, reported, created, origin⟩
      · obtain ⟨c, reply, member, created⟩ := made.accounts id account j flag present (origin.trans origin')
        exact ⟨c, reply, List.mem_append_left _ member, created⟩
      · rw [origin] at origin'
        cases origin'
        exact ⟨c, reply, List.mem_append_right _ (List.mem_singleton_self _), flag, created⟩
    · intro invite found
      obtain ⟨_, stored, byHash⟩ := RedemptionSystem.perform_finds performed found
      exact ⟨byHash, made.rows invite stored⟩

variable {started : Instant} {directory : Directory ι} {store : Database} {s : System (World ι) ι Call Reply Answer}

theorem run_made (empty : store.invites = []) (strangers : ∀ id account, directory.account id = some account → account.origin = .outside)
    (run : Run (Steps crates config arrivals) (.initial (World.initialized started directory store)) labels s) :
    Made labels s.world ∧ Justified (fun before l => ∀ i c reply, l = .call i c reply → Found before c reply) labels := by
  refine run_justified Made (fun before _ c reply => Found before c reply) ?_ ?_ ?_ ?_ run
  · exact fun i labels w made => ⟨made.rows_kept rfl, made.accounts_kept fun _ account present _ => ⟨account, present, rfl⟩⟩
  · exact fun i labels w c next reply w' made _ performed => made_call made performed
  · intro s labels w' made changed
    have unchanged : ∀ id account', s.world.directory.account id = some account' → account'.origin ≠ .outside →
        ∃ account, s.world.directory.account id = some account ∧ account.origin = account'.origin :=
      fun _ account present _ => ⟨account, present, rfl⟩
    cases changed with
    | ended => exact ⟨made.rows_kept rfl, made.accounts_kept unchanged⟩
    | cleanup step =>
      refine ⟨made.rows_snoc step ?_, made.accounts_kept unchanged⟩
      rintro row ⟨_, ⟨⟩⟩
    | directory others => exact ⟨made.rows_kept rfl, made.accounts_kept others⟩
  · refine ⟨?_, ?_⟩
    · intro row stored
      change row ∈ store.invites at stored
      rw [empty] at stored
      cases stored
    · intro id account i flag present origin
      rw [strangers id account present] at origin
      cases origin

/-- In every interleaved run, whatever a request does beyond the guards, it does
    after a verified login of the configured administrator, whose session was the
    last one issued, not logged out when the guard of this request read its
    cookie, and young by the reading that the guard had taken; and it asks for
    what its route and that session's CSRF token allow, by what it has read and
    drawn since. -/
theorem privileged_authorised
    (run : Run (Steps crates config arrivals) (.initial (World.initialized started directory store)) labels s)
    {before after : List (Label ι Call Reply)} {i : ι} {c : AdminPrograms.Call} {reply : AdminPrograms.Reply c}
    (shape : labels = before ++ .call i (.admin c) reply :: after) (privileged : Privileged c = true) :
    ∃ request token now behind earlier since k session, arrivals i = .admin request ∧
      request.cookies SESSION_COOKIE = some token ∧ Entitled crates config.admin request session.drawn.csrf.text behind c ∧
      before = earlier ++ answered i token now session.drawn.csrf.text :: since ∧ readBy i now ∈ earlier ∧
      callsOf i since = behind.map (callAlong (R := Reply) Call.admin) ∧
      SignsIn crates config.admin arrivals earlier k session ∧ LastIssued (sessionCalls earlier) session ∧
      now < session.expires ∧ hash_token crates session.drawn.token.text = hash_token crates token := by
  obtain ⟨request, token, now, csrf, behind, earlier, since, arrival, cookie, entitled, rfl, reading, own⟩ :=
    privileged_read run shape privileged
  rw [List.append_assoc] at shape
  obtain ⟨k, session, signsIn, last, young, same, rfl⟩ := answered_signedIn run shape
  exact ⟨request, token, now, behind, earlier, since, k, session, arrival, cookie, entitled, rfl, reading, own, signsIn,
    last, young, same⟩

/-- The invite of the morning was stored by a request that had signed in before. -/
theorem privileged_authorised_sample : ∃ labels s, Run (Steps morningCrates morningConfig morningArrivals)
      (.initial (World.initialized 0 (servedWorld Nat).directory (InviteStorage.migrated true))) labels s ∧
    ∃ before after i call reply earlier k session, labels = before ++ .call i (.admin (.repository call)) reply :: after ∧
      earlier <+: before ∧ SignsIn morningCrates morningConfig.admin morningArrivals earlier k session ∧
      LastIssued (sessionCalls earlier) session := by
  obtain ⟨labels, programs, run⟩ := morning_run
  obtain ⟨row, stored⟩ : ∃ row, row ∈ (serveAll morningCrates morningConfig (World.initialized 0
      (servedWorld Nat).directory (InviteStorage.migrated true)) morning).2.store.invites := ⟨_, List.mem_cons_self⟩
  obtain ⟨l, member, i, call, reply, rfl, _, rfl⟩ := (run_made rfl (by rintro _ _ ⟨⟩) run).1.rows row stored
  obtain ⟨before, after, shape⟩ := List.mem_iff_append.mp member
  obtain ⟨_, _, _, _, earlier, since, k, session, _, _, _, same, _, _, signsIn, last, _⟩ :=
    privileged_authorised run shape rfl
  exact ⟨labels, _, run, before, after, i, _, reply, earlier, k, session, shape, ⟨_, same.symm⟩, signsIn, last⟩

/-! ### From the login to the account -/

theorem reaches_redemption {arrival : Arrival} {calls : List ((c : Call) × Reply c)} {c : Lldap.Call}
    {next : Lldap.Reply c → Program Call Reply Answer}
    (reached : Reaches (program crates config arrival) calls (.call (.redemption c) next)) :
    ∃ submission own next', arrival = .redemption submission ∧ calls = own.map (callAlong (R := Reply) Call.redemption) ∧
      Reaches (submit_invite crates config.submit submission) own (.call c next') := by
  cases arrival with
  | admin request =>
    obtain ⟨own, c', next', _, same, _⟩ := reaches_along_call reached
    cases same
  | redemption submission =>
    obtain ⟨own, c', next', rfl, same, within⟩ := reaches_along_call reached
    cases same
    exact ⟨submission, own, next', rfl, rfl, within⟩

/-- The creation of an account comes behind the finding of an invite, and a
    reading of the clock by which it is active, for the code and the name that
    were submitted. -/
theorem creation_found
    (run : Run (Steps crates config arrivals) (.initial (World.initialized started directory store)) labels s)
    {before after : List (Label ι Call Reply)} {i : ι} {c : Lldap.Call} {reply : Lldap.Reply c}
    (shape : labels = before ++ .call i (.redemption c) reply :: after) {id : String} {reported : Bool}
    (created : creates c reply = some (id, reported)) :
    ∃ submission code invite now earlier since, arrivals i = .redemption submission ∧ submission.form.username = id ∧
      submission.code = some code ∧ validation_errors crates config.submit.password_policy submission.form = [] ∧
      invite_is_active crates invite now.time = true ∧
      before = earlier ++ .call i (.redemption (.find_by_token_hash (hash_token crates code))) (some (some invite)) :: since ∧
      .call i (.redemption .utc_now) now ∈ since := by
  obtain ⟨next, reached⟩ := run_came run before _ after shape i _ _ rfl
  obtain ⟨submission, own, next', arrival, calls, within⟩ := reaches_redemption reached
  have touches : Touches c = true ∧ ∀ form config, Aimed config form c → form.username = id := by
    cases c with
    | post_graphql url token operation =>
      cases operation with
      | CreateUser user =>
        cases created
        refine ⟨rfl, ?_⟩
        rintro form config rfl
        rfl
      | _ => cases created
    | _ => cases created
  obtain ⟨passage, tail, rfl, _⟩ := reaches_touch touches.1 within
  have named := touches.2 _ _ (only_call (only_submit_invite crates config.submit submission) within)
  have found : callsOf i before = (passage.byName ++ passage.byEmail).map (callAlong (R := Reply) Call.redemption) ++
      ⟨.redemption (.find_by_token_hash (hash_token crates passage.code)), some (some passage.invite)⟩ ::
        ⟨.redemption .utc_now, passage.now⟩ :: tail.map (callAlong (R := Reply) Call.redemption) := by
    rw [calls, Passage.calls]
    simp [callAlong]
  obtain ⟨earlier, since, parts, _, own⟩ := callsOf_split found
  have reading : .call i (.redemption .utc_now) passage.now ∈ since :=
    mem_callsOf.mp (by rw [own]; exact List.mem_cons_self)
  exact ⟨submission, passage.code, passage.invite, passage.now, earlier, since, arrival, named, passage.given,
    passage.valid, passage.active, parts, reading⟩

/-- The way from a login to an account: the administrator signs in, a request
    under that session generates the invite, and the redemption finds the invite
    by its code, active by the clock that it then reads, and creates the account
    under the name that was submitted. -/
structure Lineage (crates : Crates) (config : AppConfig) (arrivals : ι → Arrival) (labels : List (Label ι Call Reply))
    (i : ι) (id : String) where
  earlier : List (Label ι Call Reply)
  later : List (Label ι Call Reply)
  shape : labels = earlier ++ later
  login : ι
  session : Issued
  signedIn : SignsIn crates config.admin arrivals earlier login session
  current : LastIssued (sessionCalls earlier) session
  generation : ι
  request : Request
  form : GenerateInviteForm
  generates : arrivals generation = .admin request ∧ request.endpoint = .generate_invite form
  origin : require_origin config.admin request = none
  csrf : form.csrf = session.drawn.csrf.text
  token : String
  cookie : request.cookies SESSION_COOKIE = some token ∧
    hash_token crates session.drawn.token.text = hash_token crates token
  readAt : Instant
  reading : readBy generation readAt ∈ earlier
  young : readAt < session.expires
  invite : InviteRecord
  drawn : Token 32
  createdAt : Reading
  uuid : String
  generated : ∃ page, InviteRoutes.generate_invite crates form drawn uuid createdAt =
    .create invite.id invite.token_hash invite.groups_json invite.created_at invite.expires_at page
  stored : Option InviteStorage.Reply
  submission : Submission
  submitted : arrivals i = .redemption submission ∧ submission.form.username = id ∧
    validation_errors crates config.submit.password_policy submission.form = []
  redeemedAt : Reading
  active : invite_is_active crates invite redeemedAt.time = true
  code : String
  presented : submission.code = some code ∧ invite.token_hash = hash_token crates code
  c : Lldap.Call
  reply : Lldap.Reply c
  reported : Bool
  creates : creates c reply = some (id, reported)
  inOrder : [answered generation token readAt session.drawn.csrf.text,
    .call generation (.admin .draw_invite) drawn, .call generation (.admin .utc_now) createdAt,
    .call generation (.admin .draw_uuid) uuid,
    .call generation (.admin (.repository (.create_invite invite.id invite.token_hash invite.groups_json invite.created_at
      invite.expires_at none))) stored,
    .call i (.redemption (.find_by_token_hash (hash_token crates code))) (some (some invite)),
    .call i (.redemption .utc_now) redeemedAt, .call i (.redemption c) reply].Sublist later

/-- No account but by invitation: in every interleaved run of an application that
    starts without invites, over a directory with others' accounts only, every
    account that a request made comes from such a way. -/
theorem account_provenance (empty : store.invites = [])
    (strangers : ∀ id account, directory.account id = some account → account.origin = .outside)
    (run : Run (Steps crates config arrivals) (.initial (World.initialized started directory store)) labels s)
    {id : String} {account : Account ι} {i : ι} {flag : Bool} (present : s.world.directory.account id = some account)
    (origin : account.origin = .request i flag) : Nonempty (Lineage crates config arrivals labels i id) := by
  obtain ⟨made, founds⟩ := run_made empty strangers run
  obtain ⟨c, reply, creating, reported, creates⟩ := made.accounts id account i flag present origin
  obtain ⟨beforeCreation, afterCreation, rfl⟩ := List.mem_iff_append.mp creating
  obtain ⟨submission, code, invite, redeemedAt, beforeFinding, afterFinding, submitted, named, given, valid, active, rfl,
    redeeming⟩ := creation_found run rfl creates
  obtain ⟨byHash, l, storing, generation, call, stored, rfl, created_by, rfl⟩ :=
    founds.before beforeFinding _ afterFinding rfl i _ _ rfl invite rfl
  obtain ⟨sinceFinding, sinceReading, rfl⟩ := List.mem_iff_append.mp redeeming
  have hashed : invite.token_hash = hash_token crates code := (Lldap.Call.find_by_token_hash.inj byHash).symm
  obtain ⟨beforeStoring, afterStoring, rfl⟩ := List.mem_iff_append.mp storing
  obtain ⟨request, token, readAt, csrf, behind, earlier, since, arrival, cookie, entitled, rfl, reading, own⟩ :=
    privileged_read run (by simp only [List.append_assoc, List.cons_append]; rfl) (by rfl)
  obtain ⟨form, drawn, uuid, createdAt, page, endpoint, sameCsrf, allowed, rfl, rfl, generated⟩ := entitled
  have draws : [.call generation (.admin .draw_invite) drawn, .call generation (.admin .utc_now) createdAt,
      .call generation (.admin .draw_uuid) uuid].Sublist since := own_sublist own
  obtain ⟨login, session, signedIn, current, young, sameHash, rfl⟩ :=
    answered_signedIn run (by simp only [List.append_assoc, List.cons_append]; rfl)
  exact ⟨{
    earlier, login, session, signedIn, current, generation, request, form, origin := allowed, csrf := sameCsrf, token,
    readAt, reading, young, invite, drawn, createdAt, uuid, stored, submission, redeemedAt, active, code, c, reply
    reported, creates
    later := _
    shape := by simp only [List.append_assoc, List.cons_append]; rfl
    generates := ⟨arrival, endpoint⟩
    cookie := ⟨cookie, sameHash⟩
    generated := ⟨page, generated⟩
    presented := ⟨given, hashed⟩
    submitted := ⟨submitted, named, valid⟩
    inOrder := (draws.append (by simp)).cons_cons _ }⟩

end

/-- So did the account of the morning come about. -/
theorem account_provenance_sample : ∃ labels s, Run (Steps morningCrates morningConfig morningArrivals)
      (.initial (World.initialized 0 (servedWorld Nat).directory (InviteStorage.migrated true))) labels s ∧
    (∃ account, s.world.directory.account "bob" = some account ∧ account.origin = .request 2 true) ∧
    Nonempty (Lineage morningCrates morningConfig morningArrivals labels 2 "bob") := by
  obtain ⟨labels, programs, run⟩ := morning_run
  obtain ⟨account, present, origin⟩ : ∃ account, (serveAll morningCrates morningConfig
      (World.initialized 0 (servedWorld Nat).directory (InviteStorage.migrated true)) morning).2.directory.account "bob" =
        some account ∧ account.origin = .request 2 true := ⟨_, rfl, by decide⟩
  exact ⟨labels, _, run, ⟨account, present, origin⟩, account_provenance rfl (by rintro _ _ ⟨⟩) run present origin⟩

end InviteSystem.AccountProvenance
