import InviteSystem.AccountProvenance
import InviteSystem.Onboarding

/-!
The start of the service: how the administrator's password is provisioned, what
of a configuration is checked before anything is served, and what these checks
mean for all that is served afterwards.
-/
namespace InviteSystem.Startup
open InviteSystem.Runs InviteSystem.Text InviteSystem.Libraries InviteSystem.Tokens InviteSystem.Authentication
open InviteSystem.Transactions InviteSystem.AdminRoutes InviteSystem.Programs InviteSystem.Traces InviteSystem.Accounts
open InviteSystem.InviteStorage (Database)
open InviteSystem.AdminTraces (Privileged SigningIn Entitled)
open InviteSystem.AccountProvenance (Same Creates atomic_from)
open InviteSystem.Application InviteSystem.SignIns InviteSystem.Onboarding InviteSystem.DirectoryServer

/-- What `PasswordHash::new` reads from a hash: `params` is `get_decimal`. -/
structure PasswordHash where
  algorithm : String
  version : Option Nat
  params : String → Option Nat
  salt : Option String
  hash : Option (List UInt8)

/-- The scheme of a URL, and `origin().ascii_serialization()`. -/
structure ParsedUrl where
  scheme : String
  origin : String

/-- The functions of other crates that the start depends on. -/
structure StartCrates where
  /-- `PasswordHash::new` -/
  parse_hash : String → Option PasswordHash
  /-- `SaltString::encode_b64` -/
  encode_b64 : Vector UInt8 16 → Option String
  /-- `Argon2::default().hash_password(password, &salt)`, and `to_string` -/
  hash_password : List UInt8 → String → Option String
  /-- `reqwest::Url::parse` -/
  parse_url : String → Option ParsedUrl

/-- `char::is_control`: the general category `Cc`. -/
def is_control (c : Char) : Bool := c.toNat < 0x20 ∨ (0x7f ≤ c.toNat ∧ c.toNat < 0xa0)

/-! ### `admin_auth.rs` and `main.rs` -/

/-- The 16 bytes are drawn for the salt. -/
def hash_password (start : StartCrates) (drawn : Vector UInt8 16) (password : String) : Except String String :=
  if 16 ≤ len password ∧ len password ≤ 1024 then
    match start.encode_b64 drawn with
    | none => .error "Salt generation failed"
    | some salt =>
      match start.hash_password (bytes password) salt with
      | none => .error "Password hashing failed"
      | some hash => .ok hash
  else .error "Admin password must contain 16 to 1024 bytes"

/-- What is printed for the configuration, where both prompts are answered. -/
def provision_admin_password (start : StartCrates) (drawn : Vector UInt8 16) (password confirmation : String) :
    Except String String :=
  if password ≠ confirmation then .error "Passwords do not match" else hash_password start drawn password

/-- The credentials that `with_username` accepts; its state is `AuthState.initial`. -/
def with_username (start : StartCrates) (username password_hash : String) : Except String AdminAuth :=
  if username = "" ∨ 64 < len username ∨ trim username ≠ username ∨ username.toList.any is_control = true then
    .error "Admin username must contain 1 to 64 bytes without surrounding whitespace or control characters"
  else if password_hash = "" then .ok ⟨username, password_hash⟩
  else
    match start.parse_hash password_hash with
    | none => .error "Invalid admin hash"
    | some parsed =>
      let memory := (parsed.params "m").getD 0
      let iterations := (parsed.params "t").getD 0
      let parallelism := (parsed.params "p").getD 0
      if parsed.algorithm ≠ "argon2id" ∨ parsed.version ≠ some 19 ∨ ¬ (19456 ≤ memory ∧ memory ≤ 65536) ∨
          ¬ (2 ≤ iterations ∧ iterations ≤ 5) ∨ ¬ (1 ≤ parallelism ∧ parallelism ≤ 4) ∨
          parsed.salt.all (fun salt => len salt < 22) = true ∨ parsed.hash.all (fun hash => hash.length ≠ 32) = true then
        .error "Admin hash must use bounded Argon2id v19 parameters"
      else .ok ⟨username, password_hash⟩

/-! ### `app_state.rs` -/

structure AppState where
  admin : AdminAuth
  auth : AuthState
  store : Database

/-- The check of the origin, where a hash is configured. -/
def check_origin (start : StartCrates) (config : AdminConfig) : Except String Unit :=
  if config.auth.password_hash = "" then .ok ()
  else
    match start.parse_url config.origin with
    | none => .error "Admin origin must be an HTTPS origin"
    | some url =>
      if url.scheme ≠ "https" ∨ url.origin ≠ config.origin then
        .error "Admin origin must be an HTTPS origin without a path"
      else .ok ()

/-- The database is connected to and migrated behind the checks; `opened` is what comes of that. -/
def AppState.initialize (start : StartCrates) (config : AdminConfig) (opened : Except String Database) (now : Instant) :
    Except String AppState :=
  match with_username start config.auth.username config.auth.password_hash with
  | .error error => .error error
  | .ok admin =>
    match check_origin start config with
    | .error error => .error error
    | .ok () =>
      match opened with
      | .error error => .error error
      | .ok store => .ok ⟨admin, .initial now, store⟩

/-! ### What the checks let pass -/

section
variable {start : StartCrates} {config : AdminConfig}

structure SoundName (username : String) : Prop where
  nonempty : username ≠ ""
  short : len username ≤ 64
  trimmed : trim username = username
  printable : ∀ c ∈ username.toList, is_control c = false

/-- Argon2id, version 19, with costs that are neither weak nor excessive. -/
structure Bounded (parsed : PasswordHash) : Prop where
  algorithm : parsed.algorithm = "argon2id"
  version : parsed.version = some 19
  memory : ∃ memory, parsed.params "m" = some memory ∧ 19456 ≤ memory ∧ memory ≤ 65536
  iterations : ∃ iterations, parsed.params "t" = some iterations ∧ 2 ≤ iterations ∧ iterations ≤ 5
  parallelism : ∃ parallelism, parsed.params "p" = some parallelism ∧ 1 ≤ parallelism ∧ parallelism ≤ 4
  salt : ∃ salt, parsed.salt = some salt ∧ 22 ≤ len salt
  hash : ∃ hash, parsed.hash = some hash ∧ hash.length = 32

/-- A parameter in bounds that exclude the default is there. -/
theorem getD_bounded {value : Option Nat} {low high : Nat} (positive : 0 < low) :
    (low ≤ value.getD 0 ∧ value.getD 0 ≤ high) ↔ ∃ n, value = some n ∧ low ≤ n ∧ n ≤ high := by
  cases value with
  | none => simp; omega
  | some n => simp

theorem soundName_iff {username : String} : SoundName username ↔
    ¬ (username = "" ∨ 64 < len username ∨ trim username ≠ username ∨ username.toList.any is_control = true) := by
  simp only [not_or, not_lt, not_not, Bool.not_eq_true, List.any_eq_false]
  constructor
  · rintro ⟨nonempty, short, trimmed, printable⟩
    exact ⟨nonempty, short, trimmed, fun c member => by simp [printable c member]⟩
  · rintro ⟨nonempty, short, trimmed, printable⟩
    exact ⟨nonempty, short, trimmed, fun c member => by simpa using printable c member⟩

theorem bounded_iff {parsed : PasswordHash} : Bounded parsed ↔
    ¬ (parsed.algorithm ≠ "argon2id" ∨ parsed.version ≠ some 19 ∨
      ¬ (19456 ≤ (parsed.params "m").getD 0 ∧ (parsed.params "m").getD 0 ≤ 65536) ∨
      ¬ (2 ≤ (parsed.params "t").getD 0 ∧ (parsed.params "t").getD 0 ≤ 5) ∨
      ¬ (1 ≤ (parsed.params "p").getD 0 ∧ (parsed.params "p").getD 0 ≤ 4) ∨
      parsed.salt.all (fun salt => len salt < 22) = true ∨ parsed.hash.all (fun hash => hash.length ≠ 32) = true) := by
  rw [getD_bounded (by decide), getD_bounded (by decide), getD_bounded (by decide)]
  simp only [not_or, not_not]
  have salted : ¬ parsed.salt.all (fun salt => len salt < 22) = true ↔ ∃ salt, parsed.salt = some salt ∧ 22 ≤ len salt := by
    cases parsed.salt <;> simp
  have hashed : ¬ parsed.hash.all (fun hash => hash.length ≠ 32) = true ↔
      ∃ hash, parsed.hash = some hash ∧ hash.length = 32 := by
    cases parsed.hash <;> simp
  rw [salted, hashed]
  exact ⟨fun ⟨algorithm, version, memory, iterations, parallelism, salt, hash⟩ =>
      ⟨algorithm, version, memory, iterations, parallelism, salt, hash⟩,
    fun ⟨algorithm, version, memory, iterations, parallelism, salt, hash⟩ =>
      ⟨algorithm, version, memory, iterations, parallelism, salt, hash⟩⟩

theorem with_username_eq_ok {username password_hash : String} {admin : AdminAuth} :
    with_username start username password_hash = .ok admin ↔ SoundName username ∧ admin = ⟨username, password_hash⟩ ∧
      (password_hash = "" ∨ ∃ parsed, start.parse_hash password_hash = some parsed ∧ Bounded parsed) := by
  unfold with_username
  by_cases named : SoundName username
  · rw [if_neg (soundName_iff.mp named)]
    by_cases disabled : password_hash = ""
    · simp [disabled, named, eq_comm]
    · rw [if_neg disabled]
      cases parsed : start.parse_hash password_hash with
      | none => simp [disabled]
      | some hash =>
        by_cases bounded : Bounded hash
        · simp only [if_neg (bounded_iff.mp bounded)]
          simp [named, bounded, eq_comm]
        · simp only [if_pos (not_not.mp fun sound => bounded (bounded_iff.mpr sound))]
          simp [disabled, bounded]
  · rw [if_pos (not_not.mp fun sound => named (soundName_iff.mpr sound))]
    simp [named]

theorem check_origin_eq_ok : check_origin start config = .ok () ↔ config.auth.password_hash = "" ∨
    start.parse_url config.origin = some ⟨"https", config.origin⟩ := by
  unfold check_origin
  by_cases disabled : config.auth.password_hash = ""
  · simp [disabled]
  · rw [if_neg disabled]
    cases parsed : start.parse_url config.origin with
    | none => simp [disabled]
    | some url =>
      obtain ⟨scheme, origin⟩ := url
      by_cases refused : scheme ≠ "https" ∨ origin ≠ config.origin
      · simp only [if_pos refused]
        simp only [reduceCtorEq, disabled, Option.some.injEq, ParsedUrl.mk.injEq, false_or, false_iff, not_and_or]
        exact refused
      · simp only [if_neg refused]
        push Not at refused
        simp [refused]

/-- The service starts where the name is sound, the administration is disabled
    or secured, and the database is there. -/
theorem initialize_eq_ok {opened : Except String Database} {now : Instant} {state : AppState} :
    AppState.initialize start config opened now = .ok state ↔ SoundName config.auth.username ∧
      (config.auth.password_hash = "" ∨
        (∃ parsed, start.parse_hash config.auth.password_hash = some parsed ∧ Bounded parsed) ∧
          start.parse_url config.origin = some ⟨"https", config.origin⟩) ∧
      opened = .ok state.store ∧ state = ⟨config.auth, .initial now, state.store⟩ := by
  unfold AppState.initialize
  cases named : with_username start config.auth.username config.auth.password_hash with
  | error error =>
    have refused : ∀ admin, with_username start config.auth.username config.auth.password_hash ≠ .ok admin := by
      simp [named]
    have rejected := fun admin => mt with_username_eq_ok.mpr (refused admin)
    simp only [reduceCtorEq, false_iff]
    rintro ⟨sound, disabled | ⟨bounded, _⟩, _⟩
    · exact rejected _ ⟨sound, rfl, .inl disabled⟩
    · exact rejected _ ⟨sound, rfl, .inr bounded⟩
  | ok admin =>
    obtain ⟨sound, rfl, hashed⟩ := with_username_eq_ok.mp named
    dsimp only
    cases checked : check_origin start config with
    | error error =>
      have refused : ¬ check_origin start config = .ok () := by simp [checked]
      rw [check_origin_eq_ok, not_or] at refused
      simp [refused]
    | ok done =>
      have passed := check_origin_eq_ok.mp checked
      cases opened with
      | error error => simp
      | ok store =>
        constructor
        · intro started
          cases started
          refine ⟨sound, ?_, rfl, rfl⟩
          rcases passed with disabled | secured
          · exact .inl disabled
          · exact hashed.imp_right fun bounded => ⟨bounded, secured⟩
        · rintro ⟨_, _, same, shape⟩
          rw [shape]
          cases same
          rfl

end

/-! ### What a started service does -/

/-- The calls that only a request from the configured origin comes to. -/
def Checked : AdminPrograms.Call → Bool
  | .list_recent _ => false
  | c => Privileged c || SigningIn c

section
variable {ι : Type} [DecidableEq ι] {crates : Crates} {config : AppConfig} {arrivals : ι → Arrival}
  {started : Instant} {directory : Directory ι} {store : Database} {labels : List (Label ι Call Reply)}
  {s : System (World ι) ι Call Reply Answer}

theorem header_of_origin {request : Request} (passed : require_origin config.admin request = none) :
    (request.header "origin").bind to_str = some config.admin.origin := by
  unfold require_origin at passed
  by_cases same : (request.header "origin").bind to_str = some config.admin.origin
  · exact same
  · simp [same] at passed

theorem checked_origin
    (run : Run (Steps crates config arrivals) (.initial (World.initialized started directory store)) labels s) {i : ι}
    {c : AdminPrograms.Call} {reply : AdminPrograms.Reply c} (member : .call i (.admin c) reply ∈ labels)
    (checked : Checked c = true) : ∃ request, arrivals i = .admin request ∧
      (request.header "origin").bind to_str = some config.admin.origin := by
  obtain ⟨before, after, shape⟩ := List.mem_iff_append.mp member
  by_cases signing : SigningIn c = true
  · obtain ⟨next, reached⟩ := run_came run before _ after shape i _ _ rfl
    obtain ⟨request, own, next', arrival, calls, within⟩ := reaches_admin reached
    obtain ⟨form, next'', endpoint, origin, login⟩ := AdminTraces.reaches_signingIn signing within
    exact ⟨request, arrival, header_of_origin origin⟩
  · have privileged : Privileged c = true := by cases c <;> simp_all [Checked]
    obtain ⟨request, token, now, csrf, behind, _, _, arrival, cookie, entitled, _⟩ := privileged_read run shape privileged
    refine ⟨request, arrival, header_of_origin ?_⟩
    cases c with
    | logout token => exact entitled.2.1
    | list_recent limit => cases checked
    | repository call =>
      cases call with
      | create_invite id token_hash groups_json created_at expires_at created_by =>
        obtain ⟨_, _, _, _, _, _, _, origin, _⟩ := entitled
        exact origin
      | revoke_invite id revoked_at =>
        obtain ⟨_, _, _, _, origin, _⟩ := entitled
        exact origin
      | _ => exact entitled.elim
    | _ => cases privileged

theorem same_trans {row row' row'' : InviteStorage.InviteRecord} (first : Same row row') (second : Same row' row'') :
    Same row row'' := by
  obtain ⟨id, token_hash, groups_json, created_at, expires_at⟩ := first
  obtain ⟨id', token_hash', groups_json', created_at', expires_at'⟩ := second
  exact ⟨id'.trans id, token_hash'.trans token_hash, groups_json'.trans groups_json, created_at'.trans created_at,
    expires_at'.trans expires_at⟩

/-- A call that creates no invite leaves none that is new. -/
theorem uncreated_kept {first before after : Database} {call : InviteStorage.Call} {result : Option InviteStorage.Reply}
    (step : Atomic InviteStorage.Call.code before (call, result) after) (uncreating : ∀ row, ¬ Creates row call)
    (kept : ∀ row ∈ before.invites, ∃ old ∈ first.invites, Same old row) :
    ∀ row ∈ after.invites, ∃ old ∈ first.invites, Same old row := by
  intro row' stored'
  rcases atomic_from step stored' with ⟨row, stored, same⟩ | created
  · obtain ⟨old, present, earlier⟩ := kept row stored
    exact ⟨old, present, same_trans earlier same⟩
  · exact absurd created (uncreating row')

/-- Without a privileged access no invite is new. -/
theorem rows_kept {begin : System (World ι) ι Call Reply Answer} (run : Run (Steps crates config arrivals) begin labels s)
    (unprivileged : ∀ i c reply, .call i (.admin c) reply ∈ labels → Privileged c = false) :
    ∀ row ∈ s.world.store.invites, ∃ old ∈ begin.world.store.invites, Same old row := by
  induction run with
  | stay => exact fun row stored => ⟨row, stored, rfl, rfl, rfl, rfl, rfl⟩
  | next _ taken ih =>
    have kept := ih fun i c reply member => unprivileged i c reply (List.mem_append_left _ member)
    cases taken with
    | arrival absent => exact kept
    | @call i c next reply world running performed =>
      rcases AccountProvenance.perform_store performed with same | ⟨call, result, step, ⟨reply', own⟩ | ⟨_, _, _, rfl⟩⟩
      · rw [same]
        exact kept
      · cases own
        cases unprivileged i _ _ (List.mem_append_right _ (List.mem_singleton_self _))
      · exact uncreated_kept step (by rintro row ⟨_, ⟨⟩⟩) kept
    | outside changed =>
      cases changed with
      | ended => exact kept
      | directory => exact kept
      | cleanup step => exact uncreated_kept step (by rintro row ⟨_, ⟨⟩⟩) kept

/-- Nobody is the administrator: no hash is configured, there is no session, no
    access behind a guard, no new invite, and, where none was there, no account. -/
structure Closed (config : AdminConfig) (directory : Directory ι) (store : Database) (labels : List (Label ι Call Reply))
    (w : World ι) : Prop where
  disabled : config.auth.password_hash = ""
  session : w.auth.session = none
  unprivileged : ∀ i c reply, .call i (.admin c) reply ∈ labels → Privileged c = false
  rows : ∀ row ∈ w.store.invites, ∃ old ∈ store.invites, Same old row
  accounts : store.invites = [] → (∀ id account, directory.account id = some account → account.origin = .outside) →
    ∀ id account i flag, w.directory.account id = some account → account.origin ≠ .request i flag

theorem closed_run (disabled : config.admin.auth.password_hash = "")
    (run : Run (Steps crates config arrivals) (.initial (World.initialized started directory store)) labels s) :
    Closed config.admin directory store labels s.world := by
  obtain ⟨standing, stood⟩ := run_standing run
  have unprivileged : ∀ i c reply, .call i (.admin c) reply ∈ labels → Privileged c = false := by
    intro i c reply member
    rw [← Bool.not_eq_true]
    intro privileged
    obtain ⟨before, after, shape⟩ := List.mem_iff_append.mp member
    obtain ⟨request, token, now, csrf, _, earlier, since, _, _, _, rfl, _⟩ := privileged_read run shape privileged
    rw [List.append_assoc] at shape
    obtain ⟨k, session, ⟨_, _, _, _, _, _, enabled, _⟩, _⟩ := answered_signedIn run shape
    exact enabled disabled
  refine ⟨disabled, ?_, unprivileged, rows_kept run unprivileged, ?_⟩
  · cases live : s.world.auth.session with
    | none => rfl
    | some session =>
      obtain ⟨issued, ⟨earlier, since, calls, _⟩, _⟩ := standing session live
      have issues : .issue_session issued.drawn issued.issuedAt ∈ sessionCalls labels := by simp [calls]
      obtain ⟨k, member⟩ := mem_sessionCalls stood issues
      obtain ⟨before, after, shape⟩ := List.mem_iff_append.mp member
      obtain ⟨_, _, _, _, _, _, enabled, _⟩ := issued_signsIn run shape
      exact absurd disabled enabled
  · intro empty strangers id account i flag present origin
    obtain ⟨made, founds⟩ := AccountProvenance.run_made empty strangers run
    obtain ⟨c, reply, creating, reported, creates⟩ := made.accounts id account i flag present origin
    obtain ⟨before, after, rfl⟩ := List.mem_iff_append.mp creating
    obtain ⟨submission, code, invite, redeemedAt, earlier, since, _, _, _, _, _, rfl, _⟩ :=
      AccountProvenance.creation_found run rfl creates
    obtain ⟨_, l, storing, j, call, stored, rfl, _, rfl⟩ := founds.before earlier _ since rfl i _ _ rfl invite rfl
    cases unprivileged j _ _ (List.mem_append_left _ (List.mem_append_left _ storing))

/-- The configured hash is of bounded cost, the origin is one of HTTPS, and
    nothing is signed in, stored, revoked or logged out but from there. -/
structure Secured (start : StartCrates) (config : AdminConfig) (arrivals : ι → Arrival) (labels : List (Label ι Call Reply)) :
    Prop where
  hash : ∃ parsed, start.parse_hash config.auth.password_hash = some parsed ∧ Bounded parsed
  origin : start.parse_url config.origin = some ⟨"https", config.origin⟩
  checked : ∀ i c reply, .call i (.admin c) reply ∈ labels → Checked c = true → ∃ request, arrivals i = .admin request ∧
    (request.header "origin").bind to_str = some config.origin

/-- Whatever configuration the service has started with, in every interleaved
    run it is closed, or secured. -/
theorem started_closed_or_secured {start : StartCrates} {opened : Except String Database} {state : AppState}
    (begun : AppState.initialize start config.admin opened started = .ok state)
    (run : Run (Steps crates config arrivals) (.initial (World.initialized started directory state.store)) labels s) :
    Closed config.admin directory state.store labels s.world ∨ Secured start config.admin arrivals labels := by
  obtain ⟨_, disabled | ⟨hash, origin⟩, _⟩ := initialize_eq_ok.mp begun
  · exact .inl (closed_run disabled run)
  · exact .inr ⟨hash, origin, fun i c reply member => checked_origin run member⟩

end

/-- The libraries on the password, the hash and the origin of the morning. -/
def morningStart : StartCrates where
  parse_hash := fun hash =>
    if hash = morningConfig.admin.auth.password_hash then
      some ⟨"argon2id", some 19, fun name => [("m", 19456), ("t", 2), ("p", 1)].lookup name, some "T03eA4poqCz9APm0+Lk2+A",
        some [161, 81, 67, 158, 207, 38, 244, 197, 130, 67, 110, 240, 65, 51, 7, 224, 171, 101, 181, 63, 186, 118, 153, 195,
          119, 147, 106, 116, 111, 28, 87, 105]⟩
    else none
  encode_b64 := fun drawn =>
    if drawn = #v[79, 77, 222, 3, 138, 104, 168, 44, 253, 0, 249, 180, 248, 185, 54, 248] then some "T03eA4poqCz9APm0+Lk2+A"
    else none
  hash_password := fun password salt =>
    if password = bytes "test-only admin password" ∧ salt = "T03eA4poqCz9APm0+Lk2+A" then
      some morningConfig.admin.auth.password_hash
    else none
  parse_url := fun url => if url = "https://invite.example.com" then some ⟨"https", url⟩ else none

/-- The morning is one of a secured service. -/
theorem started_closed_or_secured_sample : ∃ state labels s,
    AppState.initialize morningStart morningConfig.admin (.ok (InviteStorage.migrated true)) 0 = .ok state ∧
    Run (Steps morningCrates morningConfig morningArrivals)
      (.initial (World.initialized 0 (servedWorld Nat).directory state.store)) labels s ∧
    Secured morningStart morningConfig.admin morningArrivals labels := by
  obtain ⟨labels, programs, run⟩ := morning_run
  have begun : AppState.initialize morningStart morningConfig.admin (.ok (InviteStorage.migrated true)) 0 =
      .ok ⟨morningConfig.admin.auth, .initial 0, InviteStorage.migrated true⟩ := by
    rw [initialize_eq_ok]
    refine ⟨soundName_iff.mpr (by decide), .inr ⟨⟨_, rfl, bounded_iff.mpr (by decide)⟩, rfl⟩, rfl, rfl⟩
  refine ⟨_, labels, _, begun, run, ?_⟩
  rcases started_closed_or_secured begun run with closed | secured
  · have live := closed.session
    have signedIn : (serveAll morningCrates morningConfig (World.initialized 0 (servedWorld Nat).directory
        (InviteStorage.migrated true)) morning).2.auth.session ≠ none := by decide
    exact absurd live signedIn
  · exact secured

/-! ### From the password to the sign-in -/

/-- What Argon2 documents of its default costs, and of reading and verifying a
    hash that it has made. -/
structure Argon2id (start : StartCrates) (crates : Crates) : Prop where
  /-- 16 bytes are 22 characters of base64 without padding. -/
  salt : ∀ drawn salt, start.encode_b64 drawn = some salt → len salt = 22
  parsed : ∀ password salt hash, start.hash_password password salt = some hash → ∃ params output,
    start.parse_hash hash = some ⟨"argon2id", some 19, params, some salt, some output⟩ ∧
      params "m" = some 19456 ∧ params "t" = some 2 ∧ params "p" = some 1 ∧ output.length = 32
  empty : start.parse_hash "" = none
  verified : ∀ password salt hash, start.hash_password password salt = some hash → crates.verify_password hash password = true

section
variable {start : StartCrates} {crates : Crates} {drawn : Vector UInt8 16} {password confirmation hash salt : String}

theorem provision_eq_ok : provision_admin_password start drawn password confirmation = .ok hash ↔
    password = confirmation ∧ (16 ≤ len password ∧ len password ≤ 1024) ∧
      ∃ salt, start.encode_b64 drawn = some salt ∧ start.hash_password (bytes password) salt = some hash := by
  unfold provision_admin_password hash_password
  by_cases alike : password = confirmation
  · by_cases sized : 16 ≤ len password ∧ len password ≤ 1024
    · rw [if_neg (not_not.mpr alike), if_pos sized]
      cases encoded : start.encode_b64 drawn with
      | none => simp
      | some salt =>
        cases hashed : start.hash_password (bytes password) salt with
        | none => simp [hashed]
        | some made => simp [alike.symm, sized, hashed]
    · rw [if_neg (not_not.mpr alike), if_neg sized]
      simp [sized]
  · simp [alike]

/-- What is provisioned is bounded: the default costs are the least that are accepted. -/
theorem provisioned_bounded (argon2id : Argon2id start crates)
    (provisioned : provision_admin_password start drawn password confirmation = .ok hash) :
    hash ≠ "" ∧ ∃ parsed, start.parse_hash hash = some parsed ∧ Bounded parsed := by
  obtain ⟨_, _, salt, encoded, hashed⟩ := provision_eq_ok.mp provisioned
  obtain ⟨params, output, parsed, memory, iterations, parallelism, length⟩ := argon2id.parsed _ _ _ hashed
  refine ⟨?_, _, parsed, rfl, rfl, ⟨_, memory, by decide, by decide⟩, ⟨_, iterations, by decide, by decide⟩,
    ⟨_, parallelism, by decide, by decide⟩, ⟨_, rfl, ?_⟩, ⟨_, rfl, length⟩⟩
  · rintro rfl
    rw [argon2id.empty] at parsed
    cases parsed
  · exact Nat.le_of_eq (argon2id.salt drawn salt encoded).symm

/-- A login from the page that has set the challenge, as it comes to the handler:
    the framework has checked its `Host` and `Origin` by its own policy. -/
structure FromLoginPage (config : AdminConfig) (request : Request) (form : LoginForm) : Prop where
  endpoint : request.endpoint = .login form
  sameOrigin : require_origin config request = none
  challenged : request.cookies LOGIN_COOKIE = some form.csrf
  whole : len form.csrf = 64

variable {ι : Type} [DecidableEq ι] {config : AppConfig} {arrivals : ι → Arrival} {started : Instant}
  {directory : Directory ι} {store : Database}

/-- A password of 16 to 1024 bytes that is typed twice is provisioned; with what
    is printed for it, a sound name and an origin of HTTPS, the service starts,
    and from every state that it then reaches, a new login with this name and
    password, at any time from a minute after the window of the throttle was
    opened, is let in by its own steps and has the session. -/
theorem provisioned_signs_in (argon2id : Argon2id start crates) (encoded : start.encode_b64 drawn = some salt)
    (hashed : start.hash_password (bytes password) salt = some hash) (long : 16 ≤ len password)
    (short : len password ≤ 1024) (configured : config.admin.auth.password_hash = hash)
    (named : SoundName config.admin.auth.username)
    (origin : start.parse_url config.admin.origin = some ⟨"https", config.admin.origin⟩) :
    provision_admin_password start drawn password password = .ok hash ∧
      AppState.initialize start config.admin (.ok store) started = .ok ⟨config.admin.auth, .initial started, store⟩ ∧
      ∀ labels s, Run (Steps crates config arrivals) (.initial (World.initialized started directory store)) labels s →
        ∀ i request csrf meets, s.programs i = none → arrivals i = .admin request →
          FromLoginPage config.admin request ⟨config.admin.auth.username, password, csrf⟩ → Waited s.world.auth meets →
          ∃ more s', Run (OwnSteps crates config arrivals) s more s' ∧ (∀ l ∈ more, TakenBy i l) ∧
            Met crates i meets ⟨s.world.auth, s.world.store⟩ more ∧
            s'.programs i = some (.ret (.admin (.login_view 303 ""
              [(SESSION_COOKIE, meets.session.token.text, SESSION_SECONDS), (LOGIN_COOKIE, "", 0)]))) ∧
            s'.world.auth.session = some ⟨hash_token crates meets.session.token.text, meets.session.csrf.text,
              meets.later + from_secs SESSION_SECONDS⟩ := by
  subst configured
  have provisioned : provision_admin_password start drawn password password = .ok config.admin.auth.password_hash :=
    provision_eq_ok.mpr ⟨rfl, ⟨long, short⟩, salt, encoded, hashed⟩
  obtain ⟨enabled, bounded⟩ := provisioned_bounded argon2id provisioned
  have begun : AppState.initialize start config.admin (.ok store) started =
      .ok ⟨config.admin.auth, .initial started, store⟩ :=
    initialize_eq_ok.mpr ⟨named, .inr ⟨bounded, origin⟩, rfl, rfl⟩
  refine ⟨provisioned, begun, ?_⟩
  rintro labels s run i request csrf meets new arrives ⟨endpoint, sameOrigin, challenged, whole⟩ waited
  have byAdministrator : ByAdministrator crates config.admin request ⟨config.admin.auth.username, password, csrf⟩ :=
    ⟨endpoint, sameOrigin, challenged, whole, rfl, enabled, short, argon2id.verified _ _ _ hashed⟩
  obtain ⟨more, auth, w, served, own, met, session, _⟩ := login_served run new arrives byAdministrator waited
  exact ⟨more, _, served, own, met, Function.update_self .., session⟩

end

theorem provisioned_signs_in_sample : ∃ more s', Run (OwnSteps morningCrates morningConfig morningArrivals)
      (.initial (World.initialized 0 (servedWorld Nat).directory (InviteStorage.migrated true))) more s' ∧
    Met morningCrates 0 (morningMeets 60) ⟨.initial 0, InviteStorage.migrated true⟩ more ∧
    s'.programs 0 = some (.ret (.admin (.login_view 303 ""
      [(SESSION_COOKIE, morningSession.token.text, SESSION_SECONDS), (LOGIN_COOKIE, "", 0)]))) ∧
    s'.world.auth.session =
      some ⟨hash_token morningCrates morningSession.token.text, morningSession.csrf.text,
        (morningMeets 60).later + from_secs SESSION_SECONDS⟩ := by
  have argon2id : Argon2id morningStart morningCrates := by
    refine ⟨?_, ?_, by decide, ?_⟩
    · intro drawn salt encoded
      simp only [morningStart, Option.ite_none_right_eq_some, Option.some.injEq] at encoded
      rw [← encoded.2]
      decide
    · intro password salt hash hashed
      simp only [morningStart, Option.ite_none_right_eq_some, Option.some.injEq] at hashed
      obtain ⟨⟨_, rfl⟩, rfl⟩ := hashed
      exact ⟨_, _, rfl, rfl, rfl, rfl, rfl⟩
    · intro password salt hash hashed
      simp only [morningStart, Option.ite_none_right_eq_some, Option.some.injEq] at hashed
      obtain ⟨⟨rfl, _⟩, rfl⟩ := hashed
      decide
  have encoded : morningStart.encode_b64 #v[79, 77, 222, 3, 138, 104, 168, 44, 253, 0, 249, 180, 248, 185, 54, 248] =
    some "T03eA4poqCz9APm0+Lk2+A" := rfl
  have hashed : morningStart.hash_password (bytes "test-only admin password") "T03eA4poqCz9APm0+Lk2+A" =
    some morningConfig.admin.auth.password_hash := rfl
  have fromLoginPage : FromLoginPage morningConfig.admin morningLogin
      ⟨"operator", "test-only admin password", morningSession.csrf.text⟩ := ⟨rfl, by decide, by decide, by decide⟩
  obtain ⟨_, _, signsIn⟩ := @provisioned_signs_in _ _ _ _ _ _ Nat _ morningConfig morningArrivals 0
    (servedWorld Nat).directory (InviteStorage.migrated true) argon2id encoded hashed (by decide) (by decide) rfl
    (soundName_iff.mpr (by decide)) rfl
  have waited : Waited (AuthState.initial 0) (morningMeets 60) := ⟨by decide, rfl⟩
  obtain ⟨more, s', served, _, met, answered, session⟩ := signsIn [] _ .stay 0 morningLogin morningSession.csrf.text
    (morningMeets 60) rfl rfl fromLoginPage waited
  exact ⟨more, s', served, met, answered, session⟩

end InviteSystem.Startup
