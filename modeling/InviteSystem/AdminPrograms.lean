import InviteSystem.AdminRoutes
import InviteSystem.Traces

/-!
The administrator's handlers as programs. Each access to what requests share is
a call: a lock of the session's state, the permit of the password verifier, the
blocking task that holds it, a query, a clock. `eval_handle` says that a program
whose request meets no other is the handler of `AdminRoutes`.
-/
namespace InviteSystem.AdminPrograms
open InviteSystem.Text InviteSystem.Chrono InviteSystem.Libraries InviteSystem.Tokens InviteSystem.Authentication
open InviteSystem.InviteStorage (InviteRecord Fault Database)
open InviteSystem.InviteRoutes InviteSystem.AdminRoutes InviteSystem.Programs InviteSystem.Traces

inductive Call
  | instant_now
  | utc_now
  | draw_session
  | draw_challenge
  | draw_invite
  | draw_uuid
  | reserve_attempt (now : Instant)
  /-- `try_acquire_owned`, and `spawn_blocking` of the task that the permit moves into. -/
  | spawn_verification (stored_hash password : String)
  /-- The task is awaited. -/
  | join_verification
  | issue_session (drawn : SessionTokens) (now : Instant)
  | csrf_token_at (token : String) (now : Instant)
  | logout (token : String)
  | list_recent (limit : Int)
  | repository (call : InviteStorage.Call)
deriving DecidableEq

/-- A refused permit is `false`, a lost task and a failed query `none`. -/
@[reducible] def Reply : Call → Type
  | .instant_now => Instant
  | .utc_now => Reading
  | .draw_session => SessionTokens
  | .draw_challenge => Token 64
  | .draw_invite => Token 32
  | .draw_uuid => String
  | .reserve_attempt _ => Option LoginError
  | .spawn_verification _ _ => Bool
  | .join_verification => Option Bool
  | .issue_session _ _ => String
  | .csrf_token_at _ _ => Option String
  | .logout _ => Unit
  | .list_recent _ => Option (List InviteRecord)
  | .repository _ => Option InviteStorage.Reply

abbrev Prog (α : Type) := Program Call Reply α

/-! ### `admin_auth.rs` -/

def csrf_token (token : String) : Prog (Option String) :=
  .call .instant_now fun (now : Instant) => .call (.csrf_token_at token now) fun csrf => .ret csrf

/-- `issue_session(Instant::now())`: the argument is read before the token is drawn. -/
def issue_session : Prog (Except LoginError String) :=
  .call .instant_now fun (later : Instant) =>
  .call .draw_session fun (drawn : SessionTokens) =>
  .call (.issue_session drawn later) fun (token : String) => .ret (.ok token)

def login (auth : AdminAuth) (username password : String) : Prog (Except LoginError String) :=
  .call .instant_now fun (now : Instant) =>
  .call (.reserve_attempt now) fun (reserved : Option LoginError) =>
  match reserved with
  | some error => .ret (.error error)
  | none =>
    if auth.password_hash.isEmpty ∨ 1024 < len password then .ret (.error .InvalidCredentials)
    else
      .call (.spawn_verification auth.password_hash password) fun (acquired : Bool) =>
      if acquired = false then .ret (.error .Throttled)
      else
        .call .join_verification fun (joined : Option Bool) =>
        match joined with
        | none => .ret (.error .Unavailable)
        | some valid =>
          if !valid || username != auth.username then .ret (.error .InvalidCredentials)
          else issue_session

/-! ### `admin_routes.rs` and `routes.rs` -/

def require_admin (request : Request) : Prog (Except Refusal String) :=
  match request.cookies SESSION_COOKIE with
  | none => .ret (.error .unauthorized)
  | some token =>
    (csrf_token token).bind fun csrf => match csrf with
      | none => .ret (.error .unauthorized)
      | some csrf => .ret (.ok csrf)

def require_admin_mutation (config : AdminConfig) (request : Request) (csrf : String) : Prog (Except Refusal Unit) :=
  (require_admin request).andThen fun expected =>
  match require_origin config request with
  | some refusal => .ret (.error refusal)
  | none => if tokens_match expected csrf then .ret (.ok ()) else .ret (.error .forbidden)

/-- What is answered where the guard lets the request pass. -/
def guarded {α : Type} (guard : Prog (Except Refusal α)) (handler : α → Prog Response) : Prog Response :=
  guard.bind fun passed => match passed with
    | .error refusal => .ret (.refused refusal)
    | .ok value => handler value

def admin (request : Request) : Prog Response :=
  guarded (require_admin request) fun csrf =>
  .call (.list_recent 20) fun (invites : Option (List InviteRecord)) => .ret (.admin_page csrf (invites.getD []))

/-- A challenge is drawn in any case, and set as a cookie unless the login succeeded. -/
def login_view (status : Nat) (message : String) (set : List (String × String × Nat)) : Prog Response :=
  .call .draw_challenge fun (challenge : Token 64) =>
  .ret (.login_view status message (if status = 303 then set else set ++ [(LOGIN_COOKIE, challenge.text, 600)]))

def login_page : Prog Response := login_view 200 "" []

def login_handler (config : AdminConfig) (request : Request) (form : LoginForm) : Prog Response :=
  match require_origin config request with
  | some refusal => .ret (.refused refusal)
  | none =>
    match request.cookies LOGIN_COOKIE with
    | none => .ret (.refused .forbidden)
    | some challenge =>
      if tokens_match challenge form.csrf then
        (login config.auth form.username form.password).bind fun outcome => match outcome with
          | .ok token => login_view 303 "" [(SESSION_COOKIE, token, SESSION_SECONDS), (LOGIN_COOKIE, "", 0)]
          | .error .InvalidCredentials => login_view 401 "Sign in failed." []
          | .error .Throttled => login_view 429 "Too many attempts. Try again in one minute." []
          | .error .Unavailable => login_view 503 "Sign in is temporarily unavailable." []
      else .ret (.refused .forbidden)

def logout (config : AdminConfig) (request : Request) (csrf : String) : Prog Response :=
  guarded (require_admin_mutation config request csrf) fun _ =>
  match request.cookies SESSION_COOKIE with
  | none => .ret (.refused .unauthorized)
  | some token => .call (.logout token) fun _ => .ret (.see_other "/admin/login" [(SESSION_COOKIE, "", 0)])

/-- The invite that the form asks for. The code, the time and the id are drawn
    for one that is stored; where the form is turned down nothing looks at them. -/
def store_invite (crates : Crates) (form : GenerateInviteForm) : Prog Response :=
  .call .draw_invite fun (token : Token 32) =>
  .call .utc_now fun (now : Reading) =>
  .call .draw_uuid fun (id : String) =>
  match InviteRoutes.generate_invite crates form token id now with
  | .answer page => .ret (.generated page)
  | .panic => .ret .panic
  | .create id token_hash groups_json created_at expires_at page =>
    .call (.repository (.create_invite id token_hash groups_json created_at expires_at none))
      fun (created : Option InviteStorage.Reply) => match created with
        | some (.invite record) => .ret (.generated (page (some record)))
        | _ => .ret (.generated (page none))

def generate_invite (crates : Crates) (config : AdminConfig) (request : Request) (form : GenerateInviteForm) :
    Prog Response :=
  guarded (require_admin_mutation config request form.csrf) fun _ => store_invite crates form

def revoke_invite_route (config : AdminConfig) (request : Request) (form : RevokeInviteForm) : Prog Response :=
  guarded (require_admin_mutation config request form.csrf) fun _ =>
  .call .utc_now fun (now : Reading) =>
  .call (.repository (.revoke_invite form.id (to_rfc3339 now.time))) fun _ => .ret (.see_other "/admin" [])

def handle (crates : Crates) (config : AdminConfig) (request : Request) : Prog Response :=
  match request.endpoint with
  | .admin => admin request
  | .login_page => login_page
  | .login form => login_handler config request form
  | .logout csrf => logout config request csrf
  | .generate_invite form => generate_invite crates config request form
  | .revoke_invite form => revoke_invite_route config request form

/-! ### A request that meets no other -/

/-- The application, the readings that the monotonic clock has ahead, and the
    verification that runs. -/
structure Alone where
  app : App
  readings : List Instant
  task : Option (String × String)

/-- What the surroundings of a request answer to its calls. -/
def respond (crates : Crates) (meets : Surroundings) : (c : Call) → Alone → Reply c × Alone
  | .instant_now, alone => (alone.readings.headD 0, { alone with readings := alone.readings.tail })
  | .utc_now, alone => (meets.utc, alone)
  | .draw_session, alone => (meets.session, alone)
  | .draw_challenge, alone => (meets.challenge, alone)
  | .draw_invite, alone => (meets.invite, alone)
  | .draw_uuid, alone => (meets.uuid, alone)
  | .reserve_attempt now, alone =>
    ((Authentication.reserve_attempt alone.app.auth now).1,
      { alone with app := { alone.app with auth := (Authentication.reserve_attempt alone.app.auth now).2 } })
  | .spawn_verification stored_hash password, alone =>
    if meets.verifier.busy then (false, alone) else (true, { alone with task := some (stored_hash, password) })
  | .join_verification, alone =>
    (if meets.verifier.lost then none else alone.task.map (fun task => crates.verify_password task.1 (bytes task.2)),
      { alone with task := none })
  | .issue_session drawn now, alone =>
    ((Authentication.issue_session crates drawn now alone.app.auth).1,
      { alone with app := { alone.app with auth := (Authentication.issue_session crates drawn now alone.app.auth).2 } })
  | .csrf_token_at token now, alone =>
    ((Authentication.csrf_token_at crates token now alone.app.auth).1,
      { alone with app := { alone.app with auth := (Authentication.csrf_token_at crates token now alone.app.auth).2 } })
  | .logout token, alone =>
    ((), { alone with app := { alone.app with auth := Authentication.logout crates token alone.app.auth } })
  | .list_recent limit, alone =>
    (if meets.fault = .none then some (InviteStorage.list_recent alone.app.store limit) else none, alone)
  | .repository call, alone =>
    ((meets.fault.perform call alone.app.store).1,
      { alone with app := { alone.app with store := (meets.fault.perform call alone.app.store).2 } })

section
variable (crates : Crates) (config : AdminConfig) (request : Request) (meets : Surroundings)

theorem eval_csrf_token (token : String) (now : Instant) (readings : List Instant) (app : App)
    (task : Option (String × String)) :
    (csrf_token token).eval (respond crates meets) ⟨app, now :: readings, task⟩ =
      ((Authentication.csrf_token_at crates token now app.auth).1,
        ⟨{ app with auth := (Authentication.csrf_token_at crates token now app.auth).2 }, readings, task⟩) := rfl

theorem eval_require_admin (now : Instant) (readings : List Instant) (app : App) (task : Option (String × String)) :
    ∃ left, (require_admin request).eval (respond crates meets) ⟨app, now :: readings, task⟩ =
      ((AdminRoutes.require_admin crates request now app.auth).1,
        ⟨{ app with auth := (AdminRoutes.require_admin crates request now app.auth).2 }, left, task⟩) := by
  unfold require_admin AdminRoutes.require_admin
  cases request.cookies SESSION_COOKIE with
  | none => exact ⟨now :: readings, rfl⟩
  | some token =>
    refine ⟨readings, ?_⟩
    dsimp only
    rw [eval_bind, eval_csrf_token]
    cases Authentication.csrf_token_at crates token now app.auth with
    | mk csrf after => cases csrf <;> rfl

theorem eval_require_admin_mutation (now : Instant) (readings : List Instant) (app : App)
    (task : Option (String × String)) (csrf : String) :
    ∃ left, (require_admin_mutation config request csrf).eval (respond crates meets) ⟨app, now :: readings, task⟩ =
      ((match (AdminRoutes.require_admin_mutation crates config request csrf now app.auth).1 with
        | some refusal => .error refusal
        | none => .ok ()),
        ⟨{ app with auth := (AdminRoutes.require_admin_mutation crates config request csrf now app.auth).2 }, left,
          task⟩) := by
  obtain ⟨left, guard⟩ := eval_require_admin crates request meets now readings app task
  refine ⟨left, ?_⟩
  unfold require_admin_mutation AdminRoutes.require_admin_mutation Program.andThen
  rw [eval_bind, guard]
  cases AdminRoutes.require_admin crates request now app.auth with
  | mk answer after =>
    cases answer with
    | error refusal => rfl
    | ok expected =>
      dsimp only
      cases require_origin config request with
      | some refusal => rfl
      | none => by_cases same : tokens_match expected csrf = true <;> simp [same]

/-- A guarded handler goes on where the guard of the routes lets it. -/
theorem eval_guarded_mutation (now : Instant) (readings : List Instant) (app : App) (task : Option (String × String))
    (csrf : String) :
    ∃ left, ∀ handler : Unit → Prog Response,
      (guarded (require_admin_mutation config request csrf) handler).eval (respond crates meets)
        ⟨app, now :: readings, task⟩ =
      match AdminRoutes.require_admin_mutation crates config request csrf now app.auth with
      | (some refusal, auth) => (.refused refusal, ⟨{ app with auth }, left, task⟩)
      | (none, auth) => (handler ()).eval (respond crates meets) ⟨{ app with auth }, left, task⟩ := by
  obtain ⟨left, guard⟩ := eval_require_admin_mutation crates config request meets now readings app task csrf
  refine ⟨left, fun handler => ?_⟩
  rw [guarded, eval_bind, guard]
  cases AdminRoutes.require_admin_mutation crates config request csrf now app.auth with
  | mk answer after => cases answer <;> rfl

/-- The two readings of a login are of the throttle and of the session. -/
theorem eval_login (auth : AdminAuth) (username password : String) (app : App) :
    ∃ left task, (login auth username password).eval (respond crates meets) ⟨app, [meets.now, meets.later], none⟩ =
      ((Authentication.login crates auth username password meets.verifier meets.now meets.later meets.session app.auth).1,
        ⟨{ app with auth := (Authentication.login crates auth username password meets.verifier meets.now meets.later
          meets.session app.auth).2 }, left, task⟩) := by
  unfold login Authentication.login
  simp only [eval_call, respond, List.headD_cons, List.tail_cons]
  cases Authentication.reserve_attempt app.auth meets.now with
  | mk reserved after =>
    cases reserved with
    | some error => exact ⟨_, _, rfl⟩
    | none =>
      dsimp only
      by_cases unusable : auth.password_hash.isEmpty ∨ 1024 < len password
      · rw [if_pos unusable, if_pos unusable]
        exact ⟨_, _, rfl⟩
      · rw [if_neg unusable, if_neg unusable]
        cases busy : meets.verifier.busy with
        | true => exact ⟨[meets.later], none, by simp [respond, busy]⟩
        | false =>
          cases lost : meets.verifier.lost with
          | true => exact ⟨[meets.later], none, by simp [respond, busy, lost]⟩
          | false =>
            cases valid : crates.verify_password auth.password_hash (bytes password) with
            | false => exact ⟨[meets.later], none, by simp [respond, busy, lost, valid]⟩
            | true =>
              by_cases named : username = auth.username
              · exact ⟨[], none, by simp [issue_session, respond, busy, lost, valid, named]⟩
              · exact ⟨[meets.later], none, by simp [respond, busy, lost, valid, named]⟩

/-- The login route. -/
theorem eval_login_handler (form : LoginForm) (app : App) :
    ∃ left task, (login_handler config request form).eval (respond crates meets) ⟨app, [meets.now, meets.later], none⟩ =
      ((AdminRoutes.login crates config request form meets app).1,
        ⟨(AdminRoutes.login crates config request form meets app).2, left, task⟩) := by
  unfold login_handler AdminRoutes.login
  cases require_origin config request with
  | some refusal => exact ⟨_, _, rfl⟩
  | none =>
    cases request.cookies LOGIN_COOKIE with
    | none => exact ⟨_, _, rfl⟩
    | some challenge =>
      by_cases same : tokens_match challenge form.csrf = true
      · obtain ⟨left, task, outcome⟩ := eval_login crates meets config.auth form.username form.password app
        refine ⟨left, task, ?_⟩
        dsimp only
        rw [if_pos same, if_pos same, eval_bind, outcome]
        cases Authentication.login crates config.auth form.username form.password meets.verifier meets.now meets.later
            meets.session app.auth with
        | mk answer after =>
          cases answer with
          | ok token => rfl
          | error error => cases error <;> rfl
      · dsimp only
        rw [if_neg same, if_neg same]
        exact ⟨_, _, rfl⟩

/-- A program whose request meets no other computes what the routes do: they
    give its response, and leave its application. -/
theorem eval_handle (app : App) :
    ∃ left task, (handle crates config request).eval (respond crates meets) ⟨app, [meets.now, meets.later], none⟩ =
      ((AdminRoutes.handle crates config request meets app).1,
        ⟨(AdminRoutes.handle crates config request meets app).2, left, task⟩) := by
  unfold handle AdminRoutes.handle
  cases request.endpoint with
  | login_page => exact ⟨_, _, rfl⟩
  | login form => exact eval_login_handler crates config request meets form app
  | admin =>
    obtain ⟨left, guard⟩ := eval_require_admin crates request meets meets.now [meets.later] app none
    refine ⟨left, none, ?_⟩
    dsimp only
    rw [admin, guarded, eval_bind, guard, AdminRoutes.admin]
    cases AdminRoutes.require_admin crates request meets.now app.auth with
    | mk answer after =>
      cases answer with
      | error refusal => rfl
      | ok csrf => by_cases quiet : meets.fault = .none <;> simp [respond, quiet]
  | logout csrf =>
    obtain ⟨left, guard⟩ := eval_guarded_mutation crates config request meets meets.now [meets.later] app none csrf
    refine ⟨left, none, ?_⟩
    dsimp only
    rw [logout, guard, AdminRoutes.logout]
    cases AdminRoutes.require_admin_mutation crates config request csrf meets.now app.auth with
    | mk answer after =>
      cases answer with
      | some refusal => rfl
      | none => cases request.cookies SESSION_COOKIE <;> rfl
  | generate_invite form =>
    obtain ⟨left, guard⟩ := eval_guarded_mutation crates config request meets meets.now [meets.later] app none form.csrf
    refine ⟨left, none, ?_⟩
    dsimp only
    rw [generate_invite, guard, AdminRoutes.generate_invite]
    cases AdminRoutes.require_admin_mutation crates config request form.csrf meets.now app.auth with
    | mk answer after =>
      cases answer with
      | some refusal => rfl
      | none =>
        simp only [store_invite, eval_call, respond]
        cases InviteRoutes.generate_invite crates form meets.invite meets.uuid meets.utc with
        | answer page => rfl
        | panic => rfl
        | create id token_hash groups_json created_at expires_at page =>
          simp only [eval_call, respond]
          cases meets.fault.perform (.create_invite id token_hash groups_json created_at expires_at none) app.store with
          | mk created store =>
            cases created with
            | none => rfl
            | some reply => cases reply <;> rfl
  | revoke_invite form =>
    obtain ⟨left, guard⟩ := eval_guarded_mutation crates config request meets meets.now [meets.later] app none form.csrf
    refine ⟨left, none, ?_⟩
    dsimp only
    rw [revoke_invite_route, guard, AdminRoutes.revoke_invite_route]
    cases AdminRoutes.require_admin_mutation crates config request form.csrf meets.now app.auth with
    | mk answer after => cases answer <;> rfl

end

end InviteSystem.AdminPrograms
