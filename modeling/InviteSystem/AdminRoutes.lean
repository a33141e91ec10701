import InviteSystem.Authentication
import InviteSystem.InviteRoutes

/-!
The administrator's routes: the guards and the login of `admin_routes.rs`, and
the handlers behind them. A request is modelled from the point on where its
form has been decoded; one whose form does not decode reaches no handler.
-/
namespace InviteSystem.AdminRoutes
open InviteSystem.Text InviteSystem.Chrono InviteSystem.Libraries InviteSystem.Tokens InviteSystem.Authentication
open InviteSystem.InviteStorage InviteSystem.InviteRoutes

def SESSION_COOKIE : String := "__Host-admin-session"
def LOGIN_COOKIE : String := "__Host-admin-login"

/-- The administrator's section of the configuration. -/
structure AdminConfig where
  auth : AdminAuth
  origin : String

structure LoginForm where
  username : String
  password : String
  csrf : String

structure RevokeInviteForm where
  csrf : String
  id : String

inductive Endpoint
  | admin
  | login_page
  | login (form : LoginForm)
  | logout (csrf : String)
  | generate_invite (form : GenerateInviteForm)
  | revoke_invite (form : RevokeInviteForm)

/-- A request: its headers in order, with the bytes of their values, and its
    cookies by name. -/
structure Request where
  headers : List (String × List UInt8)
  cookies : String → Option String
  endpoint : Endpoint

/-- What a request meets: the readings of the two clocks, the first at its
    guard; the values drawn for it; the password verifier and the database. -/
structure Surroundings where
  now : Instant
  later : Instant
  utc : Reading
  session : SessionTokens
  challenge : Token 64
  invite : Token 32
  uuid : String
  verifier : Verifier
  fault : Fault

structure App where
  auth : AuthState
  store : Database

inductive Refusal
  | unauthorized
  | forbidden
deriving DecidableEq, Repr

inductive Response
  | refused (refusal : Refusal)
  | admin_page (csrf : String) (invites : List InviteRecord)
  /-- The login page, with the cookies it sets and their lifetimes in seconds. -/
  | login_view (status : Nat) (message : String) (cookies : List (String × String × Nat))
  | see_other (location : String) (cookies : List (String × String × Nat))
  | generated (page : GeneratedPage)
  | panic
deriving DecidableEq

/-! ### Headers -/

/-- `HeaderMap::get`: the first value. -/
def Request.header (request : Request) (name : String) : Option (List UInt8) := request.headers.lookup name

/-- `HeaderValue::to_str`: only visible ASCII, blanks and tabs are readable. -/
def to_str (value : List UInt8) : Option String :=
  if value.all (fun byte => (32 ≤ byte && byte < 127) || byte == 9) then
    some (String.ofList (value.map (fun byte => Char.ofNat byte.toNat)))
  else none

def require_origin (config : AdminConfig) (request : Request) : Option Refusal :=
  let origin := (request.header "origin").bind to_str
  let fetch_site := (request.header "sec-fetch-site").bind to_str
  if origin = some config.origin ∧ config.origin ≠ "" ∧
      (fetch_site.all (fun site => site == "same-origin" || site == "none")) = true then none
  else some .forbidden

/-! ### Guards -/

def require_admin (crates : Crates) (request : Request) (now : Instant) (auth : AuthState) :
    Except Refusal String × AuthState :=
  match request.cookies SESSION_COOKIE with
  | none => (.error .unauthorized, auth)
  | some token =>
    match csrf_token_at crates token now auth with
    | (none, auth) => (.error .unauthorized, auth)
    | (some csrf, auth) => (.ok csrf, auth)

def require_admin_mutation (crates : Crates) (config : AdminConfig) (request : Request) (csrf : String)
    (now : Instant) (auth : AuthState) : Option Refusal × AuthState :=
  match require_admin crates request now auth with
  | (.error refusal, auth) => (some refusal, auth)
  | (.ok expected, auth) =>
    match require_origin config request with
    | some refusal => (some refusal, auth)
    | none => if tokens_match expected csrf then (none, auth) else (some .forbidden, auth)

/-! ### Handlers -/

def admin (crates : Crates) (request : Request) (meets : Surroundings) (app : App) : Response × App :=
  match require_admin crates request meets.now app.auth with
  | (.error refusal, auth) => (.refused refusal, { app with auth })
  | (.ok csrf, auth) =>
    -- an error of the database shows as an empty history
    (.admin_page csrf (if meets.fault = .none then list_recent app.store 20 else []), { app with auth })

def login_page (meets : Surroundings) (app : App) : Response × App :=
  (.login_view 200 "" [(LOGIN_COOKIE, meets.challenge.text, 600)], app)

def login (crates : Crates) (config : AdminConfig) (request : Request) (form : LoginForm) (meets : Surroundings)
    (app : App) : Response × App :=
  match require_origin config request with
  | some refusal => (.refused refusal, app)
  | none =>
    match request.cookies LOGIN_COOKIE with
    | none => (.refused .forbidden, app)
    | some challenge =>
      if tokens_match challenge form.csrf then
        match Authentication.login crates config.auth form.username form.password meets.verifier meets.now meets.later
            meets.session app.auth with
        | (.ok token, auth) =>
          (.login_view 303 "" [(SESSION_COOKIE, token, SESSION_SECONDS), (LOGIN_COOKIE, "", 0)], { app with auth })
        | (.error .InvalidCredentials, auth) =>
          (.login_view 401 "Sign in failed." [(LOGIN_COOKIE, meets.challenge.text, 600)], { app with auth })
        | (.error .Throttled, auth) =>
          (.login_view 429 "Too many attempts. Try again in one minute."
            [(LOGIN_COOKIE, meets.challenge.text, 600)], { app with auth })
        | (.error .Unavailable, auth) =>
          (.login_view 503 "Sign in is temporarily unavailable." [(LOGIN_COOKIE, meets.challenge.text, 600)],
            { app with auth })
      else (.refused .forbidden, app)

def logout (crates : Crates) (config : AdminConfig) (request : Request) (csrf : String) (meets : Surroundings)
    (app : App) : Response × App :=
  match require_admin_mutation crates config request csrf meets.now app.auth with
  | (some refusal, auth) => (.refused refusal, { app with auth })
  | (none, auth) =>
    match request.cookies SESSION_COOKIE with
    | none => (.refused .unauthorized, { app with auth })
    | some token =>
      (.see_other "/admin/login" [(SESSION_COOKIE, "", 0)], { app with auth := Authentication.logout crates token auth })

def generate_invite (crates : Crates) (config : AdminConfig) (request : Request) (form : GenerateInviteForm)
    (meets : Surroundings) (app : App) : Response × App :=
  match require_admin_mutation crates config request form.csrf meets.now app.auth with
  | (some refusal, auth) => (.refused refusal, { app with auth })
  | (none, auth) =>
    match InviteRoutes.generate_invite crates form meets.invite meets.uuid meets.utc with
    | .answer page => (.generated page, { app with auth })
    | .panic => (.panic, { app with auth })
    | .create id token_hash groups_json created_at expires_at page =>
      match meets.fault.perform (.create_invite id token_hash groups_json created_at expires_at none) app.store with
      | (some (.invite record), store) => (.generated (page (some record)), { auth, store })
      | (_, store) => (.generated (page none), { auth, store })

def revoke_invite_route (crates : Crates) (config : AdminConfig) (request : Request) (form : RevokeInviteForm)
    (meets : Surroundings) (app : App) : Response × App :=
  match require_admin_mutation crates config request form.csrf meets.now app.auth with
  | (some refusal, auth) => (.refused refusal, { app with auth })
  | (none, auth) =>
    -- the result of the repository call is not looked at
    (.see_other "/admin" [], { auth, store :=
      (meets.fault.perform (.revoke_invite form.id (to_rfc3339 meets.utc.time)) app.store).2 })

/-- A request from its handler on: the origin policy of topcoat has let it
    pass, and its form could be decoded. -/
def handle (crates : Crates) (config : AdminConfig) (request : Request) (meets : Surroundings) (app : App) :
    Response × App :=
  match request.endpoint with
  | .admin => admin crates request meets app
  | .login_page => login_page meets app
  | .login form => login crates config request form meets app
  | .logout csrf => logout crates config request csrf meets app
  | .generate_invite form => generate_invite crates config request form meets app
  | .revoke_invite form => revoke_invite_route crates config request form meets app

end InviteSystem.AdminRoutes
