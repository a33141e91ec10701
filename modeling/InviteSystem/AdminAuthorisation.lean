import InviteSystem.AdminRoutes
import InviteSystem.Sessions

/-!
Authorisation over whole runs of requests: only a request that carries the
token of the last login, while that session is young and not signed out, from
the configured origin and with the session's CSRF token, changes the invites or
ends the session. The session side rests on the session law: `Entry.calls` are
the calls that a request makes on the session.
-/
namespace InviteSystem.AdminAuthorisation
open InviteSystem.Text InviteSystem.Chrono InviteSystem.Libraries InviteSystem.Tokens InviteSystem.Authentication
open InviteSystem.InviteStorage InviteSystem.InviteRoutes InviteSystem.AdminRoutes InviteSystem.Sessions

/-! ### What the guards and handlers do -/

section
variable (crates : Crates) (config : AdminConfig) (request : Request)

/-- The state behind the guard, whatever its answer. -/
def guarded (now : Instant) (auth : AuthState) : AuthState :=
  match request.cookies SESSION_COOKIE with
  | none => auth
  | some token => (csrf_token_at crates token now auth).2

/-- The session cookie is answered with this CSRF token. -/
def SignedIn (csrf : String) (now : Instant) (auth : AuthState) : Prop :=
  ∃ token, request.cookies SESSION_COOKIE = some token ∧ (csrf_token_at crates token now auth).1 = some csrf

/-- All that the guard of a mutation asks for. -/
def Passes (csrf : String) (now : Instant) (auth : AuthState) : Prop :=
  SignedIn crates request csrf now auth ∧ require_origin config request = none ∧ len csrf = 64

/-- The CSRF field of the routes that change something. -/
def mutationCsrf : Endpoint → Option String
  | .logout csrf => some csrf
  | .generate_invite form => some form.csrf
  | .revoke_invite form => some form.csrf
  | .admin => none
  | .login_page => none
  | .login _ => none

variable {crates config request}

theorem require_admin_cases (crates : Crates) (request : Request) (now : Instant) (auth : AuthState) :
    (require_admin crates request now auth).2 = guarded crates request now auth ∧
      ((require_admin crates request now auth).1 = .error .unauthorized ∧
          (∀ csrf, ¬ SignedIn crates request csrf now auth) ∨
        ∃ csrf, (require_admin crates request now auth).1 = .ok csrf ∧
          (∀ other, SignedIn crates request other now auth ↔ other = csrf)) := by
  unfold require_admin guarded SignedIn
  cases request.cookies SESSION_COOKIE with
  | none => simp
  | some token =>
    cases answer : csrf_token_at crates token now auth with
    | mk result after =>
      cases result with
      | none => simp [answer]
      | some csrf => simp [answer, eq_comm]

theorem require_admin_mutation_cases (crates : Crates) (config : AdminConfig) (request : Request) (csrf : String) (now : Instant) (auth : AuthState) :
    (require_admin_mutation crates config request csrf now auth).2 = guarded crates request now auth ∧
      ((require_admin_mutation crates config request csrf now auth).1 = none ↔
        Passes crates config request csrf now auth) := by
  obtain ⟨state, answer⟩ := require_admin_cases crates request now auth
  unfold require_admin_mutation Passes
  cases guard : require_admin crates request now auth with
  | mk result after =>
    rw [guard] at state answer
    rcases answer with ⟨refused, signedOut⟩ | ⟨expected, accepted, signedIn⟩
    · cases refused
      exact ⟨state, by simp [signedOut]⟩
    · cases accepted
      cases origin : require_origin config request with
      | some refusal => exact ⟨state, by simp⟩
      | none =>
        by_cases same : tokens_match expected csrf = true
        · obtain ⟨length, rfl⟩ := tokens_match_iff.mp same
          exact ⟨by simp [same, state], by simp [same, signedIn, length]⟩
        · have other : ¬ (csrf = expected ∧ len csrf = 64) := by
            rintro ⟨rfl, length⟩
            exact same (tokens_match_iff.mpr ⟨length, rfl⟩)
          exact ⟨by simp [same, state], by simpa [same, signedIn] using other⟩

theorem guard_refused {csrf : String} {now : Instant} {auth : AuthState}
    (refused : ¬ Passes crates config request csrf now auth) :
    ∃ refusal, require_admin_mutation crates config request csrf now auth =
      (some refusal, guarded crates request now auth) := by
  obtain ⟨state, answer⟩ := require_admin_mutation_cases crates config request csrf now auth
  cases result : (require_admin_mutation crates config request csrf now auth).1 with
  | none => exact absurd (answer.mp result) refused
  | some refusal => exact ⟨refusal, Prod.ext result state⟩

theorem guard_passed {csrf : String} {now : Instant} {auth : AuthState}
    (passes : Passes crates config request csrf now auth) :
    require_admin_mutation crates config request csrf now auth = (none, guarded crates request now auth) := by
  obtain ⟨state, answer⟩ := require_admin_mutation_cases crates config request csrf now auth
  exact Prod.ext (answer.mpr passes) state

/-- A mutation that its guard refuses does nothing but read the session. -/
theorem mutation_refused {csrf : String} {meets : Surroundings} {app : App}
    (route : mutationCsrf request.endpoint = some csrf) (refused : ¬ Passes crates config request csrf meets.now app.auth) :
    ∃ refusal, handle crates config request meets app =
      (.refused refusal, { app with auth := guarded crates request meets.now app.auth }) := by
  obtain ⟨refusal, guard⟩ := guard_refused refused
  refine ⟨refusal, ?_⟩
  unfold handle
  cases endpoint : request.endpoint with
  | logout field =>
    rw [endpoint] at route
    cases route
    simp only [AdminRoutes.logout, guard]
  | generate_invite form =>
    rw [endpoint] at route
    cases route
    simp only [AdminRoutes.generate_invite, guard]
  | revoke_invite form =>
    rw [endpoint] at route
    cases route
    simp only [revoke_invite_route, guard]
  | admin => rw [endpoint] at route; cases route
  | login_page => rw [endpoint] at route; cases route
  | login form => rw [endpoint] at route; cases route

theorem logout_passed {csrf token : String} {meets : Surroundings} {app : App}
    (endpoint : request.endpoint = .logout csrf) (cookie : request.cookies SESSION_COOKIE = some token)
    (passes : Passes crates config request csrf meets.now app.auth) :
    handle crates config request meets app = (.see_other "/admin/login" [(SESSION_COOKIE, "", 0)],
      { app with auth := Authentication.logout crates token (guarded crates request meets.now app.auth) }) := by
  simp only [handle, endpoint, AdminRoutes.logout, guard_passed passes, cookie]

/-- Generating and revoking invites leaves the session to the guard. -/
theorem invites_auth {csrf : String} {meets : Surroundings} {app : App}
    (route : mutationCsrf request.endpoint = some csrf) (notLogout : request.endpoint ≠ .logout csrf) :
    (handle crates config request meets app).2.auth = guarded crates request meets.now app.auth := by
  by_cases passes : Passes crates config request csrf meets.now app.auth
  · have guard := guard_passed passes
    unfold handle
    cases endpoint : request.endpoint with
    | logout field =>
      rw [endpoint] at route
      cases route
      exact absurd endpoint notLogout
    | generate_invite form =>
      rw [endpoint] at route
      cases route
      simp only [AdminRoutes.generate_invite, guard]
      split
      · rfl
      · rfl
      · split <;> rfl
    | revoke_invite form =>
      rw [endpoint] at route
      cases route
      simp only [revoke_invite_route, guard]
    | admin => rw [endpoint] at route; cases route
    | login_page => rw [endpoint] at route; cases route
    | login form => rw [endpoint] at route; cases route
  · obtain ⟨refusal, refused⟩ := mutation_refused route passes
    rw [refused]

/-- The admin page only reads, and is shown only to a signed-in administrator. -/
theorem admin_cases (crates : Crates) (config : AdminConfig) (meets : Surroundings) (app : App)
    (endpoint : request.endpoint = .admin) :
    (handle crates config request meets app).2 = { app with auth := guarded crates request meets.now app.auth } ∧
      ∀ csrf invites, (handle crates config request meets app).1 = .admin_page csrf invites →
        SignedIn crates request csrf meets.now app.auth := by
  obtain ⟨state, answer⟩ := require_admin_cases crates request meets.now app.auth
  simp only [handle, endpoint, admin]
  cases guard : require_admin crates request meets.now app.auth with
  | mk result after =>
    rw [guard] at state answer
    rcases answer with ⟨refused, _⟩ | ⟨expected, accepted, signedIn⟩
    · cases refused
      exact ⟨by rw [← state], by simp⟩
    · cases accepted
      refine ⟨by rw [← state], ?_⟩
      intro csrf invites page
      cases page
      exact (signedIn _).mpr rfl

/-- A login leaves the session alone and shows no redirection, or issues the session whose token it returns. -/
theorem login_handled (crates : Crates) (config : AdminConfig) {form : LoginForm} (meets : Surroundings) (app : App)
    (endpoint : request.endpoint = .login form) :
    (handle crates config request meets app).2.store = app.store ∧
    (((∀ message cookies, (handle crates config request meets app).1 ≠ .login_view 303 message cookies) ∧
        (handle crates config request meets app).2.auth.session = app.auth.session) ∨
      (config.auth.password_hash ≠ "" ∧
        (handle crates config request meets app).1 = .login_view 303 ""
          [(SESSION_COOKIE, meets.session.token.text, SESSION_SECONDS), (LOGIN_COOKIE, "", 0)] ∧
        (handle crates config request meets app).2.auth.session = some ⟨hash_token crates meets.session.token.text,
          meets.session.csrf.text, meets.later + from_secs SESSION_SECONDS⟩)) := by
  simp only [handle, endpoint, AdminRoutes.login]
  cases require_origin config request with
  | some refusal => exact ⟨rfl, .inl ⟨by simp, rfl⟩⟩
  | none =>
    cases request.cookies LOGIN_COOKIE with
    | none => exact ⟨rfl, .inl ⟨by simp, rfl⟩⟩
    | some challenge =>
      by_cases same : tokens_match challenge form.csrf = true
      · dsimp only
        rw [if_pos same]
        have cases := login_cases crates config.auth form.username form.password meets.verifier meets.now meets.later
          meets.session app.auth
        cases outcome : Authentication.login crates config.auth form.username form.password meets.verifier meets.now
            meets.later meets.session app.auth with
        | mk answer after =>
          rw [outcome] at cases
          rcases cases with ⟨⟨error, failed⟩, session⟩ | ⟨configured, succeeded, session⟩
          · cases failed
            cases error <;> exact ⟨rfl, .inl ⟨by simp, session⟩⟩
          · cases succeeded
            exact ⟨rfl, .inr ⟨configured, rfl, session⟩⟩
      · dsimp only
        rw [if_neg same]
        exact ⟨rfl, .inl ⟨by simp, rfl⟩⟩

end

/-! ### Runs -/

/-- What happens to the application: a request to the administrator's routes,
    or a repository call of anything else in the program, which has no access
    to the session. -/
inductive Event
  | arrival (request : Request) (meets : Surroundings)
  | elsewhere (call : InviteStorage.Call) (fault : Fault)

/-- An event with its response. -/
abbrev Entry := Event × Option Response

def Event.apply (crates : Crates) (config : AdminConfig) (app : App) : Event → Option Response × App
  | .arrival request meets =>
    (some (handle crates config request meets app).1, (handle crates config request meets app).2)
  | .elsewhere call fault => (none, { app with store := (fault.perform call app.store).2 })

/-- The entries of a run, and the application after it. -/
def run (crates : Crates) (config : AdminConfig) (start : App) (events : List Event) : List Entry × App :=
  events.foldl (fun done event =>
    (done.1 ++ [(event, (event.apply crates config done.2).1)], (event.apply crates config done.2).2)) ([], start)

theorem run_snoc (crates : Crates) (config : AdminConfig) (start : App) (events : List Event) (event : Event) :
    run crates config start (events ++ [event]) =
      ((run crates config start events).1 ++ [(event, (event.apply crates config (run crates config start events).2).1)],
        (event.apply crates config (run crates config start events).2).2) := by
  simp [run, List.foldl_append]

/-- The tokens that the event issues or supplies. -/
def Event.tokens : Event → List String
  | .arrival request meets =>
    match request.endpoint with
    | .login _ => [meets.session.token.text]
    | _ => (request.cookies SESSION_COOKIE).toList
  | .elsewhere _ _ => []

/-- A login that returned this token. -/
def SignsIn (entry : Entry) (token : String) (csrf : String) (issuedAt : Instant) : Prop :=
  ∃ request meets form, request.endpoint = .login form ∧ meets.session.csrf.text = csrf ∧ meets.later = issuedAt ∧
    entry = (.arrival request meets, some (.login_view 303 "" [(SESSION_COOKIE, token, SESSION_SECONDS), (LOGIN_COOKIE, "", 0)]))

/-- A logout that this token was signed out by. -/
def SignsOut (entry : Entry) (token : String) : Prop :=
  ∃ request meets csrf, request.endpoint = .logout csrf ∧ request.cookies SESSION_COOKIE = some token ∧
    entry = (.arrival request meets, some (.see_other "/admin/login" [(SESSION_COOKIE, "", 0)]))

/-- The most recent successful login returned this token, with this CSRF token
    for its session, at this time; and the token was not signed out since. -/
def LoggedIn (entries : List Entry) (token csrf : String) (issuedAt : Instant) : Prop :=
  ∃ earlier entry since, entries = earlier ++ entry :: since ∧ SignsIn entry token csrf issuedAt ∧
    ∀ later ∈ since, (∀ token csrf issuedAt, ¬ SignsIn later token csrf issuedAt) ∧ ¬ SignsOut later token

/-- The calls on the session that the event made. -/
def calls : Entry → List Sessions.Call
  | (.arrival request meets, some response) =>
    let reads := (request.cookies SESSION_COOKIE).toList.map (Sessions.Call.csrf_token · meets.now)
    match request.endpoint, response with
    | .login_page, _ => []
    | .login _, .login_view 303 _ _ => [.issue_session meets.session meets.later]
    | .login _, _ => []
    | .logout _, .see_other _ _ => reads ++ (request.cookies SESSION_COOKIE).toList.map .logout
    | _, _ => reads
  | _ => []

section
variable {crates : Crates} {config : AdminConfig}

/-- The response is the one that the routes gave in some state. -/
def Genuine (crates : Crates) (config : AdminConfig) (entry : Entry) : Prop :=
  ∃ app, entry.2 = (entry.1.apply crates config app).1

theorem run_genuine (start : App) (events : List Event) :
    ∀ entry ∈ (run crates config start events).1, Genuine crates config entry := by
  induction events using List.reverseRecOn with
  | nil => simp [run]
  | append_singleton events event ih =>
    rw [run_snoc]
    intro entry member
    rcases List.mem_append.mp member with old | new
    · exact ih entry old
    · rw [List.mem_singleton.mp new]
      exact ⟨_, rfl⟩

theorem run_events (start : App) (events : List Event) : (run crates config start events).1.map Prod.fst = events := by
  induction events using List.reverseRecOn with
  | nil => rfl
  | append_singleton events event ih => simp [run_snoc, ih]

/-- A response that is neither a login's nor a logout's comes with reads of the session alone. -/
private theorem calls_reads {request : Request} {meets : Surroundings} {response : Option Response}
    (notLogin : ∀ form, request.endpoint ≠ .login form) (notLogout : ∀ csrf, request.endpoint ≠ .logout csrf) :
    ∃ reads : List (String × Instant), calls (.arrival request meets, response) =
      reads.map (fun read => .csrf_token read.1 read.2) := by
  cases response with
  | none => exact ⟨[], rfl⟩
  | some response =>
    cases endpoint : request.endpoint with
    | login form => exact absurd endpoint (notLogin form)
    | logout csrf => exact absurd endpoint (notLogout csrf)
    | login_page => exact ⟨[], by simp [calls, endpoint]⟩
    | admin => exact ⟨(request.cookies SESSION_COOKIE).toList.map (·, meets.now), by simp [calls, endpoint]⟩
    | generate_invite form => exact ⟨(request.cookies SESSION_COOKIE).toList.map (·, meets.now), by simp [calls, endpoint]⟩
    | revoke_invite form => exact ⟨(request.cookies SESSION_COOKIE).toList.map (·, meets.now), by simp [calls, endpoint]⟩

private theorem signsIn_login {request : Request} {meets : Surroundings} {response : Option Response}
    {token csrf : String} {issuedAt : Instant} (signsIn : SignsIn (.arrival request meets, response) token csrf issuedAt) :
    (∃ form, request.endpoint = .login form) ∧
      response = some (.login_view 303 "" [(SESSION_COOKIE, token, SESSION_SECONDS), (LOGIN_COOKIE, "", 0)]) := by
  obtain ⟨request', meets', form, endpoint, _, _, same⟩ := signsIn
  cases same
  exact ⟨⟨form, endpoint⟩, rfl⟩

private theorem signsOut_logout {request : Request} {meets : Surroundings} {response : Option Response} {token : String}
    (signsOut : SignsOut (.arrival request meets, response) token) :
    (∃ csrf, request.endpoint = .logout csrf) ∧
      response = some (.see_other "/admin/login" [(SESSION_COOKIE, "", 0)]) := by
  obtain ⟨request', meets', csrf, endpoint, _, same⟩ := signsOut
  cases same
  exact ⟨⟨csrf, endpoint⟩, rfl⟩

/-- A login signs in with the session that it issues, or makes no call. -/
private theorem login_calls {request : Request} {meets : Surroundings} {app : App} {form : LoginForm}
    (endpoint : request.endpoint = .login form) {response : Option Response}
    (answer : response = some (handle crates config request meets app).1) :
    (∃ drawn issuedAt, SignsIn (.arrival request meets, response) drawn.token.text drawn.csrf.text issuedAt ∧
      calls (.arrival request meets, response) = [.issue_session drawn issuedAt]) ∨
    ((∀ token csrf issuedAt, ¬ SignsIn (.arrival request meets, response) token csrf issuedAt) ∧
      calls (.arrival request meets, response) = []) := by
  obtain ⟨_, ⟨notShown, _⟩ | ⟨_, shown, _⟩⟩ := login_handled crates config meets app endpoint
  · right
    refine ⟨?_, ?_⟩
    · intro token csrf issuedAt signsIn
      have accepted := (signsIn_login signsIn).2
      rw [answer] at accepted
      exact notShown _ _ (Option.some.inj accepted)
    · rw [answer]
      simp only [calls, endpoint]
  · left
    rw [shown] at answer
    refine ⟨meets.session, meets.later, ⟨request, meets, form, endpoint, rfl, rfl, by rw [answer]⟩, ?_⟩
    rw [answer]
    simp [calls, endpoint]

/-- A logout signs out the token that it reads, or only reads the session. -/
private theorem logout_calls {request : Request} {meets : Surroundings} {app : App} {csrf : String}
    (endpoint : request.endpoint = .logout csrf) {response : Option Response}
    (answer : response = some (handle crates config request meets app).1) :
    (∃ token now, SignsOut (.arrival request meets, response) token ∧
      calls (.arrival request meets, response) = [.csrf_token token now, .logout token]) ∨
    ((∀ token, ¬ SignsOut (.arrival request meets, response) token) ∧ ∃ reads : List (String × Instant),
      calls (.arrival request meets, response) = reads.map (fun read => .csrf_token read.1 read.2)) := by
  have route : mutationCsrf request.endpoint = some csrf := by rw [endpoint]; rfl
  by_cases passes : Passes crates config request csrf meets.now app.auth
  · obtain ⟨token, cookie, _⟩ := passes.1
    rw [logout_passed endpoint cookie passes] at answer
    refine .inl ⟨token, meets.now, ⟨request, meets, csrf, endpoint, cookie, by rw [answer]⟩, ?_⟩
    rw [answer]
    simp [calls, endpoint, cookie]
  · obtain ⟨refusal, refused⟩ := mutation_refused route passes
    rw [refused] at answer
    refine .inr ⟨?_, (request.cookies SESSION_COOKIE).toList.map (·, meets.now), ?_⟩
    · intro token signsOut
      cases answer.symm.trans (signsOut_logout signsOut).2
    · rw [answer]
      simp [calls, endpoint]

/-- A request signs in, or signs out, or only reads the session. -/
theorem calls_cases {entry : Entry} (genuine : Genuine crates config entry) :
    (∃ drawn issuedAt, SignsIn entry drawn.token.text drawn.csrf.text issuedAt ∧
      calls entry = [.issue_session drawn issuedAt]) ∨
    ((∀ token csrf issuedAt, ¬ SignsIn entry token csrf issuedAt) ∧
      ((∃ token now, SignsOut entry token ∧ calls entry = [.csrf_token token now, .logout token]) ∨
        ((∀ token, ¬ SignsOut entry token) ∧ ∃ reads : List (String × Instant),
          calls entry = reads.map (fun read => .csrf_token read.1 read.2)))) := by
  obtain ⟨event, response⟩ := entry
  obtain ⟨app, answer⟩ := genuine
  cases event with
  | elsewhere call fault =>
    refine .inr ⟨?_, .inr ⟨?_, [], rfl⟩⟩
    · rintro token csrf issuedAt ⟨request, meets, form, _, _, _, same⟩
      cases same
    · rintro token ⟨request, meets, csrf, _, _, same⟩
      cases same
  | arrival request meets =>
    simp only [Event.apply] at answer
    by_cases login : ∃ form, request.endpoint = .login form
    · obtain ⟨form, endpoint⟩ := login
      rcases login_calls endpoint answer with signsIn | ⟨notIn, none⟩
      · exact .inl signsIn
      · refine .inr ⟨notIn, .inr ⟨?_, [], none⟩⟩
        intro token signsOut
        obtain ⟨csrf, logout⟩ := (signsOut_logout signsOut).1
        cases endpoint.symm.trans logout
    · refine .inr ⟨fun token csrf issuedAt signsIn => login (signsIn_login signsIn).1, ?_⟩
      by_cases logout : ∃ csrf, request.endpoint = .logout csrf
      · obtain ⟨csrf, endpoint⟩ := logout
        exact logout_calls endpoint answer
      · refine .inr ⟨fun token signsOut => logout (signsOut_logout signsOut).1, ?_⟩
        push Not at login logout
        exact calls_reads login logout

theorem loggedIn_snoc {entries : List Entry} {entry : Entry} {token csrf : String} {issuedAt : Instant}
    (loggedIn : LoggedIn entries token csrf issuedAt)
    (notIn : ∀ token csrf issuedAt, ¬ SignsIn entry token csrf issuedAt) (notOut : ¬ SignsOut entry token) :
    LoggedIn (entries ++ [entry]) token csrf issuedAt := by
  obtain ⟨earlier, login, since, rfl, signsIn, quiet⟩ := loggedIn
  refine ⟨earlier, login, since ++ [entry], by simp, signsIn, ?_⟩
  intro later member
  rcases List.mem_append.mp member with old | new
  · exact quiet later old
  · rw [List.mem_singleton.mp new]
    exact ⟨notIn, notOut⟩

theorem current_append (history more : List Sessions.Call) :
    current (history ++ more) = more.foldl Call.next (current history) := by
  simp [current, List.foldl_append]

theorem current_reads (history : List Sessions.Call) (reads : List (String × Instant)) :
    current (history ++ reads.map (fun read => .csrf_token read.1 read.2)) = current history := by
  induction reads using List.reverseRecOn with
  | nil => simp
  | append_singleton reads read ih =>
    rw [List.map_append, ← List.append_assoc]
    simp only [List.map_cons, List.map_nil, current_snoc, Call.next, ih]

/-- The session that the calls of a run stand for was issued by its last login. -/
theorem loggedIn_of_current {entries : List Entry} (genuine : ∀ entry ∈ entries, Genuine crates config entry)
    {issued : Issued} (shape : current (entries.flatMap calls) = some issued) :
    LoggedIn entries issued.drawn.token.text issued.drawn.csrf.text issued.issuedAt := by
  induction entries using List.reverseRecOn generalizing issued with
  | nil => simp [current] at shape
  | append_singleton entries entry ih =>
    have before : ∀ issued, current (entries.flatMap calls) = some issued →
        LoggedIn entries issued.drawn.token.text issued.drawn.csrf.text issued.issuedAt :=
      fun issued => ih (fun entry member => genuine entry (List.mem_append_left _ member))
    rw [List.flatMap_append, List.flatMap_singleton] at shape
    rcases calls_cases (genuine entry (by simp)) with
      ⟨drawn, issuedAt, signsIn, made⟩ | ⟨notIn, ⟨token, now, signsOut, made⟩ | ⟨notOut, reads, made⟩⟩
    · rw [made, current_snoc] at shape
      cases shape
      exact ⟨entries, entry, [], rfl, signsIn, by simp⟩
    · rw [made, current_append] at shape
      simp only [List.foldl_cons, List.foldl_nil, Call.next, Option.filter_eq_some_iff] at shape
      refine loggedIn_snoc (before issued shape.1) notIn ?_
      rintro ⟨request, meets, csrf, _, cookie, rfl⟩
      obtain ⟨request', meets', csrf', _, cookie', same⟩ := signsOut
      cases same
      rw [cookie] at cookie'
      cases cookie'
      simp at shape
    · rw [made, current_reads] at shape
      exact loggedIn_snoc (before issued shape) notIn (notOut _)

/-! ### The session during a run -/

theorem tracks_guarded {history : List Sessions.Call} {auth : AuthState} (request : Request) (now : Instant)
    (tracks : Tracks crates history auth) :
    Tracks crates (history ++ (request.cookies SESSION_COOKIE).toList.map (Sessions.Call.csrf_token · now))
      (guarded crates request now auth) := by
  unfold guarded
  cases request.cookies SESSION_COOKIE with
  | none => simpa using tracks
  | some token => exact tracks_csrf_token tracks

/-- The calls hash tokens of the event, and read the clock when it does. -/
theorem calls_within (entry : Entry) : (calls entry).map Call.hashed ⊆ entry.1.tokens := by
  obtain ⟨event, response⟩ := entry
  cases event with
  | elsewhere call fault => simp [calls]
  | arrival request meets =>
    cases response with
    | none => simp [calls]
    | some response =>
      simp only [calls, Event.tokens]
      cases request.endpoint with
      | login form => split <;> simp_all [Call.hashed]
      | logout csrf => cases response <;> cases request.cookies SESSION_COOKIE <;> simp [Call.hashed]
      | login_page => simp
      | admin => cases request.cookies SESSION_COOKIE <;> simp [Call.hashed]
      | generate_invite form => cases request.cookies SESSION_COOKIE <;> simp [Call.hashed]
      | revoke_invite form => cases request.cookies SESSION_COOKIE <;> simp [Call.hashed]

theorem tracks_event {history : List Sessions.Call} {event : Event} {app : App}
    (distinct : NoCollision crates (event.tokens ++ history.map Call.hashed)) (tracks : Tracks crates history app.auth) :
    Tracks crates (history ++ calls (event, (event.apply crates config app).1))
      (event.apply crates config app).2.auth := by
  cases event with
  | elsewhere call fault => simpa [calls, Event.apply] using tracks
  | arrival request meets =>
    have guard := tracks_guarded request meets.now tracks
    simp only [Event.apply]
    cases endpoint : request.endpoint with
    | login_page => simpa [calls, endpoint, handle, login_page] using tracks
    | login form =>
      obtain ⟨_, ⟨notShown, session⟩ | ⟨_, shown, session⟩⟩ := login_handled crates config meets app endpoint
      · have none : calls (.arrival request meets, some (handle crates config request meets app).1) = [] := by
          simp [calls, endpoint]
        rw [none, List.append_nil]
        exact tracks.congr session
      · rw [shown]
        simp only [calls, endpoint]
        exact tracks_issue_session session
    | admin =>
      rw [(admin_cases crates config meets app endpoint).1]
      simpa [calls, endpoint] using guard
    | logout csrf =>
      have route : mutationCsrf request.endpoint = some csrf := by rw [endpoint]; rfl
      by_cases passes : Passes crates config request csrf meets.now app.auth
      · obtain ⟨token, cookie, _⟩ := passes.1
        rw [logout_passed endpoint cookie passes]
        simp only [calls, endpoint, cookie, Option.toList_some, List.map_cons, List.map_nil] at guard ⊢
        rw [← List.append_assoc]
        refine tracks_logout (distinct.mono ?_) guard
        simp only [Event.tokens, endpoint, cookie, Option.toList_some, List.map_append, List.map_cons, List.map_nil]
        intro text member
        simp only [List.mem_cons, List.mem_append, List.not_mem_nil, or_false, Call.hashed] at member ⊢
        rcases member with new | old | same
        · exact .inl new
        · exact .inr old
        · exact .inl same
      · obtain ⟨refusal, refused⟩ := mutation_refused route passes
        rw [refused]
        simpa [calls, endpoint] using guard
    | generate_invite form =>
      have route : mutationCsrf request.endpoint = some form.csrf := by rw [endpoint]; rfl
      rw [invites_auth route (by rw [endpoint]; rintro ⟨⟩)]
      simpa [calls, endpoint] using guard
    | revoke_invite form =>
      have route : mutationCsrf request.endpoint = some form.csrf := by rw [endpoint]; rfl
      rw [invites_auth route (by rw [endpoint]; rintro ⟨⟩)]
      simpa [calls, endpoint] using guard

theorem entries_hashed (start : App) (events : List Event) :
    ((run crates config start events).1.flatMap calls).map Call.hashed ⊆ events.flatMap Event.tokens := by
  intro text member
  obtain ⟨call, made, rfl⟩ := List.mem_map.mp member
  obtain ⟨entry, entered, made⟩ := List.mem_flatMap.mp made
  have event : entry.1 ∈ events := by
    rw [← run_events start events]
    exact List.mem_map_of_mem entered
  exact List.mem_flatMap.mpr ⟨entry.1, event, calls_within entry (List.mem_map_of_mem made)⟩

/-- Along every run, the session is the one that the calls of its requests stand for. -/
theorem run_tracks (config : AdminConfig) (started : Instant) (store : Database) {events : List Event}
    (distinct : NoCollision crates (events.flatMap Event.tokens)) :
    Tracks crates ((run crates config ⟨.initial started, store⟩ events).1.flatMap calls)
      (run crates config ⟨.initial started, store⟩ events).2.auth := by
  induction events using List.reverseRecOn with
  | nil => exact tracks_initial started
  | append_singleton events event ih =>
    rw [List.flatMap_append, List.flatMap_singleton] at distinct
    have before := ih (distinct.mono (List.subset_append_left ..))
    rw [run_snoc, List.flatMap_append, List.flatMap_singleton]
    refine tracks_event (distinct.mono ?_) before
    intro text member
    rcases List.mem_append.mp member with new | old
    · exact List.mem_append_right _ new
    · exact List.mem_append_left _ (entries_hashed _ events old)

/-! ### Authorisation -/

def FromOrigin (config : AdminConfig) (request : Request) : Prop :=
  config.origin ≠ "" ∧ (request.header "origin").bind to_str = some config.origin

/-- A header that cannot be read as visible ASCII counts as absent. -/
def FetchSiteAccepted (request : Request) : Prop :=
  ∀ site, (request.header "sec-fetch-site").bind to_str = some site → site = "same-origin" ∨ site = "none"

/-- The session cookie is the token of the last login, less than eight hours
    old and not signed out, and `csrf` is the CSRF token of its session. -/
def TokenAuthorised (entries : List Entry) (request : Request) (csrf : String) (now : Instant) : Prop :=
  ∃ token issuedAt, request.cookies SESSION_COOKIE = some token ∧ LoggedIn entries token csrf issuedAt ∧
    now < issuedAt + from_secs SESSION_SECONDS

def MutationAuthorised (config : AdminConfig) (entries : List Entry) (request : Request) (csrf : String)
    (now : Instant) : Prop :=
  TokenAuthorised entries request csrf now ∧ FromOrigin config request ∧ FetchSiteAccepted request

/-- Nothing is changed, but an expired session may have been dropped. -/
def Untouched (before after : App) (now : Instant) : Prop :=
  after.store = before.store ∧ (after.auth.session = before.auth.session ∨
    (after.auth.session = none ∧ ∃ session, before.auth.session = some session ∧ session.expires ≤ now))

theorem require_origin_iff {request : Request} :
    require_origin config request = none ↔ FromOrigin config request ∧ FetchSiteAccepted request := by
  unfold require_origin FromOrigin FetchSiteAccepted
  cases (request.header "sec-fetch-site").bind to_str with
  | none => simp [and_comm]
  | some site => by_cases direct : site = "none" <;> simp [direct, and_comm, and_assoc]

theorem guarded_untouched (request : Request) (now : Instant) (app : App) :
    Untouched app { app with auth := guarded crates request now app.auth } now := by
  refine ⟨rfl, ?_⟩
  unfold guarded
  cases request.cookies SESSION_COOKIE with
  | none => exact .inl rfl
  | some token =>
    rcases csrf_token_at_state crates token now app.auth with same | ⟨dropped, expired⟩
    · exact .inl (congrArg AuthState.session same)
    · exact .inr ⟨congrArg AuthState.session dropped, expired⟩

theorem signedIn_authorised {start : App} {events : List Event} {request : Request} {csrf : String} {now : Instant}
    {auth : AuthState} (distinct : NoCollision crates ((request.cookies SESSION_COOKIE).toList ++ events.flatMap Event.tokens))
    (tracks : Tracks crates ((run crates config start events).1.flatMap calls) auth)
    (signedIn : SignedIn crates request csrf now auth) :
    TokenAuthorised (run crates config start events).1 request csrf now := by
  obtain ⟨token, cookie, answer⟩ := signedIn
  obtain ⟨_, session, live, young, matched, rfl⟩ := csrf_token_at_eq_some.mp answer
  obtain ⟨issued, shape, rfl⟩ := tracks.stored live
  have own : issued.drawn.token.text = token := by
    refine distinct _ ?_ token ?_ (sha256_of_hash_token (stored_hash_match.mp matched))
    · exact List.mem_append_right _ (entries_hashed start events (hashed_of_current shape))
    · simp [cookie]
  have loggedIn := loggedIn_of_current (run_genuine start events) shape
  rw [own] at loggedIn
  exact ⟨token, issued.issuedAt, cookie, loggedIn, young⟩

/-- Without a configured password no run has a login in it. -/
theorem TokenAuthorised.configured {start : App} {events : List Event} {request : Request} {csrf : String} {now : Instant}
    (token : TokenAuthorised (run crates config start events).1 request csrf now) : config.auth.password_hash ≠ "" := by
  obtain ⟨text, issuedAt, _, ⟨earlier, entry, since, shape, ⟨request', meets, form, endpoint, _, _, rfl⟩, _⟩, _⟩ := token
  obtain ⟨app, answer⟩ := run_genuine start events
    (.arrival request' meets, some (.login_view 303 "" [(SESSION_COOKIE, text, SESSION_SECONDS), (LOGIN_COOKIE, "", 0)]))
    (by rw [shape]; simp)
  obtain ⟨_, ⟨notShown, _⟩ | ⟨configured, _⟩⟩ := login_handled crates config meets app endpoint
  · exact absurd (Option.some.inj answer).symm (notShown _ _)
  · exact configured

end

/-- After any run of requests and repository calls on a freshly initialised
    application: a request to the mutating routes is authorised or changes
    nothing, the admin page is shown only to an authorised token and changes
    nothing, and without a configured password none of this is ever granted. -/
theorem admin_authorised (crates : Crates) (config : AdminConfig) (started : Instant) (store : Database)
    (history : List Event) (request : Request) (meets : Surroundings)
    (distinct : NoCollision crates ((request.cookies SESSION_COOKIE).toList ++ history.flatMap Event.tokens))
    (before : List Entry × App) (ran : run crates config ⟨.initial started, store⟩ history = before)
    (outcome : Response × App) (handled : handle crates config request meets before.2 = outcome) :
    (∀ csrf, mutationCsrf request.endpoint = some csrf →
      (MutationAuthorised config before.1 request csrf meets.now ∧ config.auth.password_hash ≠ "") ∨
        Untouched before.2 outcome.2 meets.now) ∧
    (request.endpoint = .admin → Untouched before.2 outcome.2 meets.now ∧
      ∀ csrf invites, outcome.1 = .admin_page csrf invites →
        TokenAuthorised before.1 request csrf meets.now ∧ config.auth.password_hash ≠ "") := by
  subst ran handled
  have tracks := run_tracks config started store (distinct.mono (List.subset_append_right ..))
  constructor
  · intro csrf route
    by_cases passes : Passes crates config request csrf meets.now (run crates config ⟨.initial started, store⟩ history).2.auth
    · have token := signedIn_authorised distinct tracks passes.1
      exact .inl ⟨⟨token, require_origin_iff.mp passes.2.1⟩, token.configured⟩
    · obtain ⟨refusal, refused⟩ := mutation_refused route passes
      rw [refused]
      exact .inr (guarded_untouched request meets.now _)
  · intro endpoint
    obtain ⟨state, shown⟩ := admin_cases crates config meets _ endpoint
    refine ⟨by rw [state]; exact guarded_untouched request meets.now _, ?_⟩
    intro csrf invites page
    have token := signedIn_authorised distinct tracks (shown csrf invites page)
    exact ⟨token, token.configured⟩

/-! ### A run -/

private def adminSession : SessionTokens where
  token := ⟨"Lq7VwXc2RzT9bNfK4mYd1JhGsP6uE8aAo3Bi5DtCvMrWxQyZkSgFnUjHpIeO0l2T".toList, by decide, List.all_eq_true.mp (by decide)⟩
  csrf := ⟨"m4TzR8wQk1VbXc6YnLs0HdJf3GpEu9Ao7Bi2CvDtFhKxMyNqPrSgWjZaUeIlO5Tb".toList, by decide, List.all_eq_true.mp (by decide)⟩

private def adminChallenge : Token 64 :=
  ⟨"Qa1Ws2Ed3Rf4Tg5Yh6Uj7Ik8Ol9Pz0XcVbNmAsDfGhJkLpOiUyTrEwQqZxCvBnMm".toList, by decide, List.all_eq_true.mp (by decide)⟩

private def adminInvite : Token 32 := ⟨"Hn3KxTq8VzLb5RwMc7YdJ2sFg9PfUeA1".toList, by decide, List.all_eq_true.mp (by decide)⟩

private def adminConfig : AdminConfig where
  auth := ⟨"operator", "$argon2id$v=19$m=19456,t=2,p=1$T03eA4poqCz9APm0+Lk2+A$oVFDns8m9MWCQ27wQTMH4KtltT+6dpnDd5NqdG8cV2k"⟩
  origin := "https://invite.example.com"

private def adminCrates : Crates where
  sha256 := fun input =>
    if input = bytes adminSession.token.text then
      #v[114, 12, 138, 70, 248, 107, 33, 98, 20, 53, 51, 9, 197, 93, 200, 164, 41, 2, 47, 116, 194, 78, 70, 30, 214, 167, 124, 186, 83, 246, 231, 93]
    else if input = bytes adminInvite.text then
      #v[37, 105, 92, 74, 218, 97, 83, 45, 230, 220, 113, 238, 87, 72, 231, 5, 162, 171, 42, 124, 42, 96, 31, 17, 9, 141, 165, 123, 188, 142, 2, 105]
    else Vector.replicate 32 0
  parse_datetime := fun _ => none
  groups_to_json := fun groups => if groups = ["staff"] then "[\"staff\"]" else "[]"
  groups_from_json := fun _ => none
  verify_password := fun hash password =>
    hash = adminConfig.auth.password_hash ∧ password = bytes "test-only admin password"
  is_uppercase := Char.isUpper
  is_lowercase := Char.isLower
  is_numeric := Char.isDigit
  is_alphanumeric := Char.isAlphanum

/-- All that the sample requests meet, at the given second. -/
private def adminMeets (second : Nat) : Surroundings where
  now := from_secs second
  later := from_secs second
  utc := ⟨⟨1772357400000000000, by decide⟩, by decide⟩
  session := adminSession
  challenge := adminChallenge
  invite := adminInvite
  uuid := "9b7e2f7a-51d4-4c0e-8f5b-0d2c6a1e7f43"
  verifier := ⟨false, false⟩
  fault := .none

private def adminRequest (cookie value : String) (fetch_site : List UInt8) (endpoint : Endpoint) : Request where
  headers := [("origin", bytes "https://invite.example.com"), ("sec-fetch-site", fetch_site)]
  cookies := fun name => if name = cookie then some value else none
  endpoint := endpoint

private def adminLogin : Event :=
  .arrival (adminRequest LOGIN_COOKIE adminChallenge.text (bytes "same-origin")
    (.login ⟨"operator", "test-only admin password", adminChallenge.text⟩)) (adminMeets 10)

private def adminGenerate (fetch_site : List UInt8) : Request :=
  adminRequest SESSION_COOKIE adminSession.token.text fetch_site (.generate_invite ⟨adminSession.csrf.text, "staff", 24⟩)

/-- The signed-in administrator generates an invite, seven hours after the login. -/
theorem admin_authorised_sample :
    MutationAuthorised adminConfig (run adminCrates adminConfig ⟨.initial 0, migrated true⟩ [adminLogin]).1
      (adminGenerate (bytes "same-origin")) adminSession.csrf.text (from_secs 25000) := by
  have cases := (admin_authorised adminCrates adminConfig 0 (migrated true) [adminLogin]
    (adminGenerate (bytes "same-origin")) (adminMeets 25000) (by unfold NoCollision; decide) _ rfl _ rfl).1
    adminSession.csrf.text rfl
  rcases cases with ⟨authorised, _⟩ | untouched
  · exact authorised
  · exact absurd untouched.1 (by decide)

/-- A value of `Sec-Fetch-Site` that is not ASCII is let through. -/
theorem unreadable_fetch_site : ¬ ∀ (crates : Crates) (config : AdminConfig) (started : Instant) (store : Database)
    (history : List Event) (request : Request) (meets : Surroundings),
    NoCollision crates ((request.cookies SESSION_COOKIE).toList ++ history.flatMap Event.tokens) →
    ∀ csrf, mutationCsrf request.endpoint = some csrf →
      (MutationAuthorised config (run crates config ⟨.initial started, store⟩ history).1 request csrf meets.now ∧
        (request.header "sec-fetch-site" = none ∨ request.header "sec-fetch-site" = some (bytes "same-origin") ∨
          request.header "sec-fetch-site" = some (bytes "none"))) ∨
        Untouched (run crates config ⟨.initial started, store⟩ history).2
          (handle crates config request meets (run crates config ⟨.initial started, store⟩ history).2).2 meets.now := by
  intro stated
  rcases stated adminCrates adminConfig 0 (migrated true) [adminLogin] (adminGenerate [0xFF]) (adminMeets 25000)
    (by unfold NoCollision; decide) adminSession.csrf.text rfl with ⟨_, site⟩ | untouched
  · exact absurd site (by decide)
  · exact absurd untouched.1 (by decide)

end InviteSystem.AdminAuthorisation
