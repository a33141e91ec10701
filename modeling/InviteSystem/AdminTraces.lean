import InviteSystem.AdminPrograms

/-!
The calls that one request of the administrator makes, in their order: what it
has gone through where it comes to a call that the guards are there for.
-/
namespace InviteSystem.AdminTraces
open InviteSystem.Text InviteSystem.Chrono InviteSystem.Tokens InviteSystem.Libraries InviteSystem.Authentication
open InviteSystem.InviteRoutes InviteSystem.Programs InviteSystem.Traces
open InviteSystem.AdminRoutes (SESSION_COOKIE LOGIN_COOKIE AdminConfig LoginForm RevokeInviteForm Endpoint Request Refusal
  Response require_origin)
open InviteSystem.AdminPrograms (Call Reply Prog csrf_token require_admin require_admin_mutation guarded)

abbrev Made := (c : Call) × Reply c

/-- The calls of the guards. -/
def Guarding : Call → Bool
  | .instant_now => true
  | .csrf_token_at _ _ => true
  | _ => false

/-- The calls that the guards are there for. -/
def Privileged : Call → Bool
  | .list_recent _ => true
  | .logout _ => true
  | .repository _ => true
  | _ => false

/-- The calls of a login but for its readings and draws. -/
def SigningIn : Call → Bool
  | .reserve_attempt _ => true
  | .spawn_verification _ _ => true
  | .join_verification => true
  | .issue_session _ _ => true
  | _ => false

section
variable {crates : Crates} {config : AdminConfig} {request : Request} {calls : List Made}

theorem only_csrf_token (token : String) : Only (fun c => Guarding c = true) (csrf_token token) :=
  ⟨rfl, fun _ => ⟨rfl, fun _ => trivial⟩⟩

theorem only_require_admin : Only (fun c => Guarding c = true) (require_admin request) := by
  unfold require_admin
  cases request.cookies SESSION_COOKIE with
  | none => trivial
  | some token =>
    refine only_bind (only_csrf_token token) ?_
    rintro (_ | csrf) <;> trivial

theorem only_require_admin_mutation {csrf : String} :
    Only (fun c => Guarding c = true) (require_admin_mutation config request csrf) := by
  refine only_andThen only_require_admin fun expected => ?_
  cases require_origin config request with
  | some refusal => trivial
  | none => by_cases same : tokens_match expected csrf = true <;> simp [same]

/-- The request has read the CSRF token of its session cookie. -/
def Answered (request : Request) (csrf : String) (calls : List Made) : Prop :=
  ∃ token, ∃ now : Instant, request.cookies SESSION_COOKIE = some token ∧
    calls = [⟨.instant_now, now⟩, ⟨.csrf_token_at token now, some csrf⟩]

theorem csrf_token_calls {token : String} {csrf : Option String} (reached : Reaches (csrf_token token) calls (.ret csrf)) :
    ∃ now : Instant, calls = [⟨.instant_now, now⟩, ⟨.csrf_token_at token now, csrf⟩] := by
  rcases reaches_call.mp reached with ⟨_, ended⟩ | ⟨now, later, rfl, continued⟩
  · cases ended
  · obtain ⟨answer, rfl, rfl⟩ := reaches_single continued
    exact ⟨now, rfl⟩

theorem require_admin_calls {csrf : String} (reached : Reaches (require_admin request) calls (.ret (.ok csrf))) :
    Answered request csrf calls := by
  unfold require_admin at reached
  cases cookie : request.cookies SESSION_COOKIE with
  | none =>
    rw [cookie] at reached
    cases (reaches_ret.mp reached).2
  | some token =>
    rw [cookie] at reached
    obtain ⟨first, second, answer, rfl, before, after⟩ := reaches_bind_ret reached
    obtain ⟨now, rfl⟩ := csrf_token_calls before
    cases answer with
    | none => cases (reaches_ret.mp after).2
    | some answer =>
      obtain ⟨rfl, same⟩ := reaches_ret.mp after
      cases same
      exact ⟨token, now, cookie, by simp⟩

theorem require_admin_mutation_calls {csrf : String} {value : Unit}
    (reached : Reaches (require_admin_mutation config request csrf) calls (.ret (.ok value))) :
    Answered request csrf calls ∧ require_origin config request = none := by
  rcases reaches_andThen_ret reached with ⟨error, _, failed⟩ | ⟨first, second, expected, rfl, before, after⟩
  · cases failed
  · have answered := require_admin_calls before
    cases origin : require_origin config request with
    | some refusal =>
      rw [origin] at after
      cases (reaches_ret.mp after).2
    | none =>
      rw [origin] at after
      by_cases same : tokens_match expected csrf = true
      · simp only [same, if_true] at after
        obtain ⟨rfl, _⟩ := reaches_ret.mp after
        obtain ⟨_, rfl⟩ := tokens_match_iff.mp same
        exact ⟨by simpa using answered, rfl⟩
      · simp only [same] at after
        cases (reaches_ret.mp after).2

/-- A guarded handler comes to other calls than its guard's only behind it. -/
theorem reaches_past_guard {α : Type} {guard : Prog (Except Refusal α)} {handler : α → Prog Response} {c : Call}
    {next : Reply c → Prog Response} (guards : Only (fun c => Guarding c = true) guard)
    (reached : Reaches (guarded guard handler) calls (.call c next)) (beyond : Guarding c = false) :
    ∃ first second value, calls = first ++ second ∧ Reaches guard first (.ret (.ok value)) ∧
      Reaches (handler value) second (.call c next) := by
  rcases reaches_bind_call reached with ⟨next', within⟩ | ⟨first, second, passed, rfl, before, after⟩
  · have own := only_call guards within
    rw [beyond] at own
    cases own
  · cases passed with
    | error refusal => exact absurd after ret_reaches_no_call
    | ok value => exact ⟨first, second, value, rfl, before, after⟩

/-! ### Behind the guards -/

variable (crates config request) in
/-- What a privileged call may be, where the session's CSRF token is this one,
    and the request has read and drawn this behind its guard. -/
def Entitled (csrf : String) (behind : List Made) : Call → Prop
  | .list_recent _ => request.endpoint = .admin ∧ behind = []
  | .logout token => request.endpoint = .logout csrf ∧ require_origin config request = none ∧
      request.cookies SESSION_COOKIE = some token ∧ behind = []
  | .repository (.create_invite id token_hash groups_json created_at expires_at created_by) =>
    ∃ form invite uuid now page, request.endpoint = .generate_invite form ∧ form.csrf = csrf ∧
      require_origin config request = none ∧ created_by = none ∧
      behind = [⟨.draw_invite, invite⟩, ⟨.utc_now, now⟩, ⟨.draw_uuid, uuid⟩] ∧
      InviteRoutes.generate_invite crates form invite uuid now =
        .create id token_hash groups_json created_at expires_at page
  | .repository (.revoke_invite id revoked_at) => ∃ form, ∃ now : Reading, request.endpoint = .revoke_invite form ∧
      form.csrf = csrf ∧ require_origin config request = none ∧ id = form.id ∧
      behind = [⟨.utc_now, now⟩] ∧ revoked_at = to_rfc3339 now.time
  | .repository _ => False
  | _ => True

theorem privileged_beyond {c : Call} (privileged : Privileged c = true) : Guarding c = false := by
  cases c <;> first | rfl | cases privileged

theorem only_login (auth : AdminAuth) (username password : String) :
    Only (fun c => Privileged c = false) (AdminPrograms.login auth username password) := by
  refine ⟨rfl, fun now => ⟨rfl, ?_⟩⟩
  rintro (_ | error)
  · dsimp only
    split
    · trivial
    · refine ⟨rfl, ?_⟩
      rintro (_ | _)
      · trivial
      · refine ⟨rfl, ?_⟩
        rintro (_ | valid)
        · trivial
        · dsimp only
          split
          · trivial
          · exact ⟨rfl, fun _ => ⟨rfl, fun _ => ⟨rfl, fun _ => trivial⟩⟩⟩
  · trivial

theorem only_login_handler (form : LoginForm) :
    Only (fun c => Privileged c = false) (AdminPrograms.login_handler config request form) := by
  unfold AdminPrograms.login_handler
  cases require_origin config request with
  | some refusal => trivial
  | none =>
    cases request.cookies LOGIN_COOKIE with
    | none => trivial
    | some challenge =>
      dsimp only
      split
      · refine only_bind (only_login ..) ?_
        rintro (error | token)
        · cases error <;> exact ⟨rfl, fun _ => trivial⟩
        · exact ⟨rfl, fun _ => trivial⟩
      · trivial

/-- Behind its guard, `generate_invite` comes to the creation that it has drawn. -/
theorem generate_calls {form : GenerateInviteForm} {c : Call} {next : Reply c → Prog Response}
    (privileged : Privileged c = true)
    (reached : Reaches (AdminPrograms.store_invite crates form) calls (.call c next)) :
    ∃ invite now uuid page id token_hash groups_json created_at expires_at,
      c = .repository (.create_invite id token_hash groups_json created_at expires_at none) ∧
      calls = [⟨.draw_invite, invite⟩, ⟨.utc_now, now⟩, ⟨.draw_uuid, uuid⟩] ∧
      InviteRoutes.generate_invite crates form invite uuid now =
        .create id token_hash groups_json created_at expires_at page := by
  rcases reaches_call.mp reached with ⟨_, same⟩ | ⟨invite, later, rfl, drawn⟩
  · cases same
    cases privileged
  rcases reaches_call.mp drawn with ⟨_, same⟩ | ⟨now, later, rfl, read⟩
  · cases same
    cases privileged
  rcases reaches_call.mp read with ⟨_, same⟩ | ⟨uuid, later, rfl, ready⟩
  · cases same
    cases privileged
  cases generated : InviteRoutes.generate_invite crates form invite uuid now with
  | answer page =>
    simp only [generated] at ready
    exact absurd ready ret_reaches_no_call
  | panic =>
    simp only [generated] at ready
    exact absurd ready ret_reaches_no_call
  | create id token_hash groups_json created_at expires_at page =>
    simp only [generated] at ready
    rcases reaches_call.mp ready with ⟨rfl, same⟩ | ⟨created, later, _, ended⟩
    · exact ⟨invite, now, uuid, page, id, token_hash, groups_json, created_at, expires_at, (Program.call.inj same).1, rfl,
        generated⟩
    · rcases created with _ | ⟨record⟩ | flag | rows <;> exact absurd ended ret_reaches_no_call

theorem only_store_invite (form : GenerateInviteForm) :
    Only (fun c => SigningIn c = false) (AdminPrograms.store_invite crates form) := by
  refine ⟨rfl, fun token => ⟨rfl, fun now => ⟨rfl, fun id => ?_⟩⟩⟩
  dsimp only
  split
  · trivial
  · trivial
  · refine ⟨rfl, ?_⟩
    rintro (_ | record | flag | rows) <;> trivial

/-- The handlers behind the guards come to the call they are for, and no other. -/
theorem reaches_privileged {c : Call} {next : Reply c → Prog Response} (privileged : Privileged c = true)
    (reached : Reaches (AdminPrograms.handle crates config request) calls (.call c next)) :
    ∃ csrf first second, calls = first ++ second ∧ Answered request csrf first ∧
      Entitled crates config request csrf second c := by
  have beyond := privileged_beyond privileged
  unfold AdminPrograms.handle at reached
  cases endpoint : request.endpoint with
  | login_page =>
    rw [endpoint] at reached
    obtain ⟨_, rfl⟩ := reaches_single_call reached
    cases privileged
  | login form =>
    rw [endpoint] at reached
    have plain := only_call (only_login_handler form) reached
    rw [privileged] at plain
    cases plain
  | admin =>
    rw [endpoint] at reached
    obtain ⟨first, second, csrf, rfl, before, after⟩ := reaches_past_guard only_require_admin reached beyond
    obtain ⟨rfl, rfl⟩ := reaches_single_call after
    exact ⟨csrf, first, [], rfl, require_admin_calls before, endpoint, rfl⟩
  | logout csrf =>
    rw [endpoint] at reached
    obtain ⟨first, second, _, rfl, before, after⟩ := reaches_past_guard only_require_admin_mutation reached beyond
    obtain ⟨answered, origin⟩ := require_admin_mutation_calls before
    cases cookie : request.cookies SESSION_COOKIE with
    | none =>
      simp only [cookie] at after
      exact absurd after ret_reaches_no_call
    | some token =>
      simp only [cookie] at after
      obtain ⟨rfl, rfl⟩ := reaches_single_call after
      exact ⟨csrf, first, [], rfl, answered, endpoint, origin, cookie, rfl⟩
  | generate_invite form =>
    rw [endpoint] at reached
    obtain ⟨first, second, _, rfl, before, after⟩ := reaches_past_guard only_require_admin_mutation reached beyond
    obtain ⟨answered, origin⟩ := require_admin_mutation_calls before
    obtain ⟨invite, now, uuid, page, generated⟩ := generate_calls privileged after
    refine ⟨form.csrf, first, second, rfl, answered, ?_⟩
    obtain ⟨id, token_hash, groups_json, created_at, expires_at, rfl, drawn, generated⟩ := generated
    exact ⟨form, invite, uuid, now, page, endpoint, rfl, origin, rfl, drawn, generated⟩
  | revoke_invite form =>
    rw [endpoint] at reached
    obtain ⟨first, second, _, rfl, before, after⟩ := reaches_past_guard only_require_admin_mutation reached beyond
    obtain ⟨answered, origin⟩ := require_admin_mutation_calls before
    rcases reaches_call.mp after with ⟨rfl, same⟩ | ⟨now, later, rfl, continued⟩
    · cases same
      cases privileged
    · obtain ⟨rfl, rfl⟩ := reaches_single_call continued
      exact ⟨form.csrf, first, _, rfl, answered, form, now, endpoint, rfl, origin, rfl, rfl, rfl⟩

/-! ### Logins -/

theorem only_guarded {α : Type} {P : Call → Prop} {guard : Prog (Except Refusal α)} {handler : α → Prog Response}
    (guards : Only P guard) (behind : ∀ value, Only P (handler value)) : Only P (guarded guard handler) := by
  refine only_bind guards ?_
  rintro (refusal | value)
  · trivial
  · exact behind value

theorem guarding_plain (c : Call) (guarding : Guarding c = true) : SigningIn c = false := by
  cases c <;> first | rfl | cases guarding

/-- The other routes make no call of a login. -/
theorem only_elsewhere (elsewhere : ∀ form, request.endpoint ≠ .login form) :
    Only (fun c => SigningIn c = false) (AdminPrograms.handle crates config request) := by
  have guards {csrf : String} : Only (fun c => SigningIn c = false) (require_admin_mutation config request csrf) :=
    only_mono guarding_plain only_require_admin_mutation
  unfold AdminPrograms.handle
  cases endpoint : request.endpoint with
  | login_page => exact ⟨rfl, fun _ => trivial⟩
  | login form => exact absurd endpoint (elsewhere form)
  | admin => exact only_guarded (only_mono guarding_plain only_require_admin) fun _ => ⟨rfl, fun _ => trivial⟩
  | logout csrf =>
    refine only_guarded guards fun _ => ?_
    cases request.cookies SESSION_COOKIE with
    | none => trivial
    | some token => exact ⟨rfl, fun _ => trivial⟩
  | generate_invite form => exact only_guarded guards fun _ => only_store_invite form
  | revoke_invite form => exact only_guarded guards fun _ => ⟨rfl, fun _ => ⟨rfl, fun _ => trivial⟩⟩

/-- Only a login comes to the calls of a login, through the checks of its route. -/
theorem reaches_signingIn {c : Call} {next : Reply c → Prog Response} (signing : SigningIn c = true)
    (reached : Reaches (AdminPrograms.handle crates config request) calls (.call c next)) :
    ∃ form next', request.endpoint = .login form ∧ require_origin config request = none ∧
      Reaches (AdminPrograms.login config.auth form.username form.password) calls (.call c next') := by
  by_cases elsewhere : ∀ form, request.endpoint ≠ .login form
  · have plain := only_call (only_elsewhere elsewhere) reached
    rw [signing] at plain
    cases plain
  · push Not at elsewhere
    obtain ⟨form, endpoint⟩ := elsewhere
    refine ⟨form, ?_⟩
    simp only [AdminPrograms.handle, endpoint, AdminPrograms.login_handler] at reached
    cases origin : require_origin config request with
    | some refusal =>
      simp only [origin] at reached
      exact absurd reached ret_reaches_no_call
    | none =>
      cases cookie : request.cookies LOGIN_COOKIE with
      | none =>
        simp only [origin, cookie] at reached
        exact absurd reached ret_reaches_no_call
      | some challenge =>
        simp only [origin, cookie] at reached
        by_cases same : tokens_match challenge form.csrf = true
        · rw [if_pos same] at reached
          rcases reaches_bind_call reached with ⟨next', within⟩ | ⟨first, second, outcome, _, _, after⟩
          · exact ⟨next', endpoint, rfl, within⟩
          · -- the page that ends the login draws its challenge only
            have shown : c = .draw_challenge := by
              rcases outcome with error | token
              · cases error <;> exact (reaches_single_call after).2
              · exact (reaches_single_call after).2
            rw [shown] at signing
            cases signing
        · rw [if_neg same] at reached
          exact absurd reached ret_reaches_no_call

/-- The calls of a login up to the verification. -/
theorem login_calls {auth : AdminAuth} {username password : String} {c : Call}
    {next : Reply c → Prog (Except LoginError String)} (checked : c ≠ .instant_now) (counted : ∀ now, c ≠ .reserve_attempt now)
    (reached : Reaches (AdminPrograms.login auth username password) calls (.call c next)) :
    auth.password_hash ≠ "" ∧ len password ≤ 1024 ∧ ∃ now : Instant, ∃ after,
      calls = [⟨.instant_now, now⟩, ⟨.reserve_attempt now, none⟩] ++ after ∧
      ((c = .spawn_verification auth.password_hash password ∧ after = []) ∨
        (c = .join_verification ∧ after = [⟨.spawn_verification auth.password_hash password, true⟩]) ∨
        ∃ rest, username = auth.username ∧ after =
          ⟨.spawn_verification auth.password_hash password, true⟩ :: ⟨.join_verification, some true⟩ :: rest ∧
          Reaches AdminPrograms.issue_session rest (.call c next)) := by
  rcases reaches_call.mp reached with ⟨_, same⟩ | ⟨now, later, rfl, begun⟩
  · cases same
    exact absurd rfl checked
  rcases reaches_call.mp begun with ⟨_, same⟩ | ⟨reserved, later, rfl, counting⟩
  · cases same
    exact absurd rfl (counted now)
  rcases reserved with _ | error
  · dsimp only at counting
    by_cases unusable : auth.password_hash.isEmpty ∨ 1024 < len password
    · rw [if_pos unusable] at counting
      exact absurd counting ret_reaches_no_call
    · rw [if_neg unusable] at counting
      rw [not_or, Nat.not_lt] at unusable
      have stored : auth.password_hash ≠ "" := fun empty => unusable.1 (by rw [empty]; rfl)
      refine ⟨stored, unusable.2, now, ?_⟩
      rcases reaches_call.mp counting with ⟨rfl, same⟩ | ⟨acquired, later, rfl, running⟩
      · exact ⟨[], rfl, .inl ⟨(Program.call.inj same).1, rfl⟩⟩
      cases acquired with
      | false => exact absurd running ret_reaches_no_call
      | true =>
        rcases reaches_call.mp running with ⟨rfl, same⟩ | ⟨joined, later, rfl, verified⟩
        · exact ⟨_, rfl, .inr (.inl ⟨(Program.call.inj same).1, rfl⟩)⟩
        rcases joined with _ | valid
        · exact absurd verified ret_reaches_no_call
        · dsimp only at verified
          by_cases wrong : (!valid || username != auth.username) = true
          · rw [if_pos wrong] at verified
            exact absurd verified ret_reaches_no_call
          · rw [if_neg wrong] at verified
            obtain ⟨rfl, named⟩ : valid = true ∧ username = auth.username := by simpa using wrong
            exact ⟨_, rfl, .inr (.inr ⟨later, named, rfl, verified⟩)⟩
  · exact absurd counting ret_reaches_no_call

theorem issue_session_calls {drawn : SessionTokens} {later : Instant}
    {next : Reply (.issue_session drawn later) → Prog (Except LoginError String)}
    (reached : Reaches AdminPrograms.issue_session calls (.call (.issue_session drawn later) next)) :
    calls = [⟨.instant_now, later⟩, ⟨.draw_session, drawn⟩] := by
  rcases reaches_call.mp reached with ⟨_, same⟩ | ⟨reading, others, rfl, read⟩
  · cases same
  rcases reaches_call.mp read with ⟨_, same⟩ | ⟨tokens, others, rfl, drew⟩
  · cases same
  obtain ⟨rfl, same⟩ := reaches_single_call drew
  cases same
  rfl

/-! ### Verifications are awaited -/

/-- Whether the request has a verification that it has not awaited yet. -/
def awaiting : Discipline Call Reply Bool where
  allowed
    | running, .spawn_verification _ _ => running = false
    | running, .join_verification => running = true
    | _, _ => True
  after
    | _, .spawn_verification _ _, acquired => acquired
    | _, .join_verification, _ => false
    | running, _, _ => running

theorem plain_idle (c : Call) (plain : SigningIn c = false) :
    awaiting.allowed false c ∧ ∀ reply, awaiting.after false c reply = false := by
  cases c with
  | spawn_verification stored_hash password => cases plain
  | join_verification => cases plain
  | _ => exact ⟨trivial, fun _ => rfl⟩

theorem obeys_login (auth : AdminAuth) (username password : String) :
    Obeys awaiting (fun running _ => running = false) false (AdminPrograms.login auth username password) := by
  refine ⟨trivial, fun now => ⟨trivial, ?_⟩⟩
  rintro (_ | error)
  · dsimp only
    split
    · rfl
    · refine ⟨rfl, ?_⟩
      rintro (_ | _)
      · rfl
      · refine ⟨rfl, ?_⟩
        rintro (_ | valid)
        · rfl
        · dsimp only
          split
          · rfl
          · exact ⟨trivial, fun _ => ⟨trivial, fun _ => ⟨trivial, fun _ => rfl⟩⟩⟩
  · rfl

/-- A request starts at most one verification at a time, awaits none that it has
    not started, and is not answered before it has awaited it. -/
theorem obeys_handle (crates : Crates) (config : AdminConfig) (request : Request) :
    Obeys awaiting (fun running _ => running = false) false (AdminPrograms.handle crates config request) := by
  by_cases elsewhere : ∀ form, request.endpoint ≠ .login form
  · exact obeys_only plain_idle (only_elsewhere elsewhere)
  · push Not at elsewhere
    obtain ⟨form, endpoint⟩ := elsewhere
    simp only [AdminPrograms.handle, endpoint, AdminPrograms.login_handler]
    cases require_origin config request with
    | some refusal => rfl
    | none =>
      cases request.cookies LOGIN_COOKIE with
      | none => rfl
      | some challenge =>
        dsimp only
        split
        · refine obeys_bind (obeys_login config.auth form.username form.password) ?_
          rintro _ (error | token) rfl
          · cases error <;> exact ⟨trivial, fun _ => rfl⟩
          · exact ⟨trivial, fun _ => rfl⟩
        · rfl

end
end InviteSystem.AdminTraces
