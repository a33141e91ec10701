import InviteSystem.Tokens

/-!
`admin_auth.rs`: the login throttle, and the one session of the administrator.
Instants of the monotonic clock are nanoseconds from an arbitrary origin. No
holder of the state's lock panics, so it is never poisoned.
-/
namespace InviteSystem.Authentication
open InviteSystem.Text InviteSystem.Libraries InviteSystem.Tokens

abbrev Instant := Nat

def SESSION_SECONDS : Nat := 8 * 60 * 60

/-- The nanoseconds of `Duration::from_secs`. -/
def from_secs (seconds : Nat) : Nat := seconds * 1000000000

def LOGIN_WINDOW : Nat := from_secs 60
def MAX_ATTEMPTS : UInt32 := 5

structure Session where
  token_hash : String
  csrf : String
  expires : Instant
deriving DecidableEq, Repr

structure AuthState where
  session : Option Session
  window_started : Instant
  attempts : UInt32
deriving DecidableEq, Repr

/-- The credentials of the configuration. -/
structure AdminAuth where
  username : String
  password_hash : String

inductive LoginError
  | InvalidCredentials
  | Throttled
  | Unavailable
deriving DecidableEq, Repr

/-- The state that `with_username` starts from. -/
def AuthState.initial (now : Instant) : AuthState := ⟨none, now, 0⟩

/-- The reserved attempt is answered with `none`. -/
def reserve_attempt (state : AuthState) (now : Instant) : Option LoginError × AuthState :=
  let state := if LOGIN_WINDOW ≤ now - state.window_started then
    { state with window_started := now, attempts := 0 } else state
  if MAX_ATTEMPTS ≤ state.attempts then (some .Throttled, state)
  else (none, { state with attempts := state.attempts + 1 })

/-- The random tokens that a session draws. -/
structure SessionTokens where
  token : Token 64
  csrf : Token 64
deriving DecidableEq

def issue_session (crates : Crates) (drawn : SessionTokens) (now : Instant) (state : AuthState) : String × AuthState :=
  (drawn.token.text, { state with
    session := some ⟨hash_token crates drawn.token.text, drawn.csrf.text, now + from_secs SESSION_SECONDS⟩ })

def csrf_token_at (crates : Crates) (token : String) (now : Instant) (state : AuthState) : Option String × AuthState :=
  if len token ≠ 64 then (none, state)
  else
    let state := if state.session.any (fun session => session.expires ≤ now) then { state with session := none }
      else state
    (state.session.bind (fun session =>
      if tokens_match session.token_hash (hash_token crates token) then some session.csrf else none), state)

def logout (crates : Crates) (token : String) (state : AuthState) : AuthState :=
  if state.session.any (fun session => tokens_match session.token_hash (hash_token crates token)) then
    { state with session := none }
  else state

/-- What the password check meets: whether another check holds the one permit,
    and whether the blocking task is lost. -/
structure Verifier where
  busy : Bool
  lost : Bool

/-- `login` reads the clock twice, for the throttle and for the session. -/
def login (crates : Crates) (auth : AdminAuth) (username password : String) (verifier : Verifier)
    (now later : Instant) (drawn : SessionTokens) (state : AuthState) : Except LoginError String × AuthState :=
  match reserve_attempt state now with
  | (some error, state) => (.error error, state)
  | (none, state) =>
    if auth.password_hash.isEmpty ∨ 1024 < len password then (.error .InvalidCredentials, state)
    else if verifier.busy then (.error .Throttled, state)
    else if verifier.lost then (.error .Unavailable, state)
    else if !crates.verify_password auth.password_hash (bytes password) || username != auth.username then
      (.error .InvalidCredentials, state)
    else (.ok (issue_session crates drawn later state).1, (issue_session crates drawn later state).2)

/-! ### What the functions do to the session -/

theorem reserve_attempt_session (state : AuthState) (now : Instant) :
    (reserve_attempt state now).2.session = state.session := by
  unfold reserve_attempt
  dsimp only
  split <;> split <;> rfl

/-- A login leaves the session alone, or issues one to the configured
    administrator; without a configured password there is none to issue. -/
theorem login_cases (crates : Crates) (auth : AdminAuth) (username password : String) (verifier : Verifier)
    (now later : Instant) (drawn : SessionTokens) (state : AuthState) :
    ((∃ error, (login crates auth username password verifier now later drawn state).1 = .error error) ∧
      (login crates auth username password verifier now later drawn state).2.session = state.session) ∨
    (auth.password_hash ≠ "" ∧
      (login crates auth username password verifier now later drawn state).1 = .ok drawn.token.text ∧
      (login crates auth username password verifier now later drawn state).2.session =
        some ⟨hash_token crates drawn.token.text, drawn.csrf.text, later + from_secs SESSION_SECONDS⟩) := by
  have same := reserve_attempt_session state now
  unfold login
  cases reserved : reserve_attempt state now with
  | mk answer after =>
    rw [reserved] at same
    cases answer with
    | some error => exact .inl ⟨⟨error, rfl⟩, same⟩
    | none =>
      dsimp only
      split
      · exact .inl ⟨⟨_, rfl⟩, same⟩
      · next usable =>
        split
        · exact .inl ⟨⟨_, rfl⟩, same⟩
        · split
          · exact .inl ⟨⟨_, rfl⟩, same⟩
          · split
            · exact .inl ⟨⟨_, rfl⟩, same⟩
            · refine .inr ⟨?_, rfl, rfl⟩
              rintro empty
              exact usable (.inl (by rw [empty]; rfl))

/-- Reading the CSRF token changes nothing, or drops an expired session. -/
theorem csrf_token_at_state (crates : Crates) (token : String) (now : Instant) (state : AuthState) :
    (csrf_token_at crates token now state).2 = state ∨
      ((csrf_token_at crates token now state).2 = { state with session := none } ∧
        ∃ session, state.session = some session ∧ session.expires ≤ now) := by
  unfold csrf_token_at
  dsimp only
  split
  · exact .inl rfl
  · split
    · next expired => exact .inr ⟨rfl, by simpa [Option.any_eq_true] using expired⟩
    · exact .inl rfl

theorem csrf_token_at_eq_some {crates : Crates} {token : String} {now : Instant} {state : AuthState} {csrf : String} :
    (csrf_token_at crates token now state).1 = some csrf ↔ len token = 64 ∧ ∃ session, state.session = some session ∧
      now < session.expires ∧ tokens_match session.token_hash (hash_token crates token) = true ∧
      session.csrf = csrf := by
  unfold csrf_token_at
  by_cases length : len token = 64
  · cases live : state.session with
    | none => simp [length, live]
    | some session =>
      by_cases expired : session.expires ≤ now
      · simp [length, expired]
      · simp [length, expired, live, not_le.mp expired]
  · simp [length]

theorem logout_cases (crates : Crates) (token : String) (state : AuthState) :
    (logout crates token state = state ∧ ∀ session, state.session = some session →
        tokens_match session.token_hash (hash_token crates token) = false) ∨
    (logout crates token state = { state with session := none } ∧ ∃ session, state.session = some session ∧
        tokens_match session.token_hash (hash_token crates token) = true) := by
  unfold logout
  split
  · next matched => exact .inr ⟨rfl, by simpa [Option.any_eq_true] using matched⟩
  · next unmatched =>
    refine .inl ⟨rfl, ?_⟩
    intro session live
    simpa [live] using unmatched

/-- The hash comparison of a stored session accepts the session's token alone. -/
theorem stored_hash_match {crates : Crates} {issued supplied : String} :
    tokens_match (hash_token crates issued) (hash_token crates supplied) = true ↔
      hash_token crates issued = hash_token crates supplied := by
  rw [tokens_match_iff]
  exact and_iff_right (hash_token_len crates issued)

end InviteSystem.Authentication
