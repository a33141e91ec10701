import InviteSystem.Authentication

/-!
The law of the administrator's session over whole histories of calls: a token
is answered exactly while it is the last one issued, not logged out, and less
than eight hours old. The code keeps one session and drops it when it is read
too late; `current` is the session it stands for, without regard to time.
-/
namespace InviteSystem.Sessions
open InviteSystem.Text InviteSystem.Libraries InviteSystem.Tokens InviteSystem.Authentication

/-- A call on the session, with the clock reading it makes. -/
inductive Call
  | issue_session (drawn : SessionTokens) (now : Instant)
  | csrf_token (token : String) (now : Instant)
  | logout (token : String)
deriving DecidableEq

def Call.apply (crates : Crates) (state : AuthState) : Call → AuthState
  | .issue_session drawn now => (Authentication.issue_session crates drawn now state).2
  | .csrf_token token now => (csrf_token_at crates token now state).2
  | .logout token => Authentication.logout crates token state

def Call.reading : Call → Option Instant
  | .issue_session _ now => some now
  | .csrf_token _ now => some now
  | .logout _ => none

/-- The texts whose hashes the call computes. -/
def Call.hashed : Call → String
  | .issue_session drawn _ => drawn.token.text
  | .csrf_token token _ => token
  | .logout token => token

def after (crates : Crates) (history : List Call) (start : AuthState) : AuthState :=
  history.foldl (Call.apply crates) start

/-- No two of the texts collide. -/
def NoCollision (crates : Crates) (texts : List String) : Prop :=
  ∀ a ∈ texts, ∀ b ∈ texts, crates.sha256 (bytes a) = crates.sha256 (bytes b) → a = b

/-! ### The session a history stands for -/

structure Issued where
  drawn : SessionTokens
  issuedAt : Instant
deriving DecidableEq

def Issued.expires (issued : Issued) : Instant := issued.issuedAt + from_secs SESSION_SECONDS

def Issued.session (crates : Crates) (issued : Issued) : Session :=
  ⟨hash_token crates issued.drawn.token.text, issued.drawn.csrf.text, issued.expires⟩

def Call.next (current : Option Issued) : Call → Option Issued
  | .issue_session drawn now => some ⟨drawn, now⟩
  | .csrf_token _ _ => current
  | .logout token => current.filter (fun issued => issued.drawn.token.text ≠ token)

def current (history : List Call) : Option Issued := history.foldl Call.next none

@[simp] theorem current_snoc (history : List Call) (call : Call) :
    current (history ++ [call]) = call.next (current history) := by
  simp [current, List.foldl_append]

@[simp] theorem after_snoc (crates : Crates) (history : List Call) (call : Call) (start : AuthState) :
    after crates (history ++ [call]) start = call.apply crates (after crates history start) := by
  simp [after, List.foldl_append]

/-- The session was issued by the last `issue_session` of the history, and not logged out since. -/
def LastIssued (history : List Call) (issued : Issued) : Prop :=
  ∃ earlier since, history = earlier ++ .issue_session issued.drawn issued.issuedAt :: since ∧
    (∀ drawn now, .issue_session drawn now ∉ since) ∧ .logout issued.drawn.token.text ∉ since

theorem lastIssued_nil (issued : Issued) : ¬ LastIssued [] issued := by
  rintro ⟨earlier, since, shape, _⟩
  simp at shape

theorem lastIssued_snoc {history : List Call} {call : Call} {issued : Issued} :
    LastIssued (history ++ [call]) issued ↔ call = .issue_session issued.drawn issued.issuedAt ∨
      ((∀ drawn now, call ≠ .issue_session drawn now) ∧ call ≠ .logout issued.drawn.token.text ∧
        LastIssued history issued) := by
  constructor
  · rintro ⟨earlier, since, shape, noIssue, noLogout⟩
    cases since using List.reverseRecOn with
    | nil => exact .inl (List.append_singleton_inj.mp shape).2
    | append_singleton since last =>
      rw [← List.cons_append, ← List.append_assoc] at shape
      obtain ⟨rfl, rfl⟩ := List.append_singleton_inj.mp shape
      simp only [List.mem_append, List.mem_singleton, not_or] at noIssue noLogout
      refine .inr ⟨fun drawn now same => (noIssue drawn now).2 same.symm, fun same => noLogout.2 same.symm, ?_⟩
      exact ⟨earlier, since, rfl, fun drawn now => (noIssue drawn now).1, noLogout.1⟩
  · rintro (rfl | ⟨notIssue, notLogout, earlier, since, rfl, noIssue, noLogout⟩)
    · exact ⟨history, [], rfl, by simp, by simp⟩
    · refine ⟨earlier, since ++ [call], by simp, ?_, ?_⟩
      · simp only [List.mem_append, List.mem_singleton, not_or]
        exact fun drawn now => ⟨noIssue drawn now, fun same => notIssue drawn now same.symm⟩
      · simp only [List.mem_append, List.mem_singleton, not_or]
        exact ⟨noLogout, fun same => notLogout same.symm⟩

theorem current_eq_some_iff {history : List Call} {issued : Issued} :
    current history = some issued ↔ LastIssued history issued := by
  induction history using List.reverseRecOn with
  | nil => simp [current, lastIssued_nil]
  | append_singleton history call ih =>
    rw [current_snoc, lastIssued_snoc, ← ih]
    cases call with
    | issue_session drawn now =>
      constructor
      · intro same
        cases same
        exact .inl rfl
      · rintro (same | ⟨notIssue, _⟩)
        · cases same
          rfl
        · exact absurd rfl (notIssue drawn now)
    | csrf_token token now => simp [Call.next]
    | logout token =>
      simp only [Call.next, Option.filter_eq_some_iff]
      constructor
      · rintro ⟨shape, other⟩
        refine .inr ⟨by simp, ?_, shape⟩
        rintro same
        cases same
        simp at other
      · rintro (same | ⟨_, other, shape⟩)
        · cases same
        · refine ⟨shape, ?_⟩
          simp only [decide_eq_true_eq]
          rintro rfl
          exact other rfl

/-! ### The code's session is the current one, or has been dropped late -/

def Tracks (crates : Crates) (history : List Call) (state : AuthState) : Prop :=
  state.session = (current history).map (Issued.session crates) ∨
    (state.session = none ∧ ∃ issued, current history = some issued ∧
      ∃ reading ∈ history.filterMap Call.reading, issued.expires ≤ reading)

theorem hashed_of_current {history : List Call} {issued : Issued} (shape : current history = some issued) :
    issued.drawn.token.text ∈ history.map Call.hashed := by
  obtain ⟨earlier, since, rfl, _⟩ := current_eq_some_iff.mp shape
  simp [Call.hashed]

/-- A stored session is the current one. -/
theorem Tracks.stored {crates : Crates} {history : List Call} {state : AuthState} {session : Session}
    (tracks : Tracks crates history state) (live : state.session = some session) :
    ∃ issued, current history = some issued ∧ session = issued.session crates := by
  rcases tracks with held | ⟨gone, _⟩
  · rw [live] at held
    obtain ⟨issued, shape, rfl⟩ := Option.map_eq_some_iff.mp held.symm
    exact ⟨issued, shape, rfl⟩
  · rw [live] at gone
    cases gone

/-- Only the session of the state matters. -/
theorem Tracks.congr {crates : Crates} {history : List Call} {state state' : AuthState}
    (tracks : Tracks crates history state) (same : state'.session = state.session) : Tracks crates history state' := by
  unfold Tracks at tracks ⊢
  rw [same]
  exact tracks

section
variable {crates : Crates} {history : List Call} {state : AuthState} {token : String}

theorem tracks_initial (now : Instant) : Tracks crates [] (.initial now) := .inl rfl

theorem tracks_issue_session {drawn : SessionTokens} {now : Instant}
    (session : state.session = some ((⟨drawn, now⟩ : Issued).session crates)) :
    Tracks crates (history ++ [.issue_session drawn now]) state := .inl (by simp [Call.next, session])

theorem tracks_csrf_token {now : Instant} (tracks : Tracks crates history state) :
    Tracks crates (history ++ [.csrf_token token now]) (csrf_token_at crates token now state).2 := by
  have next : current (history ++ [.csrf_token token now]) = current history := by simp [Call.next]
  have readings : (history ++ [Call.csrf_token token now]).filterMap Call.reading =
      history.filterMap Call.reading ++ [now] := by simp [List.filterMap_append, Call.reading]
  unfold Tracks
  rw [next, readings]
  rcases csrf_token_at_state crates token now state with same | ⟨dropped, session, live, expired⟩
  · rw [same]
    refine tracks.imp_right ?_
    rintro ⟨gone, issued, shape, reading, member, past⟩
    exact ⟨gone, issued, shape, reading, List.mem_append_left _ member, past⟩
  · rw [dropped]
    obtain ⟨issued, shape, rfl⟩ := tracks.stored live
    exact .inr ⟨rfl, issued, shape, now, by simp, expired⟩

theorem tracks_logout (distinct : NoCollision crates (token :: history.map Call.hashed))
    (tracks : Tracks crates history state) :
    Tracks crates (history ++ [.logout token]) (logout crates token state) := by
  have next : current (history ++ [.logout token]) =
      (current history).filter (fun issued => issued.drawn.token.text ≠ token) := by simp [Call.next]
  have readings : (history ++ [Call.logout token]).filterMap Call.reading = history.filterMap Call.reading := by
    simp [List.filterMap_append, Call.reading]
  unfold Tracks
  rw [next, readings]
  rcases logout_cases crates token state with ⟨same, unmatched⟩ | ⟨dropped, session, live, matched⟩
  · rw [same]
    rcases tracks with held | ⟨gone, issued, shape, late⟩
    · left
      rw [held]
      cases shape : current history with
      | none => rfl
      | some issued =>
        rw [shape] at held
        have other : issued.drawn.token.text ≠ token := by
          rintro rfl
          have refuted := unmatched _ held
          rw [Issued.session, stored_hash_match.mpr rfl] at refuted
          cases refuted
        simp [other]
    · by_cases own : issued.drawn.token.text = token
      · exact .inl (by simp [gone, shape, own])
      · exact .inr ⟨gone, issued, by simp [shape, own], late⟩
  · rw [dropped]
    obtain ⟨issued, shape, rfl⟩ := tracks.stored live
    have own : issued.drawn.token.text = token :=
      distinct _ (List.mem_cons_of_mem _ (hashed_of_current shape)) token (List.mem_cons_self ..)
        (sha256_of_hash_token (stored_hash_match.mp matched))
    exact .inl (by simp [shape, own])

theorem tracks_step {call : Call} (distinct : NoCollision crates (call.hashed :: history.map Call.hashed))
    (tracks : Tracks crates history state) : Tracks crates (history ++ [call]) (call.apply crates state) := by
  cases call with
  | issue_session drawn now => exact tracks_issue_session rfl
  | csrf_token token now => exact tracks_csrf_token tracks
  | logout token => exact tracks_logout distinct tracks

end

theorem NoCollision.mono {crates : Crates} {texts fewer : List String} (distinct : NoCollision crates texts)
    (subset : fewer ⊆ texts) : NoCollision crates fewer :=
  fun a memberA b memberB same => distinct a (subset memberA) b (subset memberB) same

theorem tracks_run {crates : Crates} {history : List Call} (started : Instant)
    (distinct : NoCollision crates (history.map Call.hashed)) :
    Tracks crates history (after crates history (.initial started)) := by
  induction history using List.reverseRecOn with
  | nil => exact tracks_initial started
  | append_singleton history call ih =>
    rw [after_snoc]
    rw [List.map_append] at distinct
    exact tracks_step (distinct.mono (by simp)) (ih (distinct.mono (by simp)))

/-- A session that is not yet over has not been dropped. -/
theorem Tracks.live {crates : Crates} {history : List Call} {state : AuthState} {issued : Issued} {now : Instant}
    (tracks : Tracks crates history state) (ordered : (history.filterMap Call.reading ++ [now]).Pairwise (· ≤ ·))
    (last : LastIssued history issued) (young : now < issued.expires) :
    state.session = some (issued.session crates) := by
  have shape := current_eq_some_iff.mpr last
  rcases tracks with held | ⟨_, issued', shape', reading, member, past⟩
  · rw [held, shape]
    rfl
  · rw [shape] at shape'
    cases shape'
    have before := (List.pairwise_append.mp ordered).2.2 reading member now (List.mem_singleton_self now)
    exact absurd young (Nat.not_lt.mpr (Nat.le_trans past before))

/-- The session law: a token is answered with the CSRF token of the session
    exactly while it is the last token issued, not logged out since and younger
    than `SESSION_SECONDS`; no call with another token ends or alters that session. -/
theorem session_law (crates : Crates) (started : Instant) (history : List Call) (token : String) (now : Instant)
    (ordered : (history.filterMap Call.reading ++ [now]).Pairwise (· ≤ ·))
    (distinct : NoCollision crates (token :: history.map Call.hashed)) :
    (∀ csrf, (csrf_token_at crates token now (after crates history (.initial started))).1 = some csrf ↔
      ∃ issued, LastIssued history issued ∧ now < issued.issuedAt + from_secs SESSION_SECONDS ∧
        token = issued.drawn.token.text ∧ csrf = issued.drawn.csrf.text) ∧
    (∀ issued, LastIssued history issued → now < issued.issuedAt + from_secs SESSION_SECONDS →
      token ≠ issued.drawn.token.text →
      (csrf_token_at crates token now (after crates history (.initial started))).2 =
          after crates history (.initial started) ∧
        logout crates token (after crates history (.initial started)) = after crates history (.initial started)) := by
  have tracks := tracks_run started (distinct.mono (List.subset_cons_self token _))
  set state := after crates history (.initial started)
  constructor
  · intro csrf
    rw [csrf_token_at_eq_some]
    constructor
    · rintro ⟨_, session, live, young, matched, rfl⟩
      obtain ⟨issued, shape, rfl⟩ := tracks.stored live
      have own : issued.drawn.token.text = token :=
        distinct _ (List.mem_cons_of_mem _ (hashed_of_current shape)) token (List.mem_cons_self ..)
          (sha256_of_hash_token (stored_hash_match.mp matched))
      exact ⟨issued, current_eq_some_iff.mp shape, young, own.symm, rfl⟩
    · rintro ⟨issued, last, young, rfl, rfl⟩
      exact ⟨issued.drawn.token.len_text, _, tracks.live ordered last young, young, stored_hash_match.mpr rfl, rfl⟩
  · intro issued last young other
    have live := tracks.live ordered last young
    constructor
    · rcases csrf_token_at_state crates token now state with same | ⟨_, session, live', expired⟩
      · exact same
      · rw [live] at live'
        cases live'
        exact absurd young (Nat.not_lt.mpr expired)
    · rcases logout_cases crates token state with ⟨same, _⟩ | ⟨_, session, live', matched⟩
      · exact same
      · rw [live] at live'
        cases live'
        have own : issued.drawn.token.text = token :=
          distinct _ (List.mem_cons_of_mem _ (hashed_of_current (current_eq_some_iff.mpr last))) token
            (List.mem_cons_self ..) (sha256_of_hash_token (stored_hash_match.mp matched))
        exact absurd own.symm other

private def firstSession : SessionTokens where
  token := ⟨"p8QzK4vTn2XcL6mYd0RbW9sHf3GjE7uAo5ViN1tZqCxMkBwJrDyFhSgPaUeOlI2T".toList, by decide, List.all_eq_true.mp (by decide)⟩
  csrf := ⟨"CCCCCCCCCCsrf0Tokensrf0Tokensrf0Tokensrf0Tokensrf0Tokensrf0Token".toList, by decide, List.all_eq_true.mp (by decide)⟩

private def secondSession : SessionTokens where
  token := ⟨"Zr5WmB8kUy1NsXe7QhCv0TdLg3JfPo9AiR6bKw4GnYxMtSzEuHqVcDjFlOpIa2L8".toList, by decide, List.all_eq_true.mp (by decide)⟩
  csrf := ⟨"nekoT0frsnekoT0frsnekoT0frsnekoT0frsnekoT0frsnekoT0frsCCCCCCCCCC".toList, by decide, List.all_eq_true.mp (by decide)⟩

private def sessionCrates : Crates where
  sha256 := fun input =>
    if input = bytes firstSession.token.text then
      #v[250, 7, 13, 32, 57, 194, 205, 123, 213, 170, 206, 21, 132, 250, 78, 164, 241, 102, 246, 190, 68, 26, 178, 69, 6, 195, 166, 248, 209, 128, 196, 140]
    else if input = bytes secondSession.token.text then
      #v[145, 179, 118, 166, 249, 4, 108, 6, 186, 158, 73, 117, 156, 46, 80, 222, 93, 253, 36, 161, 90, 173, 183, 175, 18, 2, 196, 22, 69, 121, 140, 171]
    else Vector.replicate 32 0
  parse_datetime := fun _ => none
  groups_to_json := fun _ => "[]"
  groups_from_json := fun _ => none
  verify_password := fun _ _ => false
  is_uppercase := Char.isUpper
  is_lowercase := Char.isLower
  is_numeric := Char.isDigit
  is_alphanumeric := Char.isAlphanum

/-- A rotated session: the second token is answered, and a logout with the first changes nothing. -/
theorem session_law_rotated :
    (csrf_token_at sessionCrates secondSession.token.text 90 (after sessionCrates
      [.issue_session firstSession 10, .csrf_token firstSession.token.text 20, .issue_session secondSession 80,
        .logout firstSession.token.text] (.initial 0))).1 = some secondSession.csrf.text :=
  ((session_law sessionCrates 0 _ secondSession.token.text 90 (by decide) (by unfold NoCollision; decide)).1 _).mpr
    ⟨⟨secondSession, 80⟩, ⟨[.issue_session firstSession 10, .csrf_token firstSession.token.text 20],
      [.logout firstSession.token.text], rfl, by simp, by decide⟩, by decide, rfl, rfl⟩

end InviteSystem.Sessions
