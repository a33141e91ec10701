import InviteSystem.Application
import InviteSystem.LoginThrottle
import InviteSystem.Sessions

/-!
Sign-ins in runs of the whole application: whatever the interleaving, a
privileged access of a request lies behind a verified login of the configured
administrator, whose session was the current one when the request was let in.
-/
namespace InviteSystem.SignIns
open InviteSystem.Runs InviteSystem.Text InviteSystem.Libraries InviteSystem.Tokens InviteSystem.Authentication
open InviteSystem.AdminRoutes InviteSystem.Programs InviteSystem.Traces InviteSystem.Application
open InviteSystem.Sessions (Issued LastIssued)
open InviteSystem.AdminTraces (Privileged SigningIn Entitled Answered)
open InviteSystem.InviteStorage (Database)
open InviteSystem.Accounts (Directory)
open InviteSystem.DirectoryServer (servedWorld)

section
variable {ι : Type}

/-! ### What the steps of a run say -/

def spawned (i : ι) (stored_hash password : String) : Label ι Call Reply :=
  .call i (.admin (.spawn_verification stored_hash password)) true

def joined (i : ι) (valid : Bool) : Label ι Call Reply := .call i (.admin .join_verification) (some valid)

def issuedBy (i : ι) (session : Issued) : Label ι Call Reply :=
  .call i (.admin (.issue_session session.drawn session.issuedAt)) session.drawn.token.text

def readBy (i : ι) (now : Instant) : Label ι Call Reply := .call i (.admin .instant_now) now

def drawnBy (i : ι) (drawn : SessionTokens) : Label ι Call Reply := .call i (.admin .draw_session) drawn

def answered (i : ι) (token : String) (now : Instant) (csrf : String) : Label ι Call Reply :=
  .call i (.admin (.csrf_token_at token now)) (some csrf)

/-- The access to the session that a call is. -/
def sessionCall : Call → Option Sessions.Call
  | .admin (.issue_session drawn now) => some (.issue_session drawn now)
  | .admin (.csrf_token_at token now) => some (.csrf_token token now)
  | .admin (.logout token) => some (.logout token)
  | _ => none

def Label.session : Label ι Call Reply → Option Sessions.Call
  | .call _ c _ => sessionCall c
  | _ => none

/-- The accesses to the session, in their order. -/
def sessionCalls (labels : List (Label ι Call Reply)) : List Sessions.Call := labels.filterMap Label.session

theorem sessionCalls_snoc (labels : List (Label ι Call Reply)) (l : Label ι Call Reply) :
    sessionCalls (labels ++ [l]) = sessionCalls labels ++ (Label.session l).toList := by
  cases found : Label.session l <;> simp [sessionCalls, found]

variable [DecidableEq ι] {crates : Crates} {config : AppConfig} {arrivals : ι → Arrival}

/-! ### What a call leaves alone -/

theorem perform_verifier {w w' : World ι} {i : ι} {c : Call} {reply : Reply c}
    (unspawned : ∀ stored_hash password, c ≠ .admin (.spawn_verification stored_hash password))
    (unjoined : c ≠ .admin .join_verification) (performed : Perform crates i w c reply w') :
    w'.permits = w.permits ∧ w'.tasks = w.tasks ∧ w'.outcomes = w.outcomes := by
  cases c with
  | redemption c =>
    obtain ⟨after, _, rfl⟩ := performed
    exact ⟨rfl, rfl, rfl⟩
  | admin c =>
    cases c with
    | spawn_verification stored_hash password => exact absurd rfl (unspawned stored_hash password)
    | join_verification => exact absurd rfl unjoined
    | repository call =>
      obtain ⟨store, rfl, _⟩ := performed
      exact ⟨rfl, rfl, rfl⟩
    | list_recent limit =>
      obtain ⟨rfl, _⟩ := performed
      exact ⟨rfl, rfl, rfl⟩
    | logout token =>
      cases performed
      exact ⟨rfl, rfl, rfl⟩
    | reserve_attempt now =>
      obtain ⟨_, rfl⟩ := performed
      exact ⟨rfl, rfl, rfl⟩
    | issue_session drawn now =>
      obtain ⟨_, rfl⟩ := performed
      exact ⟨rfl, rfl, rfl⟩
    | csrf_token_at token now =>
      obtain ⟨_, rfl⟩ := performed
      exact ⟨rfl, rfl, rfl⟩
    | _ =>
      cases performed
      exact ⟨rfl, rfl, rfl⟩

theorem perform_session {w w' : World ι} {i : ι} {c : Call} {reply : Reply c} (silent : sessionCall c = none)
    (performed : Perform crates i w c reply w') : w'.auth.session = w.auth.session := by
  cases c with
  | redemption c =>
    obtain ⟨after, _, rfl⟩ := performed
    rfl
  | admin c =>
    cases c with
    | issue_session drawn now => cases silent
    | csrf_token_at token now => cases silent
    | logout token => cases silent
    | reserve_attempt now =>
      obtain ⟨_, rfl⟩ := performed
      exact reserve_attempt_session w.auth now
    | spawn_verification stored_hash password =>
      rcases performed with ⟨_, _, rfl⟩ | ⟨_, _, rfl⟩ <;> rfl
    | join_verification =>
      obtain ⟨_, rfl⟩ := performed
      rfl
    | repository call =>
      obtain ⟨store, rfl, _⟩ := performed
      rfl
    | list_recent limit =>
      obtain ⟨rfl, _⟩ := performed
      rfl
    | _ =>
      cases performed
      rfl

/-! ### What a program has gone through -/

theorem reaches_admin {arrival : Arrival} {calls : List ((c : Call) × Reply c)} {c : AdminPrograms.Call}
    {next : AdminPrograms.Reply c → Program Call Reply Answer}
    (reached : Reaches (program crates config arrival) calls (.call (.admin c) next)) :
    ∃ request own next', arrival = .admin request ∧ calls = own.map (callAlong (R := Reply) Call.admin) ∧
      Reaches (AdminPrograms.handle crates config.admin request) own (.call c next') := by
  cases arrival with
  | admin request =>
    obtain ⟨own, c', next', rfl, same, within⟩ := reaches_along_call reached
    cases same
    exact ⟨request, own, next', rfl, rfl, within⟩
  | redemption submission =>
    obtain ⟨own, c', next', _, same, _⟩ := reaches_along_call reached
    cases same

/-- The calls of a request before this one, as steps of the run. -/
theorem own_sublist {i : ι} {before : List (Label ι Call Reply)} {own : List AdminTraces.Made}
    (same : callsOf i before = own.map (callAlong (R := Reply) Call.admin)) :
    (own.map fun made => (.call i (.admin made.1) made.2 : Label ι Call Reply)).Sublist before := by
  have inOrder := callsOf_sublist i before
  rw [same, List.map_map] at inOrder
  exact inOrder

/-! ### Verifications -/

/-- The one permit is free or with one task; what runs, and what has ended, was
    spawned for its request, with the answer of the password check. -/
structure Verifying (crates : Crates) (labels : List (Label ι Call Reply)) (w : World ι) : Prop where
  permit : w.permits + w.tasks.length = 1
  running : ∀ i stored_hash password, (i, stored_hash, password) ∈ w.tasks → spawned i stored_hash password ∈ labels
  ended : ∀ i valid, w.outcomes i = some (some valid) → ∃ stored_hash password,
    spawned i stored_hash password ∈ labels ∧ crates.verify_password stored_hash (bytes password) = valid

omit [DecidableEq ι] in
theorem Verifying.snoc {labels : List (Label ι Call Reply)} {w w' : World ι} (verifying : Verifying crates labels w)
    {l : Label ι Call Reply} (idle : w'.permits = w.permits ∧ w'.tasks = w.tasks ∧ w'.outcomes = w.outcomes) :
    Verifying crates (labels ++ [l]) w' := by
  obtain ⟨permits, tasks, outcomes⟩ := idle
  refine ⟨?_, ?_, ?_⟩
  · rw [permits, tasks]
    exact verifying.permit
  · intro i stored_hash password member
    rw [tasks] at member
    exact List.mem_append_left _ (verifying.running i stored_hash password member)
  · intro i valid outcome
    rw [outcomes] at outcome
    obtain ⟨stored_hash, password, member, answer⟩ := verifying.ended i valid outcome
    exact ⟨stored_hash, password, List.mem_append_left _ member, answer⟩

/-- An answer that a request is given comes from a verification of its own. -/
def Verified (crates : Crates) (before : List (Label ι Call Reply)) (i : ι) : (c : Call) → Reply c → Prop
  | .admin .join_verification, some valid => ∃ stored_hash password, spawned i stored_hash password ∈ before ∧
      crates.verify_password stored_hash (bytes password) = valid
  | _, _ => True

theorem verifying_call {labels : List (Label ι Call Reply)} {w w' : World ι} {i : ι} {c : Call} {reply : Reply c}
    (verifying : Verifying crates labels w) (performed : Perform crates i w c reply w') :
    Verifying crates (labels ++ [.call i c reply]) w' ∧ Verified crates labels i c reply := by
  by_cases spawning : ∃ stored_hash password, c = .admin (.spawn_verification stored_hash password)
  · obtain ⟨stored_hash, password, rfl⟩ := spawning
    refine ⟨?_, trivial⟩
    rcases performed with ⟨_, rfl, rfl⟩ | ⟨free, rfl, rfl⟩
    · exact verifying.snoc ⟨rfl, rfl, rfl⟩
    · have permit := verifying.permit
      refine ⟨?_, ?_, ?_⟩
      · simp only [List.length_append, List.length_singleton]
        omega
      · intro j stored_hash' password' member
        rcases List.mem_append.mp member with earlier | new
        · exact List.mem_append_left _ (verifying.running _ _ _ earlier)
        · cases List.mem_singleton.mp new
          exact List.mem_append_right _ (List.mem_singleton_self _)
      · intro j valid outcome
        obtain ⟨stored_hash', password', member, answer⟩ := verifying.ended j valid outcome
        exact ⟨stored_hash', password', List.mem_append_left _ member, answer⟩
  by_cases joining : c = .admin .join_verification
  · subst joining
    obtain ⟨outcome, rfl⟩ := performed
    constructor
    · refine ⟨verifying.permit, ?_, ?_⟩
      · exact fun j stored_hash password member => List.mem_append_left _ (verifying.running j stored_hash password member)
      · intro j valid ended
        by_cases own : j = i
        · subst own
          simp at ended
        · simp only [Function.update_of_ne own] at ended
          obtain ⟨stored_hash, password, member, answer⟩ := verifying.ended j valid ended
          exact ⟨stored_hash, password, List.mem_append_left _ member, answer⟩
    · cases reply with
      | none => trivial
      | some valid => exact verifying.ended i valid outcome
  · have idle := perform_verifier (fun stored_hash password same => spawning ⟨stored_hash, password, same⟩) joining performed
    refine ⟨verifying.snoc idle, ?_⟩
    cases c with
    | redemption c => trivial
    | admin c => cases c <;> trivial

theorem verifying_outside {labels : List (Label ι Call Reply)} {w w' : World ι} (verifying : Verifying crates labels w)
    (changed : Outside crates w w') : Verifying crates (labels ++ [.outside]) w' := by
  cases changed with
  | @ended before after i stored_hash password outcome running answer =>
    have permit := verifying.permit
    rw [running] at permit
    have own : spawned i stored_hash password ∈ labels := verifying.running _ _ _ (by rw [running]; simp)
    refine ⟨?_, ?_, ?_⟩
    · simp only [List.length_append, List.length_cons] at permit ⊢
      omega
    · intro j stored_hash' password' member
      refine List.mem_append_left _ (verifying.running j stored_hash' password' ?_)
      rw [running]
      exact List.mem_append.mpr ((List.mem_append.mp member).imp_right (List.mem_cons_of_mem _))
    · intro j valid outcome'
      by_cases same : j = i
      · subst same
        rcases answer with rfl | rfl
        · simp at outcome'
        · simp only [Function.update_self, Option.some.injEq] at outcome'
          exact ⟨stored_hash, password, List.mem_append_left _ own, outcome'⟩
      · simp only [Function.update_of_ne same] at outcome'
        obtain ⟨stored_hash', password', member, answer'⟩ := verifying.ended j valid outcome'
        exact ⟨stored_hash', password', List.mem_append_left _ member, answer'⟩
  | cleanup => exact verifying.snoc ⟨rfl, rfl, rfl⟩
  | directory => exact verifying.snoc ⟨rfl, rfl, rfl⟩

variable {started : Instant} {directory : Directory ι} {store : Database} {labels : List (Label ι Call Reply)}
  {s : System (World ι) ι Call Reply Answer}

theorem run_verifying
    (run : Run (Steps crates config arrivals) (.initial (World.initialized started directory store)) labels s) :
    Verifying crates labels s.world ∧
      Justified (fun before l => ∀ i c reply, l = .call i c reply → Verified crates before i c reply) labels :=
  run_justified (Verifying crates) (Verified crates)
    (fun _ _ _ verifying => verifying.snoc ⟨rfl, rfl, rfl⟩)
    (fun _ _ _ _ _ _ _ verifying _ performed => verifying_call verifying performed)
    (fun _ _ _ verifying changed => verifying_outside verifying changed)
    ⟨rfl, by rintro i stored_hash password ⟨⟩, by rintro i valid ⟨⟩⟩ run

/-! ### Sessions -/

/-- The stored session is the one that was issued last, and not logged out since. -/
def Standing (crates : Crates) (labels : List (Label ι Call Reply)) (w : World ι) : Prop :=
  ∀ session, w.auth.session = some session →
    ∃ issued, LastIssued (sessionCalls labels) issued ∧ session = issued.session crates

omit [DecidableEq ι] in
theorem Standing.snoc {w w' : World ι} (standing : Standing crates labels w) {l : Label ι Call Reply}
    (silent : Label.session l = none) (same : w'.auth.session = w.auth.session) : Standing crates (labels ++ [l]) w' := by
  intro session live
  rw [same] at live
  rw [sessionCalls_snoc, silent, Option.toList_none, List.append_nil]
  exact standing session live

/-- A session is issued under its own token, and a token is answered for the
    session that stands. -/
def Stood (crates : Crates) (before : List (Label ι Call Reply)) : (c : Call) → Reply c → Prop
  | .admin (.issue_session drawn _), token => token = drawn.token.text
  | .admin (.csrf_token_at token now), some csrf => ∃ session, LastIssued (sessionCalls before) session ∧
      now < session.expires ∧ hash_token crates session.drawn.token.text = hash_token crates token ∧
      csrf = session.drawn.csrf.text
  | _, _ => True

theorem standing_call {w w' : World ι} {i : ι} {c : Call} {reply : Reply c} (standing : Standing crates labels w)
    (performed : Perform crates i w c reply w') :
    Standing crates (labels ++ [.call i c reply]) w' ∧ Stood crates labels c reply := by
  cases accesses : sessionCall c with
  | none =>
    refine ⟨standing.snoc accesses (perform_session accesses performed), ?_⟩
    cases c with
    | redemption c => trivial
    | admin c => cases c <;> trivial
  | some call =>
    have history : sessionCalls (labels ++ [.call i c reply]) = sessionCalls labels ++ [call] := by
      simp [sessionCalls_snoc, Label.session, accesses]
    unfold Standing
    rw [history]
    cases c with
    | redemption c => cases accesses
    | admin c =>
      cases c with
      | issue_session drawn now =>
        cases accesses
        obtain ⟨rfl, rfl⟩ := performed
        refine ⟨?_, rfl⟩
        intro session live
        cases live
        exact ⟨⟨drawn, now⟩, Sessions.lastIssued_snoc.mpr (.inl rfl), rfl⟩
      | csrf_token_at token now =>
        cases accesses
        obtain ⟨rfl, rfl⟩ := performed
        constructor
        · intro session live
          have kept : w.auth.session = some session := by
            rcases csrf_token_at_state crates token now w.auth with same | ⟨dropped, _⟩
            · rwa [same] at live
            · rw [dropped] at live
              cases live
          obtain ⟨issued, last, rfl⟩ := standing session kept
          exact ⟨issued, Sessions.lastIssued_snoc.mpr (.inr ⟨by rintro _ _ ⟨⟩, by rintro ⟨⟩, last⟩), rfl⟩
        · cases answer : (csrf_token_at crates token now w.auth).1 with
          | none => trivial
          | some csrf =>
            obtain ⟨_, session, live, young, matched, rfl⟩ := csrf_token_at_eq_some.mp answer
            obtain ⟨issued, last, rfl⟩ := standing session live
            exact ⟨issued, last, young, stored_hash_match.mp matched, rfl⟩
      | logout token =>
        cases accesses
        cases performed
        refine ⟨?_, trivial⟩
        intro session live
        rcases logout_cases crates token w.auth with ⟨same, unmatched⟩ | ⟨dropped, _⟩
        · rw [same] at live
          obtain ⟨issued, last, rfl⟩ := standing session live
          refine ⟨issued, Sessions.lastIssued_snoc.mpr (.inr ⟨by rintro _ _ ⟨⟩, ?_, last⟩), rfl⟩
          -- a logout with its token would have matched
          rintro ⟨⟩
          have refuted := unmatched _ live
          rw [Issued.session, stored_hash_match.mpr rfl] at refuted
          cases refuted
        · rw [dropped] at live
          cases live
      | _ => cases accesses

theorem run_standing
    (run : Run (Steps crates config arrivals) (.initial (World.initialized started directory store)) labels s) :
    Standing crates labels s.world ∧
      Justified (fun before l => ∀ i c reply, l = .call i c reply → Stood crates before c reply) labels := by
  refine run_justified (Standing crates) (fun before _ c reply => Stood crates before c reply) ?_ ?_ ?_ ?_ run
  · exact fun _ _ _ standing => standing.snoc rfl rfl
  · exact fun _ _ _ _ _ _ _ standing _ performed => standing_call standing performed
  · intro s labels world' standing changed
    cases changed <;> exact standing.snoc rfl rfl
  · rintro session ⟨⟩

/-! ### Behind a privileged access -/

/-- A login of the configured administrator: the verifier accepted the password
    that it sent, and then the session that it drew was issued to it. -/
def SignsIn (crates : Crates) (config : AdminConfig) (arrivals : ι → Arrival) (labels : List (Label ι Call Reply)) (k : ι)
    (session : Issued) : Prop :=
  ∃ request form, arrivals k = .admin request ∧ request.endpoint = .login form ∧ require_origin config request = none ∧
    form.username = config.auth.username ∧ config.auth.password_hash ≠ "" ∧
    crates.verify_password config.auth.password_hash (bytes form.password) = true ∧
    [spawned k config.auth.password_hash form.password, joined k true, readBy k session.issuedAt, drawnBy k session.drawn,
      issuedBy k session].Sublist labels

/-- Every session of a run was issued by such a login. -/
theorem issued_signsIn
    (run : Run (Steps crates config arrivals) (.initial (World.initialized started directory store)) labels s)
    {before after : List (Label ι Call Reply)} {k : ι} {session : Issued} (shape : labels = before ++ issuedBy k session :: after) :
    SignsIn crates config.admin arrivals (before ++ [issuedBy k session]) k session := by
  obtain ⟨next, reached⟩ := run_came run before _ after shape k _ _ rfl
  obtain ⟨request, own, next', arrival, calls, within⟩ := reaches_admin reached
  obtain ⟨form, next'', endpoint, origin, login⟩ := AdminTraces.reaches_signingIn rfl within
  obtain ⟨configured, _, now, after', rfl, cases⟩ := AdminTraces.login_calls (by rintro ⟨⟩) (by rintro _ ⟨⟩) login
  rcases cases with ⟨same, _⟩ | ⟨same, _⟩ | ⟨rest, named, rfl, issuing⟩
  · cases same
  · cases same
  obtain rfl := AdminTraces.issue_session_calls issuing
  have inOrder := own_sublist calls
  have ordered : [spawned k config.admin.auth.password_hash form.password, joined k true, readBy k session.issuedAt,
      drawnBy k session.drawn].Sublist before := List.Sublist.trans (by simp [spawned, joined, readBy, drawnBy]) inOrder
  refine ⟨request, form, arrival, endpoint, origin, named, configured, ?_, ordered.append (List.Sublist.refl _)⟩
  -- the answer that was awaited is of the verification that this login spawned
  have verified := (run_verifying run).2
  rw [shape] at verified
  obtain ⟨earlier, since, rfl, _, answer⟩ := verified.before.mem (ordered.subset (by simp : joined k true ∈ _))
  obtain ⟨stored_hash, password, spawning, valid⟩ := answer k _ _ rfl
  have own : (⟨.admin (.spawn_verification stored_hash password), true⟩ : (c : Call) × Reply c) ∈
      callsOf k (earlier ++ joined k true :: since) := mem_callsOf.mpr (List.mem_append_left _ spawning)
  rw [calls] at own
  obtain ⟨rfl, rfl⟩ : stored_hash = config.admin.auth.password_hash ∧ password = form.password := by
    simpa [callAlong] using own
  exact valid

omit [DecidableEq ι] in
theorem SignsIn.mono {config : AdminConfig} {earlier later : List (Label ι Call Reply)} {k : ι} {session : Issued}
    (signsIn : SignsIn crates config arrivals earlier k session) (prior : earlier.Sublist later) :
    SignsIn crates config arrivals later k session := by
  obtain ⟨request, form, arrival, endpoint, origin, named, configured, verified, steps⟩ := signsIn
  exact ⟨request, form, arrival, endpoint, origin, named, configured, verified, steps.trans prior⟩

omit [DecidableEq ι] in
theorem mem_sessionCalls {session : Issued} {before : List (Label ι Call Reply)}
    (stood : Justified (fun before l => ∀ i c reply, l = .call i c reply → Stood crates before c reply) before)
    (issued : .issue_session session.drawn session.issuedAt ∈ sessionCalls before) : ∃ k, issuedBy k session ∈ before := by
  obtain ⟨l, member, hit⟩ := List.mem_filterMap.mp issued
  cases l with
  | arrival i => cases hit
  | outside => cases hit
  | call i c reply =>
    cases c with
    | redemption c => cases hit
    | admin c =>
      cases c with
      | issue_session drawn now =>
        cases hit
        obtain ⟨earlier, since, _, _, own⟩ := stood.mem member
        have token : reply = session.drawn.token.text := own i _ reply rfl
        subst token
        exact ⟨i, member⟩
      | _ => cases hit

/-- An answered token is that of the session that was issued last, to such a
    login, and has not been logged out nor come of age since. -/
theorem answered_signedIn
    (run : Run (Steps crates config arrivals) (.initial (World.initialized started directory store)) labels s)
    {before after : List (Label ι Call Reply)} {i : ι} {token csrf : String} {now : Instant}
    (shape : labels = before ++ answered i token now csrf :: after) :
    ∃ k session, SignsIn crates config.admin arrivals before k session ∧ LastIssued (sessionCalls before) session ∧
      now < session.expires ∧ hash_token crates session.drawn.token.text = hash_token crates token ∧
      csrf = session.drawn.csrf.text := by
  have stood := (run_standing run).2
  obtain ⟨session, last, young, same, answer⟩ := stood before _ after shape i _ _ rfl
  have issued : .issue_session session.drawn session.issuedAt ∈ sessionCalls before := by
    obtain ⟨earlier, since, calls, _⟩ := last
    simp [calls]
  rw [shape] at stood
  obtain ⟨k, member⟩ := mem_sessionCalls stood.before issued
  obtain ⟨first, second, rfl⟩ := List.mem_iff_append.mp member
  have parts : labels = first ++ issuedBy k session :: (second ++ answered i token now csrf :: after) := by simp [shape]
  have prior : (first ++ [issuedBy k session]).Sublist (first ++ issuedBy k session :: second) := by simp
  exact ⟨k, session, (issued_signsIn run parts).mono prior, last, young, same, answer⟩

/-- What a request with a privileged access has behind it: its guard read the
    clock and the CSRF token of its session cookie, and it asks for what it may,
    by what it has read and drawn since. -/
theorem privileged_read
    (run : Run (Steps crates config arrivals) (.initial (World.initialized started directory store)) labels s)
    {before after : List (Label ι Call Reply)} {i : ι} {c : AdminPrograms.Call} {reply : AdminPrograms.Reply c}
    (shape : labels = before ++ .call i (.admin c) reply :: after) (privileged : Privileged c = true) :
    ∃ request token now csrf behind earlier since, arrivals i = .admin request ∧
      request.cookies SESSION_COOKIE = some token ∧ Entitled crates config.admin request csrf behind c ∧
      before = earlier ++ answered i token now csrf :: since ∧ readBy i now ∈ earlier ∧
      callsOf i since = behind.map (callAlong (R := Reply) Call.admin) := by
  obtain ⟨next, reached⟩ := run_came run before _ after shape i _ _ rfl
  obtain ⟨request, own, next', arrival, calls, within⟩ := reaches_admin reached
  obtain ⟨csrf, first, second, rfl, ⟨token, now, cookie, rfl⟩, entitled⟩ := AdminTraces.reaches_privileged privileged within
  have guard : callsOf i before = [⟨.admin .instant_now, now⟩] ++
      ⟨.admin (.csrf_token_at token now), some csrf⟩ :: second.map (callAlong (R := Reply) Call.admin) := calls
  obtain ⟨earlier, since, parts, own, behind⟩ := callsOf_split guard
  have reading : readBy i now ∈ earlier := mem_callsOf.mp (by rw [own]; exact List.mem_singleton_self _)
  exact ⟨request, token, now, csrf, second, earlier, since, arrival, cookie, entitled, parts, reading, behind⟩

/-! ### How many passwords are tried -/

/-- The reading of an attempt that the throttle let pass. -/
def accepted : Label ι Call Reply → Option Nat
  | .call _ (.admin (.reserve_attempt now)) none => some now
  | _ => none

/-- The request whose attempt the throttle let pass. -/
def attempter : Label ι Call Reply → Option ι
  | .call i (.admin (.reserve_attempt _)) none => some i
  | _ => none

/-- The request whose verification is spawned. -/
def spawner : Label ι Call Reply → Option ι
  | .call i (.admin (.spawn_verification _ _)) true => some i
  | _ => none

omit [DecidableEq ι] in
theorem accepted_eq_none {i : ι} {c : Call} {reply : Reply c} (unreserved : ∀ now, c ≠ .admin (.reserve_attempt now)) :
    accepted (.call i c reply) = none := by
  cases c with
  | redemption c => rfl
  | admin c =>
    cases c with
    | reserve_attempt now => exact absurd rfl (unreserved now)
    | _ => rfl

omit [DecidableEq ι] in
theorem attempter_isSome (l : Label ι Call Reply) : (attempter l).isSome = (accepted l).isSome := by
  cases l with
  | arrival i => rfl
  | outside => rfl
  | call i c reply =>
    cases c with
    | redemption c => rfl
    | admin c =>
      cases c with
      | reserve_attempt now => cases reply <;> rfl
      | _ => rfl

omit [DecidableEq ι] in
theorem spawner_eq_some {l : Label ι Call Reply} {i : ι} :
    spawner l = some i ↔ ∃ stored_hash password, l = spawned i stored_hash password := by
  constructor
  · intro spawns
    cases l with
    | arrival j => cases spawns
    | outside => cases spawns
    | call j c reply =>
      cases c with
      | redemption c => cases spawns
      | admin c =>
        cases c with
        | spawn_verification stored_hash password =>
          cases reply with
          | false => cases spawns
          | true =>
            cases spawns
            exact ⟨stored_hash, password, rfl⟩
        | _ => cases spawns
  · rintro ⟨stored_hash, password, rfl⟩
    rfl

theorem perform_window {w w' : World ι} {i : ι} {c : Call} {reply : Reply c}
    (unreserved : ∀ now, c ≠ .admin (.reserve_attempt now)) (performed : Perform crates i w c reply w') :
    w'.auth.window_started = w.auth.window_started ∧ w'.auth.attempts = w.auth.attempts := by
  cases c with
  | redemption c =>
    obtain ⟨after, _, rfl⟩ := performed
    exact ⟨rfl, rfl⟩
  | admin c =>
    cases c with
    | reserve_attempt now => exact absurd rfl (unreserved now)
    | spawn_verification stored_hash password =>
      rcases performed with ⟨_, _, rfl⟩ | ⟨_, _, rfl⟩ <;> exact ⟨rfl, rfl⟩
    | join_verification =>
      obtain ⟨_, rfl⟩ := performed
      exact ⟨rfl, rfl⟩
    | issue_session drawn now =>
      obtain ⟨_, rfl⟩ := performed
      exact ⟨rfl, rfl⟩
    | csrf_token_at token now =>
      obtain ⟨_, rfl⟩ := performed
      rcases csrf_token_at_state crates token now w.auth with same | ⟨dropped, _⟩
      · simp [same]
      · simp [dropped]
    | logout token =>
      cases performed
      rcases logout_cases crates token w.auth with ⟨same, _⟩ | ⟨dropped, _⟩
      · simp [same]
      · simp [dropped]
    | repository call =>
      obtain ⟨store, rfl, _⟩ := performed
      exact ⟨rfl, rfl⟩
    | list_recent limit =>
      obtain ⟨rfl, _⟩ := performed
      exact ⟨rfl, rfl⟩
    | _ =>
      cases performed
      exact ⟨rfl, rfl⟩

/-- What the throttle has let pass between two states: five attempts at most for
    each window that has begun in between, whose readings lie apart by a window. -/
structure Windows (before : AuthState) (past : List Nat) (windows : Nat) (after : AuthState) : Prop where
  counted : past.length + before.attempts.toNat ≤ 5 * windows + after.attempts.toNat
  few : after.attempts.toNat ≤ 5
  advanced : LOGIN_WINDOW * windows + before.window_started ≤ after.window_started
  opened : windows = 0 ∨ after.window_started ∈ past ∧ ∃ first ∈ past, LOGIN_WINDOW * (windows - 1) + first ≤ after.window_started

theorem Windows.attempt {before after : AuthState} {past : List Nat} {windows : Nat}
    (inv : Windows before past windows after) (now : Instant) :
    ∃ windows', Windows before (past ++ if (reserve_attempt after now).1 = none then [now] else []) windows'
      (reserve_attempt after now).2 := by
  obtain ⟨counted, few, advanced, opened⟩ := inv
  rcases LoginThrottle.reserve_attempt_cases after now with ⟨opens, late, same⟩ | ⟨_, ⟨joins, room, same⟩ | ⟨full, _, same⟩⟩
  · have passed : (reserve_attempt after now).1 = none := by simpa [LoginThrottle.attempt] using congrArg (·.accepted) opens
    rw [if_pos passed, same]
    refine ⟨windows + 1, ?_, by simp, ?_, .inr ⟨by simp, ?_⟩⟩
    · simp only [List.length_append, List.length_singleton]
      change past.length + 1 + before.attempts.toNat ≤ 5 * (windows + 1) + 1
      omega
    · rw [Nat.mul_add]
      change LOGIN_WINDOW * windows + LOGIN_WINDOW * 1 + before.window_started ≤ now
      omega
    · rcases opened with rfl | ⟨_, first, member, spread⟩
      · exact ⟨now, by simp, by simp⟩
      · refine ⟨first, List.mem_append_left _ member, ?_⟩
        have more : LOGIN_WINDOW * (windows + 1 - 1) ≤ LOGIN_WINDOW * (windows - 1) + LOGIN_WINDOW := by
          rw [← Nat.mul_succ]
          exact Nat.mul_le_mul_left _ (by omega)
        change LOGIN_WINDOW * (windows + 1 - 1) + first ≤ now
        omega
  · have passed : (reserve_attempt after now).1 = none := by simpa [LoginThrottle.attempt] using congrArg (·.accepted) joins
    have next : (after.attempts + 1).toNat = after.attempts.toNat + 1 := by
      rw [UInt32.toNat_add]
      change (after.attempts.toNat + 1) % 4294967296 = _
      omega
    rw [if_pos passed, same]
    refine ⟨windows, ?_, ?_, advanced, opened.imp_right ?_⟩
    · simp only [List.length_append, List.length_singleton, next]
      omega
    · simp only [next]
      omega
    · rintro ⟨last, first, member, spread⟩
      exact ⟨List.mem_append_left _ last, first, List.mem_append_left _ member, spread⟩
  · have refused : (reserve_attempt after now).1 ≠ none := by simpa [LoginThrottle.attempt] using congrArg (·.accepted) full
    rw [if_neg refused, same, List.append_nil]
    exact ⟨windows, counted, few, advanced, opened⟩

theorem run_windows {m : System (World ι) ι Call Reply Answer} (run : Run (Steps crates config arrivals) m labels s)
    (few : m.world.auth.attempts.toNat ≤ 5) :
    ∃ windows, Windows m.world.auth (labels.filterMap accepted) windows s.world.auth := by
  induction run with
  | stay => exact ⟨0, by simp, few, by simp, .inl rfl⟩
  | @next labels s s' l _ taken ih =>
    obtain ⟨windows, inv⟩ := ih
    rw [List.filterMap_append]
    cases taken with
    | @arrival i absent =>
      have past : [Label.arrival i].filterMap accepted = [] := rfl
      exact ⟨windows, by simpa only [past, List.append_nil] using inv⟩
    | outside changed =>
      have past : [Label.outside].filterMap (accepted (ι := ι)) = [] := rfl
      refine ⟨windows, ?_⟩
      cases changed <;> simpa only [past, List.append_nil] using inv
    | @call i c next reply world running performed =>
      by_cases reserving : ∃ now, c = .admin (.reserve_attempt now)
      · obtain ⟨now, rfl⟩ := reserving
        obtain ⟨rfl, rfl⟩ := performed
        have past : [Label.call i (.admin (.reserve_attempt now)) (reserve_attempt s.world.auth now).1].filterMap accepted =
            if (reserve_attempt s.world.auth now).1 = none then [now] else [] := by
          cases (reserve_attempt s.world.auth now).1 <;> rfl
        rw [past]
        exact inv.attempt now
      · push Not at reserving
        obtain ⟨started, attempts⟩ := perform_window reserving performed
        have past : [Label.call i c reply].filterMap accepted = [] := by simp [accepted_eq_none reserving]
        rw [past, List.append_nil]
        refine ⟨windows, ?_, ?_, ?_, ?_⟩
        · simpa only [attempts] using inv.counted
        · simpa only [attempts] using inv.few
        · simpa only [started] using inv.advanced
        · simpa only [started] using inv.opened

/-- Over any part of a run, in whatever order the clock readings of the logins
    come to the throttle: readings that span less than `n` minutes let at most
    `5 * (n + 1)` attempts pass. -/
theorem attempts_bounded {first second : List (Label ι Call Reply)} {m : System (World ι) ι Call Reply Answer}
    (earlier : Run (Steps crates config arrivals) (.initial (World.initialized started directory store)) first m)
    (run : Run (Steps crates config arrivals) m second s) {a n : Nat}
    (within : ∀ now ∈ second.filterMap accepted, a ≤ now ∧ now < LOGIN_WINDOW * n + a) :
    (second.filterMap accepted).length ≤ 5 * (n + 1) := by
  obtain ⟨_, before⟩ := run_windows earlier (Nat.zero_le 5)
  obtain ⟨windows, counted, few, _, opened⟩ := run_windows run before.few
  have fit : windows ≤ n := by
    rcases opened with rfl | ⟨last, first, member, spread⟩
    · exact Nat.zero_le n
    · have low := (within first member).1
      have high := (within _ last).2
      have less : LOGIN_WINDOW * (windows - 1) < LOGIN_WINDOW * n := by omega
      have bound := Nat.lt_of_mul_lt_mul_left less
      omega
  omega

/-- A verification is spawned for a request whose attempt was let pass, and once. -/
theorem spawner_attempted
    (run : Run (Steps crates config arrivals) (.initial (World.initialized started directory store)) labels s) :
    Justified (fun before l => ∀ i, spawner l = some i → i ∈ before.filterMap attempter ∧ i ∉ before.filterMap spawner)
      labels := by
  intro before l after shape i spawns
  obtain ⟨stored_hash, password, rfl⟩ := spawner_eq_some.mp spawns
  obtain ⟨next, reached⟩ := run_came run before _ after shape i _ _ rfl
  obtain ⟨request, own, next', _, calls, within⟩ := reaches_admin reached
  obtain ⟨form, next'', _, _, login⟩ := AdminTraces.reaches_signingIn rfl within
  obtain ⟨_, _, now, after', rfl, cases⟩ := AdminTraces.login_calls (by rintro ⟨⟩) (by rintro _ ⟨⟩) login
  obtain ⟨_, rfl⟩ | ⟨same, _⟩ | ⟨rest, _, rfl, issuing⟩ := cases
  · constructor
    · have attempted : (.call i (.admin (.reserve_attempt now)) none : Label ι Call Reply) ∈ before :=
        (own_sublist calls).subset (by simp)
      exact List.mem_filterMap.mpr ⟨_, attempted, rfl⟩
    · intro again
      obtain ⟨l, member, hit⟩ := List.mem_filterMap.mp again
      obtain ⟨stored_hash', password', rfl⟩ := spawner_eq_some.mp hit
      have made := mem_callsOf.mpr member
      rw [calls] at made
      simp [callAlong] at made
  · cases same
  · have issues : Only (fun c => ∀ stored_hash password, c ≠ .spawn_verification stored_hash password)
        AdminPrograms.issue_session :=
      ⟨by rintro _ _ ⟨⟩, fun _ => ⟨by rintro _ _ ⟨⟩, fun _ => ⟨by rintro _ _ ⟨⟩, fun _ => trivial⟩⟩⟩
    exact absurd rfl (only_call issues issuing stored_hash password)

theorem spawners_attempted
    (run : Run (Steps crates config arrivals) (.initial (World.initialized started directory store)) labels s) :
    (labels.filterMap spawner).Nodup ∧ labels.filterMap spawner ⊆ labels.filterMap attempter := by
  have attempted := spawner_attempted run
  clear run
  induction labels using List.reverseRecOn with
  | nil => simp
  | append_singleton labels l ih =>
    obtain ⟨distinct, subset⟩ := ih attempted.before
    have last := attempted labels l [] rfl
    rw [List.filterMap_append, List.filterMap_append]
    cases spawns : spawner l with
    | none =>
      rw [show [l].filterMap spawner = [] by simp [spawns], List.append_nil]
      exact ⟨distinct, List.Subset.trans subset (List.subset_append_left ..)⟩
    | some i =>
      obtain ⟨before, once⟩ := last i spawns
      rw [show [l].filterMap spawner = [i] by simp [spawns]]
      refine ⟨List.nodup_append.mpr ⟨distinct, List.nodup_singleton i, ?_⟩, ?_⟩
      · rintro j member k new rfl
        rw [List.mem_singleton] at new
        subst new
        exact once member
      · intro j member
        rcases List.mem_append.mp member with earlier | new
        · exact List.mem_append_left _ (subset earlier)
        · rw [List.mem_singleton] at new
          subst new
          exact List.mem_append_left _ before

omit [DecidableEq ι] in
theorem length_attempters (labels : List (Label ι Call Reply)) :
    (labels.filterMap attempter).length = (labels.filterMap accepted).length := by
  rw [List.length_filterMap_eq_countP, List.length_filterMap_eq_countP]
  exact List.countP_congr fun l _ => by rw [attempter_isSome]

/-- However many logins are at work, in whatever interleaving, whether they are
    waited for or dropped: one password is verified at a time, the permit is not
    lost, and within `n` minutes of readings no more than `5 * n` passwords are. -/
theorem verifications_bounded
    (run : Run (Steps crates config arrivals) (.initial (World.initialized started directory store)) labels s) {n : Nat}
    (some : 0 < n) (within : ∀ now ∈ labels.filterMap accepted, now < LOGIN_WINDOW * n + started) :
    s.world.permits + s.world.tasks.length = 1 ∧ (labels.filterMap spawner).length ≤ 5 * n := by
  refine ⟨(run_verifying run).1.permit, ?_⟩
  obtain ⟨windows, counted, few, advanced, opened⟩ := run_windows run (Nat.zero_le 5)
  obtain ⟨distinct, attempted⟩ := spawners_attempted run
  have fewer := (distinct.subperm attempted).length_le
  rw [length_attempters] at fewer
  have fit : windows + 1 ≤ n := by
    rcases opened with rfl | ⟨last, _⟩
    · exact some
    · have high := within _ last
      change LOGIN_WINDOW * windows + started ≤ _ at advanced
      have less : LOGIN_WINDOW * windows < LOGIN_WINDOW * n := by omega
      exact Nat.lt_of_mul_lt_mul_left less
  omega

end

/-- A login, up to its verification. -/
def knocking : List (Label Unit Call Reply) :=
  [.arrival (), .call () (.admin .instant_now) (from_secs 10), .call () (.admin (.reserve_attempt (from_secs 10))) none,
    spawned () morningConfig.admin.auth.password_hash "test-only admin password"]

theorem knocking_run : ∃ s rest, Run (Steps morningCrates morningConfig fun _ => .admin morningLogin)
    (.initial (World.initialized 0 (servedWorld Unit).directory (InviteStorage.migrated true))) knocking s ∧
    s.programs () = some rest := by
  refine ⟨_, _, (((Run.single (.arrival rfl)).next (.call rfl rfl)).next (.call rfl ⟨?_, rfl⟩)).next
    (.call rfl (.inr ⟨Nat.one_pos, rfl, rfl⟩)), rfl⟩
  decide

theorem verifications_bounded_sample : ∃ s,
    Run (Steps morningCrates morningConfig fun _ => .admin morningLogin)
      (.initial (World.initialized 0 (servedWorld Unit).directory (InviteStorage.migrated true))) knocking s ∧
    s.world.permits + s.world.tasks.length = 1 ∧ (knocking.filterMap spawner).length ≤ 5 * 1 := by
  obtain ⟨s, rest, run, _⟩ := knocking_run
  exact ⟨s, run, verifications_bounded run (by decide) (by decide)⟩

theorem attempts_bounded_sample : ∃ s,
    Run (Steps morningCrates morningConfig fun _ => .admin morningLogin)
      (.initial (World.initialized 0 (servedWorld Unit).directory (InviteStorage.migrated true))) knocking s ∧
    (knocking.filterMap accepted).length ≤ 5 * (1 + 1) := by
  obtain ⟨s, rest, run, _⟩ := knocking_run
  exact ⟨s, run, attempts_bounded .stay run (a := from_secs 5) (by decide)⟩

end InviteSystem.SignIns
