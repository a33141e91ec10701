import InviteSystem.AdminAuthorisation
import InviteSystem.GeneratedInvites
import InviteSystem.InviteLifetime
import InviteSystem.RedemptionTable
import InviteSystem.SignIns

/-!
What the application is there for can always be done: from every state that it
can reach, the administrator can sign in, generate an invite and hand it to a
newcomer, who gets the account, whatever the other requests have left undone.
The requests are those that have come to their handlers.
-/
namespace InviteSystem.Onboarding
open InviteSystem.Runs InviteSystem.Text InviteSystem.Chrono InviteSystem.Libraries InviteSystem.Tokens
open InviteSystem.Authentication InviteSystem.AdminRoutes InviteSystem.InviteRoutes InviteSystem.AdminAuthorisation
open InviteSystem.InviteStorage (InviteRecord Database)
open InviteSystem.Lldap (user_dn)
open InviteSystem.Programs InviteSystem.Traces InviteSystem.Accounts InviteSystem.SubmitInvite
open InviteSystem.DirectoryServer InviteSystem.SuccessfulRedemption InviteSystem.GeneratedInvites
open InviteSystem.RedemptionTable InviteSystem.Application InviteSystem.SignIns

/-! ### The three requests -/

/-- A sign-in from the login page, with the configured credentials. -/
structure ByAdministrator (crates : Crates) (config : AdminConfig) (request : Request) (form : LoginForm) : Prop where
  endpoint : request.endpoint = .login form
  sameOrigin : require_origin config request = none
  challenged : request.cookies LOGIN_COOKIE = some form.csrf
  whole : len form.csrf = 64
  username : form.username = config.auth.username
  enabled : config.auth.password_hash ≠ ""
  short : len form.password ≤ 1024
  verified : crates.verify_password config.auth.password_hash (bytes form.password) = true

/-- A login a minute after the window of the throttle was opened, whose
    verification is carried out. -/
structure Waited (auth : AuthState) (meets : Surroundings) : Prop where
  window : auth.window_started + from_secs 60 ≤ meets.now
  verifier : meets.verifier = ⟨false, false⟩

section
variable {crates : Crates} {config : AdminConfig} {request : Request} (meets : Surroundings) (app : App)

theorem login_granted {form : LoginForm} (byAdministrator : ByAdministrator crates config request form)
    (free : meets.verifier = ⟨false, false⟩) (window : LOGIN_WINDOW ≤ meets.now - app.auth.window_started) :
    ∃ auth, handle crates config request meets app = (.login_view 303 ""
        [(SESSION_COOKIE, meets.session.token.text, SESSION_SECONDS), (LOGIN_COOKIE, "", 0)], ⟨auth, app.store⟩) ∧
      auth.session = some ⟨hash_token crates meets.session.token.text, meets.session.csrf.text,
        meets.later + from_secs SESSION_SECONDS⟩ := by
  obtain ⟨endpoint, sameOrigin, challenged, whole, username, enabled, short, verified⟩ := byAdministrator
  have reserved : reserve_attempt app.auth meets.now = (none, ⟨app.auth.session, meets.now, 1⟩) := by
    simp only [reserve_attempt, window, if_true]
    rfl
  have matched : tokens_match form.csrf form.csrf = true := tokens_match_iff.mpr ⟨whole, rfl⟩
  have usable : ¬ (config.auth.password_hash.isEmpty = true ∨ 1024 < len form.password) := by
    simp only [String.isEmpty_iff, not_or, not_lt]
    exact ⟨enabled, short⟩
  have accepted : (!crates.verify_password config.auth.password_hash (bytes form.password) ||
      form.username != config.auth.username) = false := by
    simp [verified, username]
  have signedIn : Authentication.login crates config.auth form.username form.password meets.verifier meets.now meets.later
      meets.session app.auth = (.ok meets.session.token.text, (issue_session crates meets.session meets.later
        ⟨app.auth.session, meets.now, 1⟩).2) := by
    simp only [Authentication.login, reserved, if_neg usable, free, accepted]
    rfl
  refine ⟨(issue_session crates meets.session meets.later ⟨app.auth.session, meets.now, 1⟩).2, ?_, rfl⟩
  simp only [handle, endpoint, AdminRoutes.login, sameOrigin, challenged, matched, if_true, signedIn]

end

/-! ### The state they find -/

section
variable {ι : Type} [DecidableEq ι] {crates : Crates} {config : AppConfig} {arrivals : ι → Arrival}
  {s s' : System (World ι) ι Call Reply Answer}

/-- A request that has not arrived has no verification. -/
def Unspawned (s : System (World ι) ι Call Reply Answer) : Prop :=
  ∀ i, s.programs i = none → s.world.outcomes i = none ∧ ∀ task, (i, task) ∉ s.world.tasks

theorem unspawned_step {l : Label ι Call Reply} (unspawned : Unspawned s) (step : Steps crates config arrivals s l s') :
    Unspawned s' := by
  cases step with
  | @arrival i absent =>
    intro j none
    by_cases own : j = i
    · simp [own] at none
    · exact unspawned j (by simpa [own] using none)
  | @call i c next reply world running performed =>
    intro j none
    have other : j ≠ i := by
      rintro rfl
      simp at none
    obtain ⟨outcome, idle⟩ := unspawned j (by simpa [other] using none)
    by_cases spawning : ∃ stored_hash password, c = .admin (.spawn_verification stored_hash password)
    · obtain ⟨stored_hash, password, rfl⟩ := spawning
      rcases performed with ⟨_, _, rfl⟩ | ⟨_, _, rfl⟩
      · exact ⟨outcome, idle⟩
      · exact ⟨outcome, by simp [other, idle]⟩
    by_cases joining : c = .admin .join_verification
    · subst joining
      obtain ⟨_, rfl⟩ := performed
      exact ⟨by simpa [other] using outcome, idle⟩
    · obtain ⟨_, tasks, outcomes⟩ :=
        perform_verifier (fun stored_hash password same => spawning ⟨stored_hash, password, same⟩) joining performed
      simp only [tasks, outcomes]
      exact ⟨outcome, idle⟩
  | outside changed =>
    cases changed with
    | @ended before after i stored_hash password outcome running =>
      intro j none
      obtain ⟨outcome, idle⟩ := unspawned j none
      rw [running] at idle
      have other : j ≠ i := by
        rintro rfl
        exact idle (stored_hash, password) (by simp)
      refine ⟨by simpa [other] using outcome, fun task member => idle task ?_⟩
      rcases List.mem_append.mp member with first | second
      · exact List.mem_append_left _ first
      · exact List.mem_append_right _ (List.mem_cons_of_mem _ second)
    | cleanup => exact unspawned
    | directory => exact unspawned

variable {started : Instant} {directory : Directory ι} {store : Database} {labels : List (Label ι Call Reply)}

/-- The one verification that may run can end, and leaves all else as it is. -/
theorem verifier_freed
    (run : Run (Steps crates config arrivals) (.initial (World.initialized started directory store)) labels s) :
    ∃ more w, Run (OwnSteps crates config arrivals) s more ⟨w, s.programs⟩ ∧ (∀ l ∈ more, l = .outside) ∧ w.permits = 1 ∧
      w.auth = s.world.auth ∧ w.directory = s.world.directory ∧ w.store = s.world.store ∧ Unspawned ⟨w, s.programs⟩ := by
  have unspawned : Unspawned s := run.invariant (fun _ _ _ kept step => unspawned_step kept step) fun i _ =>
    ⟨rfl, fun _ => List.not_mem_nil⟩
  have permit := (run_verifying run).1.permit
  cases running : s.world.tasks with
  | nil =>
    rw [running] at permit
    exact ⟨[], s.world, .stay, by simp, permit, rfl, rfl, rfl, unspawned⟩
  | cons task tasks =>
    obtain ⟨i, stored_hash, password⟩ := task
    rw [running, List.length_cons] at permit
    have ended : Ends crates i s.world { s.world with
        permits := s.world.permits + 1, tasks := [] ++ tasks, outcomes := Function.update s.world.outcomes i (some none) } :=
      ⟨[], tasks, stored_hash, password, none, running, .inl rfl, rfl⟩
    have freed : OwnSteps crates config arrivals s .outside ⟨_, s.programs⟩ := .outside ⟨i, ended⟩
    have steps : Steps crates config arrivals s .outside ⟨_, s.programs⟩ := .outside ended.outside
    refine ⟨[.outside], _, .single freed, by simp, ?_, rfl, rfl, rfl, unspawned_step unspawned steps⟩
    show s.world.permits + 1 = 1
    omega

/-- From every state that the application can reach, a new login with the
    configured credentials that has waited is let in by its own steps, once the
    verification that may be running has ended. -/
theorem login_served
    (run : Run (Steps crates config arrivals) (.initial (World.initialized started directory store)) labels s) {i : ι}
    (new : s.programs i = none) {request : Request} (arrives : arrivals i = .admin request) {form : LoginForm}
    (byAdministrator : ByAdministrator crates config.admin request form) {meets : Surroundings}
    (waited : Waited s.world.auth meets) :
    ∃ more auth w, Run (OwnSteps crates config arrivals) s more ⟨{ w with auth := auth }, Function.update s.programs i
        (some (.ret (.admin (.login_view 303 ""
          [(SESSION_COOKIE, meets.session.token.text, SESSION_SECONDS), (LOGIN_COOKIE, "", 0)]))))⟩ ∧
      (∀ l ∈ more, TakenBy i l) ∧ Met crates i meets ⟨s.world.auth, s.world.store⟩ more ∧
      auth.session = some ⟨hash_token crates meets.session.token.text, meets.session.csrf.text,
        meets.later + from_secs SESSION_SECONDS⟩ ∧
      w.permits = 1 ∧ w.directory = s.world.directory ∧ w.store = s.world.store ∧ Unspawned ⟨w, s.programs⟩ := by
  obtain ⟨first, w, run₁, silent, permits, sameAuth, sameDirectory, sameStore, unspawned⟩ := verifier_freed run
  have free : meets.verifier.busy = true ↔ w.permits = 0 := by simp [waited.verifier, permits]
  have window : LOGIN_WINDOW ≤ meets.now - w.auth.window_started := by
    rw [sameAuth]
    exact Nat.le_sub_of_add_le' waited.window
  obtain ⟨auth, granted, signedIn⟩ := login_granted meets ⟨w.auth, w.store⟩ byAdministrator waited.verifier window
  obtain ⟨second, run₂, own, made, left, calls, answered⟩ := handled_alone crates config arrivals arrives
    ⟨w, s.programs⟩ new (unspawned i new).1 meets free granted
  have others : callsOf i first = [] := List.filterMap_eq_nil_iff.mpr fun l member => by rw [silent l member]
  have met : Met crates i meets ⟨s.world.auth, s.world.store⟩ (first ++ second) := by
    refine ⟨made, left, ?_, by rwa [← sameAuth, ← sameStore]⟩
    rw [callsOf_append, others, calls, List.nil_append]
  refine ⟨first ++ second, auth, w, run₁.trans run₂, ?_, met, signedIn, permits, sameDirectory, sameStore, unspawned⟩
  intro l member
  rcases List.mem_append.mp member with member | member
  · rw [silent l member]
    trivial
  · exact own l member

end

end InviteSystem.Onboarding
