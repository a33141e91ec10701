import InviteSystem.DirectoryServer
import InviteSystem.Passages

/-!
The two lookups before a creation. A request that creates an account has had no
match reported; that both lookups did report, and reported none, holds exactly
where no request to the directory failed on the way.
-/
namespace InviteSystem.UniquenessChecks
open InviteSystem.Libraries InviteSystem.Tokens InviteSystem.InviteStorage InviteSystem.Programs InviteSystem.Lldap
open InviteSystem.SubmitInvite InviteSystem.Redemption InviteSystem.Effects InviteSystem.DirectoryServer
open InviteSystem.Passages

/-- A request to the directory that the client takes to have failed. -/
def fails : (c : Lldap.Call) → Reply c → Bool
  | .post_login _ _ _, .error _ => true
  | .post_graphql _ _ _, reply => !reported reply
  | _, _ => false

/-- The lookup of the value completed and reported no user. -/
def Cleared (calls : List Made) (field value : String) : Prop :=
  ∃ url token, ∃ reply : GraphqlReply (List String),
    (⟨.post_graphql url token (.LookupUsers field value), reply⟩ : Made) ∈ calls ∧ GraphqlReply.result reply = .ok []

theorem cleared_append {first second : List Made} {field value : String} :
    Cleared (first ++ second) field value ↔ Cleared first field value ∨ Cleared second field value := by
  constructor
  · rintro ⟨url, token, reply, member, empty⟩
    rcases List.mem_append.mp member with before | after
    · exact .inl ⟨url, token, reply, before, empty⟩
    · exact .inr ⟨url, token, reply, after, empty⟩
  · rintro (⟨url, token, reply, member, empty⟩ | ⟨url, token, reply, member, empty⟩)
    · exact ⟨url, token, reply, List.mem_append_left _ member, empty⟩
    · exact ⟨url, token, reply, List.mem_append_right _ member, empty⟩

/-- Calls among which there is no lookup clear nothing. -/
theorem not_cleared {calls : List Made} (none : ∀ call ∈ calls, isLookup call.1 = false) (field value : String) :
    ¬ Cleared calls field value := by
  rintro ⟨url, token, reply, member, _⟩
  cases none _ member

section
variable {crates : Crates} {config : SubmitConfig} {submission : Submission}

/-- A lookup that a request came past cleared its value, where it did not fail,
    and no other. -/
theorem cleared_lookup {field value : String} {calls : List Made} {known : Except LldapError Bool}
    (reached : Reaches (user_exists config.ldap field value) calls (.ret known)) (absent : found known = false)
    {field' value' : String} : Cleared calls field' value' ↔
      field' = field ∧ value' = value ∧ ∀ call ∈ calls, fails call.1 call.2 = false := by
  rcases user_exists_calls reached with ⟨error, rfl, _⟩ | ⟨token, reply, rfl, outcome⟩
  · constructor
    · intro cleared
      exact absurd cleared (not_cleared (by simp [isLookup]) field' value')
    · rintro ⟨_, _, unfailed⟩
      cases unfailed _ (List.mem_singleton_self _)
  · have report : reported reply = true ↔ GraphqlReply.result reply = .ok [] := by
      constructor
      · intro completed
        cases answered : GraphqlReply.result reply with
        | error error => simp [reported, answered, Except.isOk, Except.toBool] at completed
        | ok users =>
          rw [outcome, answered] at absent
          have none : users = [] := by simpa [found, Except.map] using absent
          rw [none]
      · exact reported_ok
    constructor
    · rintro ⟨url, token', reply', member, empty⟩
      rcases List.mem_cons.mp member with login | asked
      · cases login
      · cases List.mem_singleton.mp asked
        have completed : (!reported reply) = false := by rw [report.mpr empty, Bool.not_true]
        exact ⟨rfl, rfl, List.forall_mem_cons.mpr ⟨rfl, List.forall_mem_singleton.mpr completed⟩⟩
    · rintro ⟨rfl, rfl, unfailed⟩
      have completed : (!reported reply) = false := unfailed _ (List.mem_cons_of_mem _ (List.mem_singleton_self _))
      rw [Bool.not_eq_false'] at completed
      exact ⟨_, token, reply, List.mem_cons_of_mem _ (List.mem_singleton_self _), report.mp completed⟩

/-- What a request that comes to its creation has cleared. -/
theorem cleared_passage (passage : Passage crates config submission) (token field value : String) :
    Cleared (passage.calls ++ [⟨.post_login (endpoint config.ldap "/auth/simple/login") config.ldap.username
        config.ldap.password, .ok token⟩]) field value ↔
      (field = "id" ∧ value = submission.form.username ∧ ∀ call ∈ passage.byName, fails call.1 call.2 = false) ∨
        (field = "email" ∧ value = submission.form.email ∧ ∀ call ∈ passage.byEmail, fails call.1 call.2 = false) := by
  obtain ⟨known, looked, absent⟩ := passage.unknown
  obtain ⟨known', looked', absent'⟩ := passage.unused
  have checked : ¬ Cleared [⟨.find_by_token_hash (hash_token crates passage.code), some (some passage.invite)⟩,
      ⟨.utc_now, passage.now⟩] field value := not_cleared (by simp [isLookup]) field value
  have entered : ¬ Cleared [⟨.post_login (endpoint config.ldap "/auth/simple/login") config.ldap.username
      config.ldap.password, .ok token⟩] field value := not_cleared (by simp [isLookup]) field value
  simp only [Passage.calls, cleared_append, checked, entered, or_false, cleared_lookup looked absent,
    cleared_lookup looked' absent']

/-- A request that comes to create an account has had both of its names looked
    up and reported unknown if and only if no request to the directory failed
    before: a failed lookup counts as one without a match. -/
theorem uniqueness_checks_iff (crates : Crates) (config : SubmitConfig) (submission : Submission) {calls : List Made}
    {url token : String} {user : CreateUserInput} {next : Reply (.post_graphql url token (.CreateUser user)) → Prog (Outcome FormPage)}
    (reached : Reaches (submit_invite crates config submission) calls
      (.call (.post_graphql url token (.CreateUser user)) next)) :
    (Cleared calls "id" submission.form.username ∧ Cleared calls "email" submission.form.email) ↔
      ∀ call ∈ calls, fails call.1 call.2 = false := by
  obtain ⟨passage, tail, rfl, later⟩ := reaches_touch rfl reached
  obtain ⟨token', rfl⟩ := redeem_to_create later
  rw [cleared_passage, cleared_passage]
  simp [Passage.calls, fails, or_imp, forall_and]

end

/-! ### Two requests of one applicant -/

def askedInvite : InviteRecord where
  id := "invite-1"
  token_hash := "e9ce90c95cc30f2018400a42067458fa30f09ad3ef1f48cbe39552aa29db1436"
  groups_json := "[\"staff\",\"vpn\"]"
  created_at := "2026-03-01T09:45:00.500+00:00"
  expires_at := "2026-03-02T09:45:00.500+00:00"
  consumed_at := none
  consumed_by := none
  revoked_at := none

/-- The login of the sample's lookups, and their replies: one fails to be sent,
    the other finds nobody. -/
def entry (reply : Except HttpError String) : Made :=
  ⟨.post_login (endpoint servedConfig.ldap "/auth/simple/login") servedConfig.ldap.username servedConfig.ldap.password, reply⟩
def nobody (field value : String) : Made :=
  ⟨.post_graphql (endpoint servedConfig.ldap "/api/graphql") "token" (.LookupUsers field value),
    answer ([] : List String)⟩

/-- The way of the sample's request past its lookup of the username. -/
def asked (username : String) (byName : List Made)
    (unknown : ∃ known, Reaches (username_exists servedConfig.ldap username) byName (.ret known) ∧ found known = false)
    (valid : validation_errors servedCrates servedConfig.password_policy (applicant servedCode username).form = []) :
    Passage servedCrates servedConfig (applicant servedCode username) where
  code := servedCode
  byName := byName
  byEmail := [entry (.ok "token"), nobody "email" "bob@example.com"]
  invite := askedInvite
  now := (servedConditions true).now
  groups := ["staff", "vpn"]
  given := rfl
  present := by decide
  valid := valid
  unknown := unknown
  unused := ⟨.ok false, .call (.call .here), rfl⟩
  active := by decide
  decoded := by decide

theorem uniqueness_checks_sample : ∃ calls url token user next,
    Reaches (submit_invite servedCrates servedConfig (applicant servedCode "bob")) calls
      (.call (.post_graphql url token (.CreateUser user)) next) ∧
    (∀ call ∈ calls, fails call.1 call.2 = false) ∧ Cleared calls "id" "bob" ∧ Cleared calls "email" "bob@example.com" := by
  let passage := asked "bob" [entry (.ok "token"), nobody "id" "bob"] ⟨.ok false, .call (.call .here), rfl⟩ (by decide)
  obtain ⟨next, reached⟩ := passage.creates "token"
  exact ⟨_, _, _, _, next, reached, by decide,
    (uniqueness_checks_iff servedCrates servedConfig (applicant servedCode "bob") reached).mpr (by decide)⟩

/-- The directory does not answer the login of the first lookup: the account is
    created all the same, with its username never looked up. -/
theorem uniqueness_unchecked : ¬ ∀ (crates : Crates) (config : SubmitConfig) (submission : Submission) (calls : List Made)
    (url token : String) (user : CreateUserInput) (next : Reply (.post_graphql url token (.CreateUser user)) → Prog (Outcome FormPage)),
    Reaches (submit_invite crates config submission) calls (.call (.post_graphql url token (.CreateUser user)) next) →
      Cleared calls "id" submission.form.username ∧ Cleared calls "email" submission.form.email := by
  intro closed
  let passage := asked "bob" [entry (.error (.send "connection timed out"))] ⟨.error _, .call .here, rfl⟩ (by decide)
  obtain ⟨next, reached⟩ := passage.creates "token"
  obtain ⟨cleared, _⟩ := closed servedCrates servedConfig (applicant servedCode "bob") _ _ _ _ next reached
  rcases (cleared_passage passage "token" "id" "bob").mp cleared with ⟨_, _, unfailed⟩ | ⟨field, _⟩
  · cases unfailed _ (List.mem_singleton_self _)
  · exact absurd field (by decide)

end InviteSystem.UniquenessChecks
