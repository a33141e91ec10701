import InviteSystem.Effects

/-!
The calls of one request, in their order: which calls it can come to at all, and
what it has gone through where it comes to a call that changes something.
-/
namespace InviteSystem.Passages
open InviteSystem.Text InviteSystem.Chrono InviteSystem.Libraries InviteSystem.Tokens InviteSystem.InviteStorage
open InviteSystem.InviteRoutes InviteSystem.Programs InviteSystem.Lldap InviteSystem.SubmitInvite
open InviteSystem.Redemption InviteSystem.Effects

/-- A call that was made, with its reply. -/
abbrev Made := (c : Lldap.Call) × Reply c

/-- The calls that change the directory. -/
def Mutates : Lldap.Call → Bool
  | .post_graphql _ _ (.CreateUser _) => true
  | .post_graphql _ _ (.DeleteUser _) => true
  | .post_graphql _ _ (.AddUserToGroup _ _) => true
  | .password_modify _ _ => true
  | _ => false

/-- The calls that change anything. -/
def Touches : Lldap.Call → Bool
  | .consume_invite _ _ _ => true
  | c => Mutates c

def isCreate : Lldap.Call → Bool
  | .post_graphql _ _ (.CreateUser _) => true
  | _ => false

def isLookup : Lldap.Call → Bool
  | .post_graphql _ _ (.LookupUsers _ _) => true
  | _ => false

/-- What a call names is what was submitted. -/
def Aimed (config : LldapConfig) (form : SubmitInviteForm) : Lldap.Call → Prop
  | .post_graphql _ _ (.LookupUsers field value) =>
    (field = "id" ∧ value = form.username) ∨ (field = "email" ∧ value = form.email)
  | .post_graphql _ _ (.CreateUser user) => user = SubmitInviteForm.user form
  | .post_graphql _ _ (.DeleteUser id) => id = form.username
  | .post_graphql _ _ (.AddUserToGroup user _) => user = form.username
  | .password_modify user_id _ => user_id = user_dn config form.username
  | .consume_invite _ _ consumed_by => consumed_by = form.username
  | _ => True

/-! ### The calls a request can come to -/

section
variable {P : Lldap.Call → Prop} {config : LldapConfig}

theorem only_login (login : ∀ url username password, P (.post_login url username password)) :
    Only P (Lldap.login config) := ⟨login _ _ _, fun _ => trivial⟩

theorem only_graphql {token : String} {operation : Operation} (posted : ∀ url, P (.post_graphql url token operation)) :
    Only P (graphql config token operation) := ⟨posted _, fun _ => trivial⟩

theorem only_user_exists {field value : String} (login : ∀ url username password, P (.post_login url username password))
    (posted : ∀ url token, P (.post_graphql url token (.LookupUsers field value))) :
    Only P (user_exists config field value) :=
  only_andThen (only_login login) fun _ => only_andThen (only_graphql fun _ => posted _ _) fun _ => trivial

theorem only_delete_user {token username : String}
    (posted : ∀ url, P (.post_graphql url token (.DeleteUser username))) : Only P (delete_user config token username) :=
  only_andThen (only_graphql posted) fun _ => trivial

theorem only_delete_user_account {username : String} (login : ∀ url username password, P (.post_login url username password))
    (posted : ∀ url token, P (.post_graphql url token (.DeleteUser username))) :
    Only P (delete_user_account config username) :=
  only_andThen (only_login login) fun _ => only_delete_user fun _ => posted _ _

variable (P config) in
/-- The kind takes in the calls of `set_password`. -/
structure Conversation (username password : String) : Prop where
  opened : ∀ path, config.tls_ca_file = some path → P (.open_ca_file path)
  connected : ∀ flag, P (.ldap_connect (ldap_transport_url config) flag)
  bound : ∀ dn password, P (.simple_bind dn password)
  modified : P (.password_modify (user_dn config username) password)
  closed : P .unbind

theorem only_set_password {username password : String} (conversation : Conversation P config username password) :
    Only P (set_password config username password) := by
  have settings : Only P (ldap_settings config) := by
    unfold ldap_settings
    cases file : config.tls_ca_file with
    | none => trivial
    | some ca_file => exact ⟨conversation.opened _ file, fun _ => trivial⟩
  have ldap_only : ∀ (c : Lldap.Call) (reads : Reply c → Except String Unit), P c → Only P (ldap c reads) :=
    fun _ _ call => ⟨call, fun _ => trivial⟩
  have conversed : Only P (converse config username password) := by
    refine only_andThen (ldap_only _ _ (conversation.bound _ _)) fun _ => ?_
    exact only_andThen (ldap_only _ _ conversation.modified) fun _ => ldap_only _ _ conversation.closed
  refine only_bind settings ?_
  rintro ((error | no_tls_verify) | _)
  · trivial
  · dsimp only
    split
    · trivial
    refine only_tries (ldap_only _ _ (conversation.connected _)) fun _ => ?_
    split
    · trivial
    · exact only_returns conversed
  · trivial

theorem only_add_to_groups {token username : String} {records : List GroupRecord} (names : List String)
    (joined : ∀ url group, P (.post_graphql url token (.AddUserToGroup username group)))
    (deleted : ∀ url, P (.post_graphql url token (.DeleteUser username))) :
    Only P (add_to_groups config token username records names) := by
  induction names with
  | nil => trivial
  | cons name names ih =>
    unfold add_to_groups
    cases records.find? (fun group => group.display_name = name) with
    | none => trivial
    | some group =>
      refine only_bind (only_andThen (only_graphql fun _ => joined _ _) fun _ => trivial) ?_
      rintro (error | done)
      · exact only_bind (only_delete_user deleted) fun _ => trivial
      · exact ih

/-- What `provision_user` goes on with once the account is created. -/
theorem only_equip {token username password : String} (names : List String)
    (conversation : Conversation P config username password) (listed : ∀ url, P (.post_graphql url token .GetGroupList))
    (joined : ∀ url group, P (.post_graphql url token (.AddUserToGroup username group)))
    (deleted : ∀ url, P (.post_graphql url token (.DeleteUser username))) :
    Only P (equip config token username password names) := by
  refine only_bind (only_set_password conversation) ?_
  rintro ((error | set) | _)
  · exact only_returns (only_bind (only_delete_user deleted) fun _ => trivial)
  · refine only_returns (only_bind (only_graphql listed) ?_)
    rintro (error | records)
    · exact only_bind (only_delete_user deleted) fun _ => trivial
    · exact only_add_to_groups names joined deleted
  · trivial

end

section
variable {crates : Crates} {config : SubmitConfig} {form : SubmitInviteForm}

/-- What a request can come to once it has looked its names up. -/
def Late (config : LldapConfig) (form : SubmitInviteForm) (c : Lldap.Call) : Prop :=
  Aimed config form c ∧ isLookup c = false

theorem only_provision_user (config : LldapConfig) (form : SubmitInviteForm) (password : String) (names : List String) :
    Only (Late config form) (provision_user config form.username form.email form.first_name form.last_name
      password names) := by
  refine only_tries (only_login fun _ _ _ => ⟨trivial, rfl⟩) fun token => ?_
  refine only_tries (only_andThen (only_graphql fun _ => ⟨rfl, rfl⟩) fun _ => trivial) fun _ => ?_
  exact only_equip names ⟨fun _ _ => ⟨trivial, rfl⟩, fun _ => ⟨trivial, rfl⟩, fun _ _ => ⟨trivial, rfl⟩, ⟨rfl, rfl⟩,
    ⟨trivial, rfl⟩⟩ (fun _ => ⟨trivial, rfl⟩) (fun _ _ => ⟨rfl, rfl⟩) (fun _ => ⟨rfl, rfl⟩)

theorem only_claim_invite {P : Lldap.Call → Prop} (code token_hash : String) (clock : P .utc_now)
    (consumed : ∀ consumed_at, P (.consume_invite token_hash consumed_at form.username))
    (login : ∀ url username password, P (.post_login url username password))
    (deleted : ∀ url token, P (.post_graphql url token (.DeleteUser form.username))) :
    Only P (claim_invite config form code token_hash) := by
  refine ⟨clock, fun now => ⟨consumed _, fun answer => ?_⟩⟩
  dsimp only
  split
  · trivial
  · exact only_bind (only_delete_user_account login deleted) fun _ => trivial

theorem only_redeem (code token_hash : String) (invite : InviteRecord) :
    Only (Late config.ldap form) (redeem crates config form code token_hash invite) := by
  unfold redeem
  cases crates.groups_from_json invite.groups_json with
  | none => trivial
  | some names =>
    refine only_bind (only_provision_user config.ldap form form.password names) ?_
    rintro ((error | done) | _)
    · trivial
    · exact only_claim_invite code token_hash ⟨trivial, rfl⟩ (fun _ => ⟨rfl, rfl⟩) (fun _ _ _ => ⟨trivial, rfl⟩)
        (fun _ _ => ⟨rfl, rfl⟩)
    · trivial

theorem only_find_invite (code : String) : Only (Late config.ldap form) (find_invite crates config form code) := by
  refine ⟨⟨trivial, rfl⟩, ?_⟩
  rintro (_ | _ | invite)
  · trivial
  · trivial
  · refine ⟨⟨trivial, rfl⟩, fun now => ?_⟩
    dsimp only
    split
    · trivial
    · exact only_redeem code _ invite

/-- Every call of a request names what was submitted. -/
theorem only_submit_invite (crates : Crates) (config : SubmitConfig) (submission : Submission) :
    Only (Aimed config.ldap submission.form) (submit_invite crates config submission) := by
  have looked : ∀ field value, (field = "id" ∧ value = submission.form.username) ∨
      (field = "email" ∧ value = submission.form.email) →
      Only (Aimed config.ldap submission.form) (user_exists config.ldap field value) :=
    fun field value aimed => only_user_exists (fun _ _ _ => trivial) fun _ _ => aimed
  unfold submit_invite
  dsimp only
  cases submission.code with
  | none => trivial
  | some code =>
    dsimp only
    split
    · trivial
    · split
      · trivial
      · refine only_bind (looked _ _ (.inl ⟨rfl, rfl⟩)) fun known => ?_
        split
        · trivial
        · refine only_bind (looked _ _ (.inr ⟨rfl, rfl⟩)) fun known => ?_
          split
          · trivial
          · exact only_mono (fun _ late => late.1) (only_find_invite code)

end

/-! ### What a request has gone through -/

theorem login_calls {config : LldapConfig} {calls : List Made} {result : Except LldapError String}
    (reached : Reaches (Lldap.login config) calls (.ret result)) : ∃ reply,
      calls = [⟨.post_login (endpoint config "/auth/simple/login") config.username config.password, reply⟩] ∧
        result = Except.mapError LldapError.Http reply := reaches_single reached

theorem graphql_calls {config : LldapConfig} {token : String} {operation : Operation} {calls : List Made}
    {result : Except LldapError operation.Data} (reached : Reaches (graphql config token operation) calls (.ret result)) :
    ∃ reply : GraphqlReply operation.Data, calls = [⟨.post_graphql (endpoint config "/api/graphql") token operation, reply⟩] ∧
      result = GraphqlReply.result reply := reaches_single reached

/-- What a lookup has done where it ends: its login failed, or it asked. -/
theorem user_exists_calls {config : LldapConfig} {field value : String} {calls : List Made}
    {known : Except LldapError Bool} (reached : Reaches (user_exists config field value) calls (.ret known)) :
    (∃ error, calls = [⟨.post_login (endpoint config "/auth/simple/login") config.username config.password, .error error⟩] ∧
        known = .error (.Http error)) ∨
      ∃ token, ∃ reply : GraphqlReply (List String), calls =
        [⟨.post_login (endpoint config "/auth/simple/login") config.username config.password, .ok token⟩,
          ⟨.post_graphql (endpoint config "/api/graphql") token (.LookupUsers field value), reply⟩] ∧
        known = (GraphqlReply.result reply).map (fun users => !users.isEmpty) := by
  rcases reaches_andThen_ret reached with ⟨error, failed, rfl⟩ | ⟨first, second, token, rfl, logged, asked⟩
  · obtain ⟨error' | token, rfl, outcome⟩ := login_calls failed
    · cases outcome
      exact .inl ⟨error', rfl, rfl⟩
    · cases outcome
  · obtain ⟨error' | token', rfl, outcome⟩ := login_calls logged
    · cases outcome
    · cases outcome
      right
      rcases reaches_andThen_ret asked with ⟨error, failed, rfl⟩ | ⟨first', second', users, rfl, matched, ended⟩
      · obtain ⟨reply, rfl, outcome⟩ := graphql_calls failed
        exact ⟨token, reply, rfl, congrArg (Except.map fun users : List String => !users.isEmpty) outcome⟩
      · obtain ⟨reply, rfl, outcome⟩ := graphql_calls matched
        obtain ⟨rfl, answer⟩ := reaches_ret.mp ended
        exact ⟨token, reply, rfl, (Program.ret.inj answer).trans
          (congrArg (Except.map fun users : List String => !users.isEmpty) outcome)⟩

/-- The way of a request to the point from which on it provisions: what each
    check was passed with, and the calls that were made for it. -/
structure Passage (crates : Crates) (config : SubmitConfig) (submission : Submission) where
  code : String
  byName : List Made
  byEmail : List Made
  invite : InviteRecord
  now : Reading
  groups : List String
  given : submission.code = some code
  present : (trim code).isEmpty = false
  valid : validation_errors crates config.password_policy submission.form = []
  unknown : ∃ known, Reaches (username_exists config.ldap submission.form.username) byName (.ret known) ∧
    found known = false
  unused : ∃ known, Reaches (email_exists config.ldap submission.form.email) byEmail (.ret known) ∧ found known = false
  active : invite_is_active crates invite now.time = true
  decoded : crates.groups_from_json invite.groups_json = some groups

def Passage.calls {crates : Crates} {config : SubmitConfig} {submission : Submission}
    (passage : Passage crates config submission) : List Made :=
  passage.byName ++ passage.byEmail ++
    [⟨.find_by_token_hash (hash_token crates passage.code), some (some passage.invite)⟩, ⟨.utc_now, passage.now⟩]

section
variable {crates : Crates} {config : SubmitConfig} {submission : Submission}

/-- No reply to a lookup that a request came past names a user. -/
theorem unmatched_lookup {field value : String} {calls : List Made} {known : Except LldapError Bool}
    (reached : Reaches (user_exists config.ldap field value) calls (.ret known)) (absent : found known = false)
    {url token field' value' : String} {reply : GraphqlReply (List String)}
    (member : (⟨.post_graphql url token (.LookupUsers field' value'), reply⟩ : Made) ∈ calls) {users : List String}
    (answered : GraphqlReply.result reply = .ok users) : users = [] := by
  rcases user_exists_calls reached with ⟨error, rfl, _⟩ | ⟨token', reply', rfl, outcome⟩
  · cases List.mem_singleton.mp member
  · rcases List.mem_cons.mp member with login | asked
    · cases login
    · cases List.mem_singleton.mp asked
      have outcome' : known = .ok (!users.isEmpty) :=
        outcome.trans (congrArg (Except.map fun users : List String => !users.isEmpty) answered)
      rw [outcome'] at absent
      simpa [found] using absent

theorem Passage.unmatched (passage : Passage crates config submission) {url token field value : String}
    {reply : GraphqlReply (List String)}
    (member : (⟨.post_graphql url token (.LookupUsers field value), reply⟩ : Made) ∈ passage.calls)
    {users : List String} (answered : GraphqlReply.result reply = .ok users) : users = [] := by
  obtain ⟨known, looked, absent⟩ := passage.unknown
  obtain ⟨known', looked', absent'⟩ := passage.unused
  simp only [Passage.calls, List.mem_append] at member
  rcases member with (byName | byEmail) | later
  · exact unmatched_lookup looked absent byName answered
  · exact unmatched_lookup looked' absent' byEmail answered
  · rcases List.mem_cons.mp later with same | clock
    · cases same
    · cases List.mem_singleton.mp clock

/-- The lookups change nothing, so a request comes past one only with no match known. -/
theorem reaches_past_lookup {field value : String} {page : Outcome FormPage} {rest : Prog (Outcome FormPage)}
    {calls : List Made} {c : Lldap.Call} {next : Reply c → Prog (Outcome FormPage)} (touches : Touches c = true)
    (reached : Reaches ((user_exists config.ldap field value).bind fun known => if found known then .ret page else rest)
      calls (.call c next)) :
    ∃ first second, calls = first ++ second ∧
      (∃ known, Reaches (user_exists config.ldap field value) first (.ret known) ∧ found known = false) ∧
      Reaches rest second (.call c next) := by
  rcases reaches_bind_call reached with ⟨last, early⟩ | ⟨first, second, known, rfl, looked, after⟩
  · have untouched : Only (fun c => Touches c = false) (user_exists config.ldap field value) :=
      only_user_exists (fun _ _ _ => rfl) fun _ _ => rfl
    have untouching := only_call untouched early
    rw [touches] at untouching
    cases untouching
  · split at after
    · exact absurd after ret_reaches_no_call
    · next absent => exact ⟨first, second, rfl, ⟨known, looked, by simpa using absent⟩, after⟩

/-- It comes past the invite only with one found, active and readable. -/
theorem reaches_past_find {form : SubmitInviteForm} {code : String} {calls : List Made} {c : Lldap.Call}
    {next : Reply c → Prog (Outcome FormPage)} (touches : Touches c = true)
    (reached : Reaches (find_invite crates config form code) calls (.call c next)) :
    ∃ (invite : InviteRecord) (now : Reading) (groups : List String) (tail : List Made),
      calls = ⟨.find_by_token_hash (hash_token crates code), some (some invite)⟩ :: ⟨.utc_now, now⟩ :: tail ∧
      invite_is_active crates invite now.time = true ∧ crates.groups_from_json invite.groups_json = some groups ∧
      Reaches (redeem crates config form code (hash_token crates code) invite) tail (.call c next) := by
  rcases reaches_call.mp reached with ⟨_, same⟩ | ⟨answer, later, rfl, answered⟩
  · cases same
    cases touches
  · clear reached
    revert answer
    rintro (_ | _ | invite) answered
    · exact absurd answered ret_reaches_no_call
    · exact absurd answered ret_reaches_no_call
    · rcases reaches_call.mp answered with ⟨_, same⟩ | ⟨now, tail, rfl, judged⟩
      · cases same
        cases touches
      · split at judged
        · exact absurd judged ret_reaches_no_call
        · next active =>
          cases decoded : crates.groups_from_json invite.groups_json with
          | none =>
            rw [redeem, decoded] at judged
            exact absurd judged ret_reaches_no_call
          | some groups => exact ⟨invite, now, groups, tail, rfl, by simpa using active, decoded, judged⟩

/-- A request that comes to a call that changes something has passed every check. -/
theorem reaches_touch {calls : List Made} {c : Lldap.Call} {next : Reply c → Prog (Outcome FormPage)}
    (touches : Touches c = true)
    (reached : Reaches (submit_invite crates config submission) calls (.call c next)) :
    ∃ (passage : Passage crates config submission) (tail : List Made), calls = passage.calls ++ tail ∧
      Reaches (redeem crates config submission.form passage.code (hash_token crates passage.code) passage.invite) tail
        (.call c next) := by
  unfold submit_invite at reached
  dsimp only at reached
  cases given : submission.code with
  | none =>
    rw [given] at reached
    exact absurd reached ret_reaches_no_call
  | some code =>
    rw [given] at reached
    dsimp only at reached
    split at reached
    · exact absurd reached ret_reaches_no_call
    · next present =>
      split at reached
      · exact absurd reached ret_reaches_no_call
      · next valid =>
        obtain ⟨byName, rest, rfl, unknown, reached⟩ := reaches_past_lookup touches reached
        obtain ⟨byEmail, rest, rfl, unused, reached⟩ := reaches_past_lookup touches reached
        obtain ⟨invite, now, groups, tail, rfl, active, decoded, reached⟩ := reaches_past_find touches reached
        refine ⟨⟨code, byName, byEmail, invite, now, groups, given, by simpa using present, by simpa using valid, unknown,
          unused, active, decoded⟩, tail, ?_, reached⟩
        simp [Passage.calls]

/-- Every such way is open. -/
theorem Passage.reaches (passage : Passage crates config submission) :
    Reaches (submit_invite crates config submission) passage.calls
      (redeem crates config submission.form passage.code (hash_token crates passage.code) passage.invite) := by
  obtain ⟨known, looked, absent⟩ := passage.unknown
  obtain ⟨known', looked', absent'⟩ := passage.unused
  unfold submit_invite Passage.calls
  dsimp only
  rw [passage.given]
  dsimp only
  rw [if_neg (by simp [passage.present]), if_neg (by simp [passage.valid]), List.append_assoc]
  refine looked.bind ?_
  rw [if_neg (by simp [absent])]
  refine looked'.bind ?_
  rw [if_neg (by simp [absent'])]
  refine .call (.call ?_)
  rw [if_neg (by simp [passage.active])]
  exact .here

/-- It comes to its creation by one login more. -/
theorem redeem_to_create {form : SubmitInviteForm} {code token_hash : String} {invite : InviteRecord} {calls : List Made}
    {url token : String} {user : CreateUserInput}
    {next : Reply (.post_graphql url token (.CreateUser user)) → Prog (Outcome FormPage)}
    (reached : Reaches (redeem crates config form code token_hash invite) calls
      (.call (.post_graphql url token (.CreateUser user)) next)) :
    ∃ token', calls = [⟨.post_login (endpoint config.ldap "/auth/simple/login") config.ldap.username
      config.ldap.password, .ok token'⟩] := by
  unfold redeem at reached
  cases decoded : crates.groups_from_json invite.groups_json with
  | none =>
    rw [decoded] at reached
    exact absurd reached ret_reaches_no_call
  | some names =>
    rw [decoded] at reached
    rcases reaches_bind_call reached with ⟨last, within⟩ | ⟨first, second, outcome, rfl, _, after⟩
    · rcases reaches_tries_call within with ⟨_, early⟩ | ⟨first, second, token', rfl, logged, later⟩
      · cases only_call (only_login (P := fun c => isCreate c = false) fun _ _ _ => rfl) early
      · rcases reaches_tries_call later with ⟨_, creating⟩ | ⟨_, _, _, _, _, equipping⟩
        · obtain rfl : second = [] := by
            rcases reaches_andThen_call creating with ⟨_, posting⟩ | ⟨_, _, _, _, _, ended⟩
            · exact (reaches_single_call posting).1
            · exact absurd ended ret_reaches_no_call
          obtain ⟨error | token, rfl, outcome⟩ := login_calls logged
          · cases outcome
          · exact ⟨token, by simp⟩
        · cases only_call (only_equip (P := fun c => isCreate c = false) names ⟨fun _ _ => rfl, fun _ => rfl,
            fun _ _ => rfl, rfl, rfl⟩ (fun _ => rfl) (fun _ _ => rfl) fun _ => rfl) equipping
    · rcases outcome with (error | done) | _
      · exact absurd after ret_reaches_no_call
      · cases only_call (only_claim_invite (P := fun c => isCreate c = false) code token_hash rfl (fun _ => rfl)
          (fun _ _ _ => rfl) fun _ _ => rfl) after
      · exact absurd after ret_reaches_no_call

/-- Every passage leads to the creation of the account that was submitted. -/
theorem Passage.creates (passage : Passage crates config submission) (token : String) :
    ∃ next, Reaches (submit_invite crates config submission)
      (passage.calls ++ [⟨.post_login (endpoint config.ldap "/auth/simple/login") config.ldap.username
        config.ldap.password, .ok token⟩])
      (.call (.post_graphql (endpoint config.ldap "/api/graphql") token
        (.CreateUser (SubmitInviteForm.user submission.form))) next) := by
  have created : ∃ next, Reaches (redeem crates config submission.form passage.code (hash_token crates passage.code)
      passage.invite) [⟨.post_login (endpoint config.ldap "/auth/simple/login") config.ldap.username config.ldap.password,
        .ok token⟩] (.call (.post_graphql (endpoint config.ldap "/api/graphql") token
        (.CreateUser (SubmitInviteForm.user submission.form))) next) := by
    unfold redeem
    rw [passage.decoded]
    exact ⟨_, .call .here⟩
  obtain ⟨next, later⟩ := created
  exact ⟨next, passage.reaches.trans later⟩

end
end InviteSystem.Passages
