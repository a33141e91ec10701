import InviteSystem.SubmitInvite

/-!
What a redemption may do, and how far it has come: the discipline that
`submit_invite` obeys whatever the directory, the store and the clock reply.
The results about many requests side by side use this one fact about the code.
-/
namespace InviteSystem.Redemption
open InviteSystem.Text InviteSystem.Chrono InviteSystem.Libraries InviteSystem.Tokens InviteSystem.InviteStorage
open InviteSystem.Programs InviteSystem.Lldap InviteSystem.SubmitInvite

/-- How far a request is with the account it creates. An `owner` created it and
    nothing has gone wrong with it yet: its password if it is set, and the
    groups joined so far. -/
inductive Stage
  | fresh
  | owner (password : Option String) (joined : List Int)
  | spoiled
  | deleted
  | redeemed (password : Option String) (joined : List Int)
deriving DecidableEq, Repr

/-- The request created the account, and has neither redeemed its invite nor
    tried to delete the account. -/
def Stage.owns : Stage → Bool
  | .owner _ _ => true
  | .spoiled => true
  | .fresh => false
  | .deleted => false
  | .redeemed _ _ => false

def Stage.isRedeemed : Stage → Bool
  | .redeemed _ _ => true
  | .fresh => false
  | .owner _ _ => false
  | .spoiled => false
  | .deleted => false

def Stage.setPassword (new_pass : String) : Stage → Stage
  | .owner _ joined => .owner (some new_pass) joined
  | stage => stage

def Stage.join (group : Int) : Stage → Stage
  | .owner password joined => .owner password (joined ++ [group])
  | stage => stage

/-- A call on the account was reported to fail. -/
def Stage.spoil : Stage → Stage
  | .owner _ _ => .spoiled
  | stage => stage

def Stage.redeem : Stage → Stage
  | .owner password joined => .redeemed password joined
  | stage => stage

/-- The request created the account, and has not tried to delete it. -/
def Stage.holds (stage : Stage) : Bool := stage.owns || stage.isRedeemed

@[simp] theorem holds_setPassword (stage : Stage) (new_pass : String) :
    (stage.setPassword new_pass).holds = stage.holds := by cases stage <;> rfl
@[simp] theorem holds_join (stage : Stage) (group : Int) : (stage.join group).holds = stage.holds := by
  cases stage <;> rfl
@[simp] theorem holds_spoil (stage : Stage) : stage.spoil.holds = stage.holds := by cases stage <;> rfl
@[simp] theorem isRedeemed_setPassword (stage : Stage) (new_pass : String) :
    (stage.setPassword new_pass).isRedeemed = stage.isRedeemed := by cases stage <;> rfl
@[simp] theorem isRedeemed_join (stage : Stage) (group : Int) : (stage.join group).isRedeemed = stage.isRedeemed := by
  cases stage <;> rfl
@[simp] theorem isRedeemed_spoil (stage : Stage) : stage.spoil.isRedeemed = stage.isRedeemed := by cases stage <;> rfl
@[simp] theorem holds_redeem (stage : Stage) : stage.redeem.holds = stage.holds := by cases stage <;> rfl

/-- The progress of a request: its stage, the invite and the groups it was
    given, and whether it could not log in to delete its account. -/
structure Progress where
  stage : Stage
  found : Option InviteRecord
  records : Option (List GroupRecord)
  stranded : Bool
deriving DecidableEq

def Progress.start : Progress := ⟨.fresh, none, none, false⟩

def Progress.loginFailed (g : Progress) : Progress := { g with stranded := g.stranded || g.stage.owns }

def Progress.afterOperation (g : Progress) : (operation : Operation) → Except LldapError operation.Data → Progress
  | .CreateUser _, .ok _ => { g with stage := .owner none [] }
  | .CreateUser _, .error _ => g
  | .DeleteUser _, _ => { g with stage := .deleted }
  | .GetGroupList, .ok records => { g with records := some records }
  | .GetGroupList, .error _ => g
  | .LookupUsers _ _, _ => g
  | .AddUserToGroup _ group, .ok _ => { g with stage := g.stage.join group }
  | .AddUserToGroup _ _, .error _ => { g with stage := g.stage.spoil }

def Progress.after (g : Progress) : (c : Lldap.Call) → Reply c → Progress
  | .post_login _ _ _, .ok _ => g
  | .post_login _ _ _, .error _ => g.loginFailed
  | .post_graphql _ _ operation, reply => g.afterOperation operation (GraphqlReply.result reply)
  | .password_modify _ new_pass, .ok _ => { g with stage := g.stage.setPassword new_pass }
  | .password_modify _ _, .error _ => { g with stage := g.stage.spoil }
  | .find_by_token_hash _, some (some invite) => { g with found := some invite }
  | .find_by_token_hash _, _ => g
  | .consume_invite _ _ _, some true => { g with stage := g.stage.redeem }
  | .consume_invite _ _ _, _ => g
  | .open_ca_file _, _ => g
  | .ldap_connect _ _, _ => g
  | .simple_bind _ _, _ => g
  | .unbind, _ => g
  | .utc_now, _ => g

/-- The ids of the first groups with these names, `none` where a name has no group. -/
def firstMatches (records : List GroupRecord) : List String → Option (List Int)
  | [] => some []
  | name :: names =>
    match records.find? (fun group => group.display_name = name) with
    | none => none
    | some group => (firstMatches records names).map (group.id :: ·)

section
variable (crates : Crates) (config : SubmitConfig) (submission : Submission)

/-- The request holds an invite, and the account is in the stage that the
    invite's groups and the submitted password make. -/
def Complete (g : Progress) (stage : Option String → List Int → Stage) : Prop :=
  ∃ invite names records joined, g.found = some invite ∧ crates.groups_from_json invite.groups_json = some names ∧
    g.records = some records ∧ firstMatches records names = some joined ∧
    g.stage = stage (some submission.form.password) joined

/-- The account that the request asks for. -/
def SubmitInviteForm.user (form : SubmitInviteForm) : CreateUserInput :=
  ⟨form.username, form.email, form.first_name ++ " " ++ form.last_name, form.first_name, form.last_name⟩

def Allowed (g : Progress) : Lldap.Call → Prop
  | .post_graphql _ _ (.CreateUser user) => g.stage = .fresh ∧ user = SubmitInviteForm.user submission.form
  | .post_graphql _ _ (.DeleteUser id) => g.stage.owns = true ∧ id = submission.form.username
  | .post_graphql _ _ (.AddUserToGroup user _) =>
    (∃ password joined, g.stage = .owner password joined) ∧ user = submission.form.username
  | .password_modify user_id new_pass => g.stage = .owner none [] ∧
    user_id = user_dn config.ldap submission.form.username ∧ new_pass = submission.form.password
  | .find_by_token_hash token_hash => g.stage = .fresh ∧
    ∃ code, submission.code = some code ∧ token_hash = hash_token crates code
  | .consume_invite token_hash consumed_at consumed_by => Complete crates submission g .owner ∧
    (∃ code, submission.code = some code ∧ token_hash = hash_token crates code) ∧
    (∃ now : Reading, consumed_at = to_rfc3339 now.time) ∧ consumed_by = submission.form.username
  | _ => True

def discipline : Discipline Lldap.Call Reply Progress := ⟨Allowed crates config submission, Progress.after⟩

/-- A name of the invite's groups that the directory did not list. -/
def UnknownGroup (g : Progress) : Prop :=
  ∃ invite names records name, g.found = some invite ∧ crates.groups_from_json invite.groups_json = some names ∧
    g.records = some records ∧ name ∈ names ∧ records.find? (fun group => group.display_name = name) = none

/-- How a request ends: it has redeemed its invite and says so; or it has not,
    and has left no account behind unless it could not log in to delete it or
    met an unknown group; or it has panicked over the password. -/
def Done (g : Progress) (page : Outcome FormPage) : Prop :=
  (page = accountCreated ∧ Complete crates submission g .redeemed) ∨
    ((∃ view, page = .returned view ∧ view.success_message = none) ∧ g.stage.isRedeemed = false ∧
      (g.stage.owns = true → g.stranded = true ∨ UnknownGroup crates g)) ∨
    (page = .panicked ∧ g.stage = .owner none [])

end

/-! ### The client obeys -/

section
variable {crates : Crates} {config : SubmitConfig} {submission : Submission} {g : Progress}

theorem obeys_login : Obeys (discipline crates config submission)
    (fun g' result => match result with
      | .ok _ => g' = g
      | .error _ => g' = g.loginFailed) g (login config.ldap) := by
  refine ⟨trivial, ?_⟩
  rintro (error | token)
  · exact rfl
  · exact rfl

theorem obeys_graphql {token : String} {operation : Operation}
    (allowed : Allowed crates config submission g (.post_graphql (endpoint config.ldap "/api/graphql") token operation)) :
    Obeys (discipline crates config submission) (fun g' result => g' = g.afterOperation operation result) g
      (graphql config.ldap token operation) := ⟨allowed, fun _ => rfl⟩

theorem obeys_create_user {token : String} (fresh : g.stage = .fresh) :
    Obeys (discipline crates config submission)
      (fun g' result => match result with
        | .ok _ => g' = { g with stage := .owner none [] }
        | .error _ => g' = g) g
      (create_user config.ldap token submission.form.username submission.form.email submission.form.first_name
        submission.form.last_name) := by
  refine obeys_andThen (obeys_graphql ⟨fresh, rfl⟩) ?_ ?_
  · rintro g' error rfl
    rfl
  · rintro g' id rfl
    rfl

theorem obeys_delete_user {token : String} (owns : g.stage.owns = true) :
    Obeys (discipline crates config submission) (fun g' _ => g' = { g with stage := .deleted }) g
      (delete_user config.ldap token submission.form.username) := by
  refine obeys_andThen (obeys_graphql ⟨owns, rfl⟩) ?_ ?_
  · rintro g' error rfl
    rfl
  · rintro g' flag rfl
    rfl

theorem obeys_user_exists (fresh : g.stage = .fresh) (field value : String) :
    Obeys (discipline crates config submission) (fun g' _ => g' = g) g (user_exists config.ldap field value) := by
  have unstranded : g.loginFailed = g := by
    cases g
    simp_all [Progress.loginFailed, Stage.owns]
  refine obeys_andThen obeys_login ?_ ?_
  · rintro g' error rfl
    exact unstranded
  · rintro g' token rfl
    refine obeys_andThen (obeys_graphql trivial) ?_ ?_
    · rintro g' error rfl
      rfl
    · rintro g' users rfl
      rfl

theorem obeys_list_groups {token : String} : Obeys (discipline crates config submission)
    (fun g' result => match result with
      | .ok records => g' = { g with records := some records }
      | .error _ => g' = g) g (list_groups config.ldap token) := by
  refine obeys_mono (obeys_graphql trivial) ?_
  rintro g' (error | records) rfl
  · rfl
  · rfl

theorem obeys_add_user_to_group {token : String} {password : Option String} {joined : List Int} {group : Int}
    (owner : g.stage = .owner password joined) :
    Obeys (discipline crates config submission)
      (fun g' result => match result with
        | .ok _ => g' = { g with stage := .owner password (joined ++ [group]) }
        | .error _ => g' = { g with stage := .spoiled }) g
      (add_user_to_group config.ldap token submission.form.username group) := by
  refine obeys_andThen (obeys_graphql ⟨⟨password, joined, owner⟩, rfl⟩) ?_ ?_
  · rintro g' error rfl
    simp [Progress.afterOperation, owner, Stage.spoil]
  · rintro g' flag rfl
    simp [Progress.afterOperation, owner, Stage.join]

/-- The conversation leaves an owner, with the password set or with a failure. -/
theorem obeys_converse (owner : g.stage = .owner none []) :
    Obeys (discipline crates config submission)
      (fun g' result => match result with
        | .ok _ => g' = { g with stage := .owner (some submission.form.password) [] }
        | .error _ => g'.stage.owns = true ∧ g'.found = g.found ∧ g'.records = g.records ∧ g'.stranded = g.stranded) g
      (converse config.ldap submission.form.username submission.form.password) := by
  have owns : g.stage.owns = true := by rw [owner]; rfl
  have quiet : ∀ (c : Lldap.Call) (reads : Reply c → Except String Unit) (g₁ : Progress),
      Allowed crates config submission g₁ c → (∀ reply, g₁.after c reply = g₁) →
      Obeys (discipline crates config submission) (fun g' _ => g' = g₁) g₁ (ldap c reads) :=
    fun c reads g₁ allowed same => ⟨allowed, same⟩
  refine obeys_andThen (quiet _ _ _ trivial fun _ => rfl) ?_ ?_
  · rintro g' error rfl
    exact ⟨owns, rfl, rfl, rfl⟩
  · rintro g' _ rfl
    have modified : Obeys (discipline crates config submission)
        (fun g₁ result => match result with
          | .ok _ => g₁ = { g' with stage := .owner (some submission.form.password) [] }
          | .error _ => g₁ = { g' with stage := .spoiled }) g'
        (ldap (.password_modify (user_dn config.ldap submission.form.username) submission.form.password) id) := by
      refine ⟨⟨owner, rfl, rfl⟩, ?_⟩
      rintro (error | done)
      · show ({ g' with stage := g'.stage.spoil } : Progress) = { g' with stage := .spoiled }
        rw [owner]
        rfl
      · show ({ g' with stage := g'.stage.setPassword submission.form.password } : Progress) =
          { g' with stage := .owner (some submission.form.password) [] }
        rw [owner]
        rfl
    refine obeys_andThen modified ?_ ?_
    · rintro g₁ error rfl
      exact ⟨rfl, rfl, rfl, rfl⟩
    · rintro g₁ _ rfl
      refine obeys_mono (quiet _ _ _ trivial fun _ => rfl) ?_
      rintro g₂ (error | done) rfl
      · exact ⟨rfl, rfl, rfl, rfl⟩
      · exact rfl

theorem obeys_ldap_settings : Obeys (discipline crates config submission)
    (fun g' _ => g' = g) g (ldap_settings config.ldap) := by
  unfold ldap_settings
  cases config.ldap.tls_ca_file with
  | none => rfl
  | some ca_file => exact ⟨trivial, fun _ => rfl⟩

/-- Setting the password leaves an owner, or the request has panicked. -/
theorem obeys_set_password (owner : g.stage = .owner none []) :
    Obeys (discipline crates config submission)
      (fun g' result => match result with
        | .returned (.ok _) => g' = { g with stage := .owner (some submission.form.password) [] }
        | .returned (.error _) =>
          g'.stage.owns = true ∧ g'.found = g.found ∧ g'.records = g.records ∧ g'.stranded = g.stranded
        | .panicked => g' = g) g
      (set_password config.ldap submission.form.username submission.form.password) := by
  have owns : g.stage.owns = true := by rw [owner]; rfl
  refine obeys_bind obeys_ldap_settings ?_
  rintro g' ((error | no_tls_verify) | _) rfl
  · exact ⟨owns, rfl, rfl, rfl⟩
  · have dialled : Obeys (discipline crates config submission) (fun g'' _ => g'' = g') g'
        (ldap (.ldap_connect (ldap_transport_url config.ldap) no_tls_verify) id) := ⟨trivial, fun _ => rfl⟩
    dsimp only
    split
    · rfl
    refine obeys_tries dialled ?_ ?_
    · rintro g'' error rfl
      exact ⟨owns, rfl, rfl, rfl⟩
    · rintro g'' _ rfl
      split
      · rfl
      · refine obeys_returns (obeys_mono (obeys_converse owner) ?_)
        rintro g₁ (error | done) reached
        · exact reached
        · exact reached
  · rfl

/-- The loop joins the first groups of all names, or fails and deletes the
    account, or stops at an unknown name. -/
theorem obeys_add_to_groups {token : String} {password : Option String} (records : List GroupRecord)
    (names : List String) {joined : List Int} (owner : g.stage = .owner password joined) :
    Obeys (discipline crates config submission)
      (fun g' result => g'.found = g.found ∧ g'.records = g.records ∧ g'.stranded = g.stranded ∧
        match result with
        | .ok _ => ∃ more, firstMatches records names = some more ∧ g'.stage = .owner password (joined ++ more)
        | .error _ => g'.stage = .deleted ∨ (g'.stage.owns = true ∧ ∃ name ∈ names,
            records.find? (fun group => group.display_name = name) = none)) g
      (add_to_groups config.ldap token submission.form.username records names) := by
  induction names generalizing g joined with
  | nil => exact ⟨rfl, rfl, rfl, [], rfl, by simpa using owner⟩
  | cons name names ih =>
    unfold add_to_groups
    cases first : records.find? (fun group => group.display_name = name) with
    | none =>
      refine ⟨rfl, rfl, rfl, .inr ⟨by rw [owner]; rfl, name, List.mem_cons_self .., first⟩⟩
    | some group =>
      refine obeys_bind (obeys_add_user_to_group owner) ?_
      rintro g' (error | done) reached
      · dsimp only at reached ⊢
        subst reached
        refine obeys_bind (obeys_delete_user rfl) ?_
        rintro g'' _ rfl
        exact ⟨rfl, rfl, rfl, .inl rfl⟩
      · dsimp only at reached ⊢
        subst reached
        refine obeys_mono (ih rfl) ?_
        rintro g'' (error | done) ⟨found, listed, stranded, rest⟩
        · refine ⟨found, listed, stranded, ?_⟩
          rcases rest with deleted | ⟨owns, other, member, unknown⟩
          · exact .inl deleted
          · exact .inr ⟨owns, other, List.mem_cons_of_mem _ member, unknown⟩
        · obtain ⟨more, matched, stage⟩ := rest
          refine ⟨found, listed, stranded, group.id :: more, ?_, ?_⟩
          · simp [firstMatches, first, matched]
          · simpa using stage

theorem obeys_join_groups {token : String} (names : List String)
    (owner : g.stage = .owner (some submission.form.password) []) :
    Obeys (discipline crates config submission)
      (fun g' result => g'.found = g.found ∧ g'.stranded = g.stranded ∧
        match result with
        | .ok _ => ∃ records joined, g'.records = some records ∧ firstMatches records names = some joined ∧
            g'.stage = .owner (some submission.form.password) joined
        | .error _ => g'.stage.isRedeemed = false ∧ (g'.stage.owns = true → ∃ records name,
            g'.records = some records ∧ name ∈ names ∧
              records.find? (fun group => group.display_name = name) = none)) g
      (join_groups config.ldap token submission.form.username names) := by
  refine obeys_bind obeys_list_groups ?_
  rintro g₂ (error | records) reached
  · dsimp only at reached ⊢
    subst reached
    refine obeys_bind (obeys_delete_user (by rw [owner]; rfl)) ?_
    rintro g₃ _ rfl
    exact ⟨rfl, rfl, rfl, by rintro ⟨⟩⟩
  · dsimp only at reached ⊢
    subst reached
    refine obeys_mono (obeys_add_to_groups records names owner) ?_
    rintro g₃ (error | done) ⟨found, listed, stranded, rest⟩
    · refine ⟨found, stranded, ?_⟩
      rcases rest with deleted | ⟨owns, name, member, unknown⟩
      · rw [deleted]
        exact ⟨rfl, by rintro ⟨⟩⟩
      · refine ⟨?_, fun _ => ⟨records, name, listed, member, unknown⟩⟩
        cases stage : g₃.stage <;> simp_all [Stage.owns, Stage.isRedeemed]
    · obtain ⟨joined, matched, stage⟩ := rest
      exact ⟨found, stranded, records, joined, listed, matched, by simpa using stage⟩

theorem obeys_provision_user (fresh : g.stage = .fresh) (unstranded : g.stranded = false) (names : List String) :
    Obeys (discipline crates config submission)
      (fun g' result => g'.found = g.found ∧ g'.stranded = false ∧
        match result with
        | .returned (.ok _) => ∃ records joined, g'.records = some records ∧ firstMatches records names = some joined ∧
            g'.stage = .owner (some submission.form.password) joined
        | .returned (.error _) => g'.stage.isRedeemed = false ∧ (g'.stage.owns = true → ∃ records name,
            g'.records = some records ∧ name ∈ names ∧
              records.find? (fun group => group.display_name = name) = none)
        | .panicked => g'.stage = .owner none []) g
      (provision_user config.ldap submission.form.username submission.form.email submission.form.first_name
        submission.form.last_name submission.form.password names) := by
  have failed : g.loginFailed = g := by
    cases g
    simp_all [Progress.loginFailed, Stage.owns]
  unfold provision_user
  refine obeys_tries obeys_login ?_ ?_
  · rintro g' error rfl
    rw [failed]
    exact ⟨rfl, unstranded, by rw [fresh]; rfl, by rw [fresh]; rintro ⟨⟩⟩
  · rintro g' token rfl
    refine obeys_tries (obeys_create_user fresh) ?_ ?_
    · rintro g'' error rfl
      exact ⟨rfl, unstranded, by rw [fresh]; rfl, by rw [fresh]; rintro ⟨⟩⟩
    · rintro g'' _ rfl
      unfold equip
      refine obeys_bind (obeys_set_password rfl) ?_
      rintro g₁ ((error | set) | _) reached
      · obtain ⟨owns, found, _, stranded⟩ := reached
        refine obeys_returns (obeys_bind (obeys_delete_user owns) ?_)
        rintro g₂ _ rfl
        exact ⟨found, stranded.trans unstranded, rfl, by rintro ⟨⟩⟩
      · dsimp only at reached ⊢
        subst reached
        refine obeys_returns (obeys_mono (obeys_join_groups names rfl) ?_)
        rintro g₂ (error | done) ⟨found, stranded, rest⟩
        · exact ⟨found, stranded.trans unstranded, rest⟩
        · exact ⟨found, stranded.trans unstranded, rest⟩
      · obtain rfl := reached
        exact ⟨rfl, unstranded, rfl⟩

theorem obeys_delete_user_account (owns : g.stage.owns = true) :
    Obeys (discipline crates config submission)
      (fun g' _ => g'.stage.isRedeemed = false ∧ (g'.stage.owns = true → g'.stranded = true)) g
      (delete_user_account config.ldap submission.form.username) := by
  refine obeys_andThen obeys_login ?_ ?_
  · rintro g' error rfl
    refine ⟨?_, fun _ => by simp [Progress.loginFailed, owns]⟩
    show g.stage.isRedeemed = false
    cases stage : g.stage <;> simp_all [Stage.owns, Stage.isRedeemed]
  · rintro g' token rfl
    refine obeys_mono (obeys_delete_user owns) ?_
    rintro g'' _ rfl
    exact ⟨rfl, by rintro ⟨⟩⟩

/-- A request with an error page has not redeemed, and what is left is accounted for. -/
theorem done_error {code : String} {errors : List String} (unredeemed : g.stage.isRedeemed = false)
    (left : g.stage.owns = true → g.stranded = true ∨ UnknownGroup crates g) :
    Done crates submission g (submission.form.refused code errors) :=
  .inr (.inl ⟨⟨_, rfl, rfl⟩, unredeemed, left⟩)

theorem obeys_claim_invite {code : String} (given : submission.code = some code)
    (complete : Complete crates submission g .owner) :
    Obeys (discipline crates config submission) (Done crates submission) g
      (claim_invite config submission.form code (hash_token crates code)) := by
  obtain ⟨invite, names, records, joined, found, decoded, listed, matched, stage⟩ := complete
  have owns : g.stage.owns = true := by rw [stage]; rfl
  have refused : Obeys (discipline crates config submission) (Done crates submission) g
      ((delete_user_account config.ldap submission.form.username).bind fun _ =>
        .ret (submission.form.refused code ["The invitation could not be marked as used. Please try again."])) := by
    refine obeys_bind (obeys_delete_user_account owns) ?_
    rintro g' _ ⟨unredeemed, left⟩
    exact done_error unredeemed fun owned => .inl (left owned)
  refine ⟨trivial, fun now => ⟨⟨⟨invite, names, records, joined, found, decoded, listed, matched, stage⟩,
    ⟨code, given, rfl⟩, ⟨now, rfl⟩, rfl⟩, ?_⟩⟩
  rintro (_ | _ | _)
  · exact refused
  · exact refused
  · refine .inl ⟨rfl, invite, names, records, joined, found, decoded, listed, matched, ?_⟩
    show g.stage.redeem = _
    rw [stage]
    rfl

/-- A request that has created no account is done with any error page. -/
theorem done_refused (fresh : g.stage = .fresh) (code : String) (errors : List String) :
    Done crates submission g (submission.form.refused code errors) :=
  done_error (by rw [fresh]; rfl) (by rw [fresh]; rintro ⟨⟩)

theorem obeys_redeem {code : String} (given : submission.code = some code) (fresh : g.stage = .fresh)
    (unstranded : g.stranded = false) {invite : InviteRecord} (found : g.found = some invite) :
    Obeys (discipline crates config submission) (Done crates submission) g
      (redeem crates config submission.form code (hash_token crates code) invite) := by
  unfold redeem
  cases decoded : crates.groups_from_json invite.groups_json with
  | none => exact done_refused fresh _ _
  | some names =>
    refine obeys_bind (obeys_provision_user fresh unstranded names) ?_
    rintro g' ((error | done) | _) ⟨kept, _, rest⟩
    · obtain ⟨unredeemed, unknown⟩ := rest
      refine done_error unredeemed fun owns => .inr ?_
      obtain ⟨records, name, listed, member, missing⟩ := unknown owns
      exact ⟨invite, names, records, name, kept.trans found, decoded, listed, member, missing⟩
    · obtain ⟨records, joined, listed, matched, stage⟩ := rest
      exact obeys_claim_invite given ⟨invite, names, records, joined, kept.trans found, decoded, listed, matched, stage⟩
    · exact .inr (.inr ⟨rfl, rest⟩)

theorem obeys_find_invite {code : String} (given : submission.code = some code) (fresh : g.stage = .fresh)
    (unstranded : g.stranded = false) :
    Obeys (discipline crates config submission) (Done crates submission) g
      (find_invite crates config submission.form code) := by
  refine ⟨⟨fresh, code, given, rfl⟩, ?_⟩
  rintro (_ | _ | invite)
  · exact done_refused fresh _ _
  · exact done_refused fresh _ _
  · refine ⟨trivial, fun now => ?_⟩
    dsimp only
    split
    · exact done_refused (g := { g with found := some invite }) fresh _ _
    · exact obeys_redeem (g := { g with found := some invite }) given fresh unstranded rfl

/-- The code: whatever is replied, a redemption stays within its discipline. -/
theorem obeys_submit_invite (crates : Crates) (config : SubmitConfig) (submission : Submission) :
    Obeys (discipline crates config submission) (Done crates submission) .start
      (submit_invite crates config submission) := by
  unfold submit_invite
  dsimp only
  cases given : submission.code with
  | none => exact done_refused rfl _ _
  | some code =>
    dsimp only
    split
    · exact done_refused rfl _ _
    · split
      · exact done_refused rfl _ _
      · refine obeys_bind (obeys_user_exists rfl "id" submission.form.username) ?_
        rintro g' known rfl
        split
        · exact done_refused rfl _ _
        · refine obeys_bind (obeys_user_exists rfl "email" submission.form.email) ?_
          rintro g' known rfl
          split
          · exact done_refused rfl _ _
          · exact obeys_find_invite given rfl rfl

end
end InviteSystem.Redemption
