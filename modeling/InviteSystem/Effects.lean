import InviteSystem.Redemption

/-!
What the calls of a redemption amount to, each said once: which call creates or
deletes the account, finds or consumes the invite, lists the groups; and what
the progress of the request takes from it.
-/
namespace InviteSystem.Effects
open InviteSystem.Libraries InviteSystem.InviteStorage InviteSystem.Programs InviteSystem.Lldap InviteSystem.SubmitInvite
open InviteSystem.Redemption

/-- The reply to a GraphQL request, as the client takes it. -/
def reported {T : Type} (reply : GraphqlReply T) : Bool := (GraphqlReply.result reply).isOk

theorem reported_ok {T : Type} {reply : GraphqlReply T} {data : T} (result : GraphqlReply.result reply = .ok data) :
    reported reply = true := by
  rw [reported, result]
  rfl

theorem toOption_iff {ε T : Type} {result : Except ε T} {data : T} : result.toOption = some data ↔ result = .ok data := by
  cases result with
  | error error => simp [Except.toOption]
  | ok value => simp [Except.toOption]

/-- The calls that change nothing but what the request knows. -/
def Passive : Lldap.Call → Bool
  | .post_graphql _ _ .GetGroupList => true
  | .post_graphql _ _ (.LookupUsers _ _) => true
  | .post_graphql _ _ (.CreateUser _) => false
  | .post_graphql _ _ (.DeleteUser _) => false
  | .post_graphql _ _ (.AddUserToGroup _ _) => false
  | .password_modify _ _ => false
  | .find_by_token_hash _ => false
  | .consume_invite _ _ _ => false
  | .post_login _ _ _ => true
  | .open_ca_file _ => true
  | .ldap_connect _ _ => true
  | .simple_bind _ _ => true
  | .unbind => true
  | .utc_now => true

/-- A call is passive, or one of six. -/
@[elab_as_elim]
theorem call_cases {motive : Lldap.Call → Prop} (c : Lldap.Call) (passive : ∀ c, Passive c = true → motive c)
    (create : ∀ url token user, motive (.post_graphql url token (.CreateUser user)))
    (delete : ∀ url token id, motive (.post_graphql url token (.DeleteUser id)))
    (join : ∀ url token user group, motive (.post_graphql url token (.AddUserToGroup user group)))
    (password : ∀ user_id new_pass, motive (.password_modify user_id new_pass))
    (find : ∀ token_hash, motive (.find_by_token_hash token_hash))
    (consume : ∀ token_hash consumed_at consumed_by, motive (.consume_invite token_hash consumed_at consumed_by)) :
    motive c := by
  cases c with
  | post_graphql url token operation =>
    cases operation with
    | CreateUser user => exact create url token user
    | DeleteUser id => exact delete url token id
    | AddUserToGroup user group => exact join url token user group
    | GetGroupList => exact passive _ rfl
    | LookupUsers field value => exact passive _ rfl
  | password_modify user_id new_pass => exact password user_id new_pass
  | find_by_token_hash token_hash => exact find token_hash
  | consume_invite token_hash consumed_at consumed_by => exact consume token_hash consumed_at consumed_by
  | post_login url username password => exact passive _ rfl
  | open_ca_file path => exact passive _ rfl
  | ldap_connect url no_tls_verify => exact passive _ rfl
  | simple_bind dn password => exact passive _ rfl
  | unbind => exact passive _ rfl
  | utc_now => exact passive _ rfl

/-- The id that the call asks to create, with whether it is reported to exist now. -/
def creates : (c : Lldap.Call) → Reply c → Option (String × Bool)
  | .post_graphql _ _ (.CreateUser user), reply => some (user.id, reported reply)
  | _, _ => none

def isDelete : Lldap.Call → Bool
  | .post_graphql _ _ (.DeleteUser _) => true
  | _ => false

/-- The invite that the call found. -/
def finds : (c : Lldap.Call) → Reply c → Option InviteRecord
  | .find_by_token_hash _, some found => found
  | _, _ => none

/-- The groups that the call listed. -/
def lists : (c : Lldap.Call) → Reply c → Option (List GroupRecord)
  | .post_graphql _ _ .GetGroupList, reply => (GraphqlReply.result reply).toOption
  | _, _ => none

theorem lists_iff {url token : String} {reply : GraphqlReply (List GroupRecord)} {records : List GroupRecord} :
    lists (.post_graphql url token .GetGroupList) reply = some records ↔ GraphqlReply.result reply = .ok records :=
  toOption_iff

/-- The call answered that the invite is consumed. -/
def consumes : (c : Lldap.Call) → Reply c → Bool
  | .consume_invite _ _ _, some consumed => consumed
  | _, _ => false

theorem afterOperation_found (g : Progress) (operation : Operation) (result : Except LldapError operation.Data) :
    (g.afterOperation operation result).found = g.found ∧ (g.afterOperation operation result).stranded = g.stranded := by
  cases operation <;> cases result <;> exact ⟨rfl, rfl⟩

theorem after_found (g : Progress) (c : Lldap.Call) (reply : Reply c) :
    (g.after c reply).found = (finds c reply).or g.found := by
  cases c with
  | post_graphql url token operation => exact (afterOperation_found g operation _).1
  | post_login url username password => cases reply <;> rfl
  | password_modify user_id new_pass => cases reply <;> rfl
  | find_by_token_hash token_hash =>
    revert reply
    rintro (_ | _ | invite) <;> rfl
  | consume_invite token_hash consumed_at consumed_by =>
    revert reply
    rintro (_ | _ | _) <;> rfl
  | _ => rfl

theorem after_records (g : Progress) (c : Lldap.Call) (reply : Reply c) :
    (g.after c reply).records = (lists c reply).or g.records := by
  cases c with
  | post_graphql url token operation =>
    cases operation with
    | GetGroupList =>
      show (g.afterOperation .GetGroupList (GraphqlReply.result reply)).records =
        (GraphqlReply.result reply).toOption.or g.records
      cases GraphqlReply.result reply <;> rfl
    | CreateUser user =>
      show (g.afterOperation (.CreateUser user) (GraphqlReply.result reply)).records = g.records
      cases GraphqlReply.result reply <;> rfl
    | AddUserToGroup user group =>
      show (g.afterOperation (.AddUserToGroup user group) (GraphqlReply.result reply)).records = g.records
      cases GraphqlReply.result reply <;> rfl
    | DeleteUser id => rfl
    | LookupUsers field value => rfl
  | post_login url username password => cases reply <;> rfl
  | password_modify user_id new_pass => cases reply <;> rfl
  | find_by_token_hash token_hash =>
    revert reply
    rintro (_ | _ | invite) <;> rfl
  | consume_invite token_hash consumed_at consumed_by =>
    revert reply
    rintro (_ | _ | _) <;> rfl
  | _ => rfl

/-- A passive call leaves the stage and the invite of the request. -/
theorem passive_stage {c : Lldap.Call} (passive : Passive c = true) (reply : Reply c) (g : Progress) :
    (g.after c reply).stage = g.stage ∧ (g.after c reply).found = g.found := by
  cases c with
  | post_graphql url token operation =>
    cases operation with
    | CreateUser user => cases passive
    | DeleteUser id => cases passive
    | AddUserToGroup user group => cases passive
    | GetGroupList =>
      show (g.afterOperation .GetGroupList (GraphqlReply.result reply)).stage = g.stage ∧
        (g.afterOperation .GetGroupList (GraphqlReply.result reply)).found = g.found
      cases GraphqlReply.result reply <;> exact ⟨rfl, rfl⟩
    | LookupUsers field value => exact ⟨rfl, rfl⟩
  | post_login url username password =>
    revert reply
    rintro (error | token)
    · exact ⟨rfl, rfl⟩
    · exact ⟨rfl, rfl⟩
  | password_modify user_id new_pass => cases passive
  | find_by_token_hash token_hash => cases passive
  | consume_invite token_hash consumed_at consumed_by => cases passive
  | _ => exact ⟨rfl, rfl⟩

theorem passive_silent {c : Lldap.Call} (passive : Passive c = true) (reply : Reply c) :
    isDelete c = false ∧ creates c reply = none ∧ consumes c reply = false := by
  cases c with
  | post_graphql url token operation =>
    cases operation with
    | CreateUser user => cases passive
    | DeleteUser id => cases passive
    | _ => exact ⟨rfl, rfl, rfl⟩
  | consume_invite token_hash consumed_at consumed_by => cases passive
  | _ => exact ⟨rfl, rfl, rfl⟩

section
variable {crates : Crates} {config : SubmitConfig} {submission : Submission}

/-- A request comes to hold an account by a reported creation only, and holds
    it until it asks for its deletion. -/
theorem after_holds {g : Progress} {c : Lldap.Call} {reply : Reply c} (allowed : Allowed crates config submission g c) :
    (g.after c reply).stage.holds = true ↔
      (g.stage.holds = true ∧ isDelete c = false) ∨ creates c reply = some (submission.form.username, true) := by
  revert allowed reply
  induction c using call_cases with
  | passive c passive =>
    intro reply _
    obtain ⟨noDelete, noCreation, _⟩ := passive_silent passive reply
    simp [(passive_stage passive reply g).1, noDelete, noCreation]
  | create url token user =>
    rintro reply ⟨fresh, rfl⟩
    show (g.afterOperation (.CreateUser _) (GraphqlReply.result reply)).stage.holds = true ↔
      _ ∨ some (submission.form.username, (GraphqlReply.result reply).isOk) = some (submission.form.username, true)
    cases GraphqlReply.result reply with
    | error error => simp [Progress.afterOperation, fresh, Stage.holds, Stage.owns, Stage.isRedeemed, Except.isOk, Except.toBool]
    | ok id => simp [Progress.afterOperation, Stage.holds, Stage.owns, Except.isOk, Except.toBool]
  | delete url token id =>
    rintro reply _
    simp [Progress.after, Progress.afterOperation, Stage.holds, Stage.owns, Stage.isRedeemed, isDelete, creates]
  | join url token user group =>
    rintro reply _
    show (g.afterOperation (.AddUserToGroup user group) (GraphqlReply.result reply)).stage.holds = true ↔ _
    cases GraphqlReply.result reply <;> simp [Progress.afterOperation, isDelete, creates]
  | password user_id new_pass => rintro (error | done) _ <;> simp [Progress.after, isDelete, creates]
  | find token_hash => rintro (_ | _ | invite) _ <;> simp [Progress.after, isDelete, creates]
  | consume token_hash consumed_at consumed_by =>
    rintro (_ | _ | _) _ <;> simp [Progress.after, isDelete, creates]

/-- A request redeems its invite by the consumption that answers so. -/
theorem after_redeemed {g : Progress} {c : Lldap.Call} {reply : Reply c}
    (allowed : Allowed crates config submission g c) :
    (g.after c reply).stage.isRedeemed = (g.stage.isRedeemed || consumes c reply) := by
  revert allowed reply
  induction c using call_cases with
  | passive c passive =>
    intro reply _
    rw [(passive_stage passive reply g).1, (passive_silent passive reply).2.2, Bool.or_false]
  | create url token user =>
    rintro reply ⟨fresh, rfl⟩
    show (g.afterOperation (.CreateUser _) (GraphqlReply.result reply)).stage.isRedeemed = (_ || false)
    cases GraphqlReply.result reply <;> simp [Progress.afterOperation, fresh, Stage.isRedeemed]
  | delete url token id =>
    rintro reply ⟨owns, _⟩
    show false = (g.stage.isRedeemed || false)
    cases stage : g.stage <;> simp_all [Stage.owns, Stage.isRedeemed]
  | join url token user group =>
    rintro reply _
    show (g.afterOperation (.AddUserToGroup user group) (GraphqlReply.result reply)).stage.isRedeemed = (_ || false)
    cases GraphqlReply.result reply <;> simp [Progress.afterOperation]
  | password user_id new_pass => rintro (error | done) _ <;> simp [Progress.after, consumes]
  | find token_hash => rintro (_ | _ | invite) _ <;> simp [Progress.after, consumes]
  | consume token_hash consumed_at consumed_by =>
    rintro (_ | _ | _) ⟨⟨_, _, _, _, _, _, _, _, owner⟩, _⟩
    · simp [Progress.after, consumes]
    · simp [Progress.after, consumes]
    · simp [Progress.after, consumes, owner, Stage.redeem, Stage.isRedeemed]

/-- A request that has tried to delete its account does nothing that brings it back. -/
theorem deleted_stays {g : Progress} {c : Lldap.Call} {reply : Reply c} (allowed : Allowed crates config submission g c)
    (deleted : g.stage = .deleted) : (g.after c reply).stage = .deleted := by
  revert allowed reply
  induction c using call_cases with
  | passive c passive =>
    intro reply _
    rw [(passive_stage passive reply g).1, deleted]
  | create url token user =>
    rintro reply ⟨fresh, _⟩
    rw [fresh] at deleted
    cases deleted
  | delete url token id => exact fun _ => rfl
  | join url token user group =>
    rintro reply ⟨⟨password, joined, owner⟩, _⟩
    rw [owner] at deleted
    cases deleted
  | password user_id new_pass =>
    rintro reply ⟨owner, _⟩
    rw [owner] at deleted
    cases deleted
  | find token_hash =>
    rintro reply ⟨fresh, _⟩
    rw [fresh] at deleted
    cases deleted
  | consume token_hash consumed_at consumed_by =>
    rintro reply ⟨⟨_, _, _, _, _, _, _, _, owner⟩, _⟩
    rw [owner] at deleted
    cases deleted

/-- A deletion is sent by a request that has sent none. -/
theorem delete_once {g : Progress} {c : Lldap.Call} (deletion : isDelete c = true) (reply : Reply c)
    (allowed : Allowed crates config submission g c) : g.stage ≠ .deleted ∧ (g.after c reply).stage = .deleted := by
  cases c with
  | post_graphql url token operation =>
    cases operation with
    | DeleteUser id =>
      refine ⟨?_, rfl⟩
      intro deleted
      have owns := allowed.1
      rw [deleted] at owns
      cases owns
    | _ => cases deletion
  | _ => cases deletion

end
end InviteSystem.Effects
