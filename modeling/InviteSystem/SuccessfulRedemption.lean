import InviteSystem.DirectoryServer
import InviteSystem.RedeemedInvites

/-!
Success means the whole effect. Where a directory call that returns without
error took effect and an error of the repository left nothing behind, a request
that answers that the account is created has made all of it, whatever happens
beside it; and one that answers anything else has not touched the store.
-/
namespace InviteSystem.SuccessfulRedemption
open InviteSystem.Runs InviteSystem.Chrono InviteSystem.Transactions InviteSystem.Libraries InviteSystem.Tokens
open InviteSystem.InviteStorage InviteSystem.SingleUse InviteSystem.Programs InviteSystem.Lldap
open InviteSystem.SubmitInvite InviteSystem.Redemption InviteSystem.Effects InviteSystem.Accounts
open InviteSystem.RedemptionSystem InviteSystem.RedeemedInvites InviteSystem.DirectoryServer

section
variable {ι : Type}

/-- A password goes to the account that the name resolves to. -/
def Targets (resolve : String → Option String) (w : World ι) : Lldap.Call → World ι → Prop
  | .password_modify user_id new_pass, w' =>
    w' = w ∨ ∃ id, resolve user_id = some id ∧ w' = { w with directory := w.directory.setPassword id new_pass }
  | _, _ => True

/-- What is assumed of the calls beyond `Perform`: a directory call that returns
    without error took effect, a password goes to the account that the name
    resolves to, and an error of the repository means that it did not commit. -/
def Effective (resolve : String → String) (w : World ι) : (c : Lldap.Call) → Reply c → World ι → Prop
  | .post_graphql _ _ (.DeleteUser id), reply, w' =>
    reported reply = true → w' = { w with directory := w.directory.erase id }
  | .post_graphql _ _ (.AddUserToGroup user group), reply, w' =>
    reported reply = true → w' = { w with directory := w.directory.join user group }
  | .post_graphql _ _ .GetGroupList, reply, _ =>
    ∀ records, GraphqlReply.result reply = .ok records → records = w.directory.groups
  | .password_modify user_id new_pass, reply, w' =>
    (w' = w ∨ w' = { w with directory := w.directory.setPassword (resolve user_id) new_pass }) ∧
      (reply = .ok () → w' = { w with directory := w.directory.setPassword (resolve user_id) new_pass })
  | .consume_invite _ _ _, reply, w' => reply = none → w' = w
  | _, _, _ => True

/-- The call creates no invite under the hash of the code of a request that has
    already arrived: the token of an invite is drawn when it is made. -/
def Fresh (crates : Crates) (submissions : ι → Submission) (s : System (World ι) ι Lldap.Call Reply (Outcome FormPage)) :
    InviteStorage.Call → Prop
  | .create_invite _ token_hash _ _ _ _ => ∀ i code, s.programs i ≠ none → (submissions i).code = some code →
      token_hash ≠ hash_token crates code
  | _ => True

/-- Redemptions beside calls of the other routes and of the cleanup, among those
    that may come, and beside parties that leave the accounts of the requests alone. -/
abbrev Effectives [DecidableEq ι] (crates : Crates) (config : SubmitConfig) (submissions : ι → Submission)
    (resolve : String → String) (may : System (World ι) ι Lldap.Call Reply (Outcome FormPage) → InviteStorage.Call → Prop) :=
  Step (fun i => submit_invite crates config (submissions i))
    (fun i w c reply w' => Perform i w c reply w' ∧ Effective resolve w c reply w')
    (fun s w' => Outside (may s) s.world w' ∧
      ∀ id account i flag, s.world.directory.account id = some account → account.origin = .request i flag →
        w'.directory.account id = some account)

/-- The account of the request, as it is to be. -/
def provisioned (i : ι) (form : SubmitInviteForm) (password : Option String) (joined : List Int) : Account ι where
  id := form.username
  email := form.email
  display_name := form.first_name ++ " " ++ form.last_name
  first_name := form.first_name
  last_name := form.last_name
  password := password
  joined := joined
  origin := .request i true

/-- The request was answered with this invite. -/
def Finding (i : ι) (labels : List (Label ι Lldap.Call Reply)) (invite : InviteRecord) : Prop :=
  ∃ reply, .call i (.find_by_token_hash invite.token_hash) reply ∈ labels ∧
    finds (.find_by_token_hash invite.token_hash) reply = some invite

/-- The request was answered with this list of groups. -/
def Listing (i : ι) (labels : List (Label ι Lldap.Call Reply)) (records : List GroupRecord) : Prop :=
  ∃ url token reply, .call i (.post_graphql url token .GetGroupList) reply ∈ labels ∧
    GraphqlReply.result reply = .ok records

variable {crates : Crates} {config : SubmitConfig} {submissions : ι → Submission} {resolve : String → String}
  {P : ι → Progress} {w w' : World ι} {start : World ι} {labels : List (Label ι Lldap.Call Reply)}

theorem effective_committed {c : Lldap.Call} {reply : Reply c} (effective : Effective resolve w c reply w') :
    Committed c reply w w' := by
  cases c with
  | consume_invite token_hash consumed_at consumed_by => exact effective
  | _ => trivial

theorem effective_targets {c : Lldap.Call} {reply : Reply c} (effective : Effective resolve w c reply w') :
    Targets (fun dn => some (resolve dn)) w c w' := by
  cases c with
  | password_modify user_id new_pass =>
    rcases effective.1 with same | set
    · exact .inl same
    · exact .inr ⟨_, rfl, set⟩
  | _ => trivial

/-! ### The account -/

/-- The request has made its account, with this password and these groups. -/
def Stage.Made (stage : Stage) (password : Option String) (joined : List Int) : Prop :=
  stage = .owner password joined ∨ stage = .redeemed password joined

theorem made_holds {stage : Stage} {password : Option String} {joined : List Int}
    (made : Stage.Made stage password joined) : stage.holds = true := by
  rcases made with rfl | rfl
  · rfl
  · rfl

/-- The directory has the account as far as the request has made it. -/
def AsMade (submissions : ι → Submission) (P : ι → Progress) (w : World ι) : Prop :=
  ∀ i password joined, Stage.Made (P i).stage password joined →
    w.directory.account (submissions i).form.username = some (provisioned i (submissions i).form password joined)

/-- A call changes no account but that of the submitted username. -/
theorem call_elsewhere {submission : Submission} {g : Progress} {resolve : String → Option String}
    (addressed : resolve (user_dn config.ldap submission.form.username) = some submission.form.username) {i : ι}
    {c : Lldap.Call} {reply : Reply c} (allowed : Allowed crates config submission g c)
    (performed : Perform i w c reply w') (targets : Targets resolve w c w') {id : String}
    (other : id ≠ submission.form.username) : w'.directory.account id = w.directory.account id := by
  cases perform_cases performed with
  | created =>
    obtain ⟨_, rfl⟩ := allowed
    exact account_insert_ne other
  | deleted =>
    obtain ⟨_, rfl⟩ := allowed
    exact account_erase_ne other
  | joined =>
    obtain ⟨_, rfl⟩ := allowed
    exact (account_join ..).trans (if_neg other)
  | passwordSet =>
    obtain ⟨_, rfl, _⟩ := allowed
    rcases targets with same | ⟨id', resolved, same⟩
    · rw [same]
    · cases addressed.symm.trans resolved
      rw [same]
      exact (account_setPassword ..).trans (if_neg other)
  | _ => rfl

/-- Nor that one, where it is there and the request does not hold it. -/
theorem call_unheld {submission : Submission} {g : Progress} {i : ι} {c : Lldap.Call} {reply : Reply c}
    (allowed : Allowed crates config submission g c) (performed : Perform i w c reply w')
    (unheld : ¬ g.stage.holds = true) (taken : w.directory.account submission.form.username ≠ none) :
    w'.directory.account submission.form.username = w.directory.account submission.form.username := by
  cases perform_cases performed with
  | created absent =>
    obtain ⟨_, rfl⟩ := allowed
    exact absurd absent taken
  | deleted => exact absurd (by simp [Stage.holds, allowed.1]) unheld
  | joined =>
    obtain ⟨⟨password, joined, owner⟩, _⟩ := allowed
    exact absurd (by rw [owner]; rfl) unheld
  | passwordSet => exact absurd (by rw [allowed.1]; rfl) unheld
  | _ => rfl

theorem call_at {submission : Submission} {g : Progress} {resolve : String → Option String}
    (addressed : resolve (user_dn config.ldap submission.form.username) = some submission.form.username) {i : ι}
    {c : Lldap.Call} {reply : Reply c} (allowed : Allowed crates config submission g c)
    (performed : Perform i w c reply w') (targets : Targets resolve w c w') (id : String) :
    w'.directory.account id = w.directory.account id ∨
      (id = submission.form.username ∧ (g.stage.holds = true ∨ w.directory.account id = none)) := by
  by_cases own : id = submission.form.username
  · subst own
    by_cases open_ : g.stage.holds = true ∨ w.directory.account submission.form.username = none
    · exact .inr ⟨rfl, open_⟩
    · rw [not_or] at open_
      exact .inl (call_unheld allowed performed open_.1 open_.2)
  · exact .inl (call_elsewhere addressed allowed performed targets own)

/-- A call of another request leaves an account that this one holds. -/
theorem foreign_call (addresses : ∀ i, resolve (user_dn config.ldap (submissions i).form.username) =
      (submissions i).form.username)
    (owned : Owned submissions P w) {i j : ι} (other : i ≠ j) (holds : (P i).stage.holds = true) {c : Lldap.Call}
    {reply : Reply c} (allowed : Allowed crates config (submissions j) (P j) c) (performed : Perform j w c reply w')
    (effective : Effective resolve w c reply w') :
    w'.directory.account (submissions i).form.username = w.directory.account (submissions i).form.username := by
  have targets : Targets (fun dn => some (resolve dn)) w c w' := effective_targets effective
  rcases call_at (by rw [addresses j]) allowed performed targets (submissions i).form.username with
    same | ⟨name, held | absent⟩
  · exact same
  · exact absurd (owned.unique holds held name) other
  · obtain ⟨account, present, _⟩ := owned i holds
    cases absent.symm.trans present

/-! A request comes to have made its account by a reported success only. -/

theorem made_created {g : Progress} (fresh : g.stage = .fresh) {user : CreateUserInput}
    {result : Except LldapError (Operation.Data (.CreateUser user))} {password : Option String} {joined : List Int}
    (now : Stage.Made (g.afterOperation (.CreateUser user) result).stage password joined) :
    (∃ id, result = .ok id) ∧ password = none ∧ joined = [] := by
  cases result with
  | error error => rcases now with now | now <;> cases fresh.symm.trans now
  | ok id =>
    rcases now with now | now <;> cases now
    exact ⟨⟨id, rfl⟩, rfl, rfl⟩

theorem made_joined {g : Progress} {password₀ : Option String} {joined₀ : List Int}
    (owner : g.stage = .owner password₀ joined₀) {user : String} {group : Int}
    {result : Except LldapError (Operation.Data (.AddUserToGroup user group))} {password : Option String}
    {joined : List Int} (now : Stage.Made (g.afterOperation (.AddUserToGroup user group) result).stage password joined) :
    (∃ flag, result = .ok flag) ∧ password = password₀ ∧ joined = joined₀ ++ [group] := by
  cases result with
  | error error =>
    simp only [Progress.afterOperation, owner, Stage.spoil] at now
    rcases now with now | now <;> cases now
  | ok flag =>
    simp only [Progress.afterOperation, owner, Stage.join] at now
    rcases now with now | now <;> cases now
    exact ⟨⟨flag, rfl⟩, rfl, rfl⟩

theorem made_set {g : Progress} (owner : g.stage = .owner none []) {user_id new_pass : String}
    {reply : Reply (.password_modify user_id new_pass)} {password : Option String} {joined : List Int}
    (now : Stage.Made (g.after (.password_modify user_id new_pass) reply).stage password joined) :
    reply = .ok () ∧ password = some new_pass ∧ joined = [] := by
  cases reply with
  | error error =>
    simp only [Progress.after, owner, Stage.spoil] at now
    rcases now with now | now <;> cases now
  | ok done =>
    simp only [Progress.after, owner, Stage.setPassword] at now
    rcases now with now | now <;> cases now
    exact ⟨rfl, rfl, rfl⟩

theorem made_consumed {g : Progress} {password₀ : Option String} {joined₀ : List Int}
    (owner : g.stage = .owner password₀ joined₀) {token_hash consumed_at consumed_by : String}
    {reply : Reply (.consume_invite token_hash consumed_at consumed_by)} {password : Option String} {joined : List Int}
    (now : Stage.Made (g.after (.consume_invite token_hash consumed_at consumed_by) reply).stage password joined) :
    password = password₀ ∧ joined = joined₀ := by
  revert now reply
  rintro (_ | _ | _) now
  · rcases now with now | now <;> cases owner.symm.trans now
    exact ⟨rfl, rfl⟩
  · rcases now with now | now <;> cases owner.symm.trans now
    exact ⟨rfl, rfl⟩
  · simp only [Progress.after, owner, Stage.redeem] at now
    rcases now with now | now <;> cases now
    exact ⟨rfl, rfl⟩

/-- A call of its own makes of the account what its progress says. -/
theorem own_call (addresses : ∀ i, resolve (user_dn config.ldap (submissions i).form.username) =
      (submissions i).form.username)
    (made : AsMade submissions P w) {i : ι} {c : Lldap.Call} {reply : Reply c}
    (allowed : Allowed crates config (submissions i) (P i) c) (performed : Perform i w c reply w')
    (effective : Effective resolve w c reply w') {password : Option String} {joined : List Int}
    (now : Stage.Made ((P i).after c reply).stage password joined) :
    w'.directory.account (submissions i).form.username = some (provisioned i (submissions i).form password joined) := by
  revert performed allowed effective now reply
  induction c using call_cases with
  | passive c passive =>
    intro reply _ performed _ now
    rw [(passive_world passive).mp performed]
    rw [(passive_stage passive reply (P i)).1] at now
    exact made i password joined now
  | create url token user =>
    rintro reply ⟨fresh, rfl⟩ performed _ now
    obtain ⟨⟨id, result⟩, rfl, rfl⟩ := made_created fresh now
    have success := reported_ok result
    rcases performed with ⟨failed, _⟩ | ⟨absent, rfl⟩
    · cases success.symm.trans failed
    · refine (account_insert_self absent).trans ?_
      exact congrArg (fun flag => some (Account.created (SubmitInviteForm.user (submissions i).form) (.request i flag)))
        success
  | delete url token id =>
    rintro reply _ _ _ (now | now)
    · cases now
    · cases now
  | join url token user group =>
    rintro reply ⟨⟨password₀, joined₀, owner⟩, rfl⟩ _ effective now
    have before := made i password₀ joined₀ (.inl owner)
    obtain ⟨⟨flag, result⟩, rfl, rfl⟩ := made_joined owner now
    rw [effective (reported_ok result)]
    exact (account_join ..).trans (by rw [if_pos rfl, before]; rfl)
  | password user_id new_pass =>
    rintro reply ⟨owner, rfl, rfl⟩ _ effective now
    have before := made i none [] (.inl owner)
    obtain ⟨done, rfl, rfl⟩ := made_set owner now
    rw [effective.2 done, addresses i]
    exact (account_setPassword ..).trans (by rw [if_pos rfl, before]; rfl)
  | find token_hash =>
    rintro (_ | _ | invite) ⟨fresh, _⟩ _ _ now <;>
    rcases now with now | now <;> cases fresh.symm.trans now
  | consume token_hash consumed_at consumed_by =>
    rintro reply ⟨⟨_, _, _, joined₀, _, _, _, _, owner⟩, _⟩ ⟨store, rfl, _⟩ _ now
    obtain ⟨rfl, rfl⟩ := made_consumed owner now
    exact made i _ _ (.inl owner)

theorem asMade_outside (made : AsMade submissions P w)
    (alone : ∀ id account i flag, w.directory.account id = some account → account.origin = .request i flag →
      w'.directory.account id = some account) : AsMade submissions P w' :=
  fun i password joined now => alone _ _ i true (made i password joined now) rfl

/-! ### The invite -/

/-- The invite that a request goes by was found for it, under the hash of its code. -/
def AsFound (crates : Crates) (submissions : ι → Submission) (labels : List (Label ι Lldap.Call Reply))
    (P : ι → Progress) : Prop :=
  ∀ i invite, (P i).found = some invite → Finding i labels invite ∧
    ∃ code, (submissions i).code = some code ∧ invite.token_hash = hash_token crates code

/-- As long as a row stands under the hash of a found invite, it is that invite. -/
def SameInvite (P : ι → Progress) (w : World ι) : Prop :=
  ∀ i invite, (P i).found = some invite → ∀ row ∈ w.store.invites, row.token_hash = invite.token_hash →
    row.id = invite.id ∧ row.groups_json = invite.groups_json

theorem Finding.snoc {i : ι} {invite : InviteRecord} (finding : Finding i labels invite)
    (l : Label ι Lldap.Call Reply) : Finding i (labels ++ [l]) invite := by
  obtain ⟨reply, member, found⟩ := finding
  exact ⟨reply, List.mem_append_left _ member, found⟩

theorem asFound_snoc (found : AsFound crates submissions labels P) (l : Label ι Lldap.Call Reply) :
    AsFound crates submissions (labels ++ [l]) P :=
  fun i invite was => ⟨(found i invite was).1.snoc l, (found i invite was).2⟩

/-- Changes that create no row under the hash keep the invite. -/
theorem SameInvite.store (same : SameInvite P w)
    (from_ : ∀ i invite, (P i).found = some invite → ∀ row' ∈ w'.store.invites, row'.token_hash = invite.token_hash →
      ∃ row ∈ w.store.invites, row.id = row'.id ∧ row.token_hash = row'.token_hash ∧
        row.groups_json = row'.groups_json) : SameInvite P w' := by
  intro i invite was row' stored' hash'
  obtain ⟨row, stored, id, hash, groups⟩ := from_ i invite was row' stored' hash'
  obtain ⟨sameId, sameGroups⟩ := same i invite was row stored (hash.trans hash')
  exact ⟨id.symm.trans sameId, groups.symm.trans sameGroups⟩

theorem sameInvite_perform (same : SameInvite P w) {i : ι} {c : Lldap.Call} {reply : Reply c}
    (performed : Perform i w c reply w') (effective : Effective resolve w c reply w') : SameInvite P w' := by
  refine same.store ?_
  intro j invite _ row' stored' _
  rcases perform_committed performed (effective_committed effective) with ⟨unchanged, _⟩ | ⟨_, _, _, _, _, changed⟩
  · exact ⟨row', by rwa [unchanged] at stored', rfl, rfl, rfl⟩
  · rcases changed_from changed stored' with old | ⟨_, _, _, _, created⟩
    · exact old
    · cases created

theorem sameInvite_outside {s : System (World ι) ι Lldap.Call Reply (Outcome FormPage)}
    (waiting : ∀ i, s.programs i = none → P i = .start) (found : AsFound crates submissions labels P)
    (same : SameInvite P s.world) (changed : Outside (Fresh crates submissions s) s.world w') : SameInvite P w' := by
  refine same.store ?_
  intro i invite was row' stored' hash'
  cases changed with
  | directory _ _ => exact ⟨row', stored', rfl, rfl, rfl⟩
  | repository comes step =>
    rcases atomic_cases step with ⟨unchanged, _⟩ | ⟨_, changed, _⟩
    · exact ⟨row', by rwa [show _ = s.world.store from unchanged] at stored', rfl, rfl, rfl⟩
    · rcases changed_from changed stored' with old | ⟨_, _, _, _, rfl⟩
      · exact old
      · -- a request that has found an invite has arrived
        obtain ⟨_, code, given, hash⟩ := found i invite was
        have arrived : s.programs i ≠ none := by
          intro absent
          rw [waiting i absent] at was
          cases was
        exact absurd (hash'.trans hash) (comes i code arrived given)

/-! ### Runs -/

/-- The groups that a request goes by were listed to it. -/
def AsListed (labels : List (Label ι Lldap.Call Reply)) (P : ι → Progress) : Prop :=
  ∀ i records, (P i).records = some records → Listing i labels records

theorem Listing.snoc {i : ι} {records : List GroupRecord} (listing : Listing i labels records)
    (l : Label ι Lldap.Call Reply) : Listing i (labels ++ [l]) records := by
  obtain ⟨url, token, reply, member, result⟩ := listing
  exact ⟨url, token, reply, List.mem_append_left _ member, result⟩

theorem lists_listing {i : ι} {c : Lldap.Call} {reply : Reply c} {records : List GroupRecord}
    (listed : lists c reply = some records) : Listing i (labels ++ [.call i c reply]) records := by
  cases c with
  | post_graphql url token operation =>
    cases operation with
    | GetGroupList => exact ⟨url, token, reply, List.mem_append_right _ List.mem_cons_self, lists_iff.mp listed⟩
    | _ => cases listed
  | _ => cases listed

/-- What holds in every state that the system reaches. -/
structure Invariant (crates : Crates) (submissions : ι → Submission) (labels : List (Label ι Lldap.Call Reply))
    (P : ι → Progress) (w : World ι) : Prop where
  owned : Owned submissions P w
  made : AsMade submissions P w
  found : AsFound crates submissions labels P
  listed : AsListed labels P

variable [DecidableEq ι]

theorem asFound_call (found : AsFound crates submissions labels P) {i : ι} {c : Lldap.Call} {reply : Reply c}
    (allowed : Allowed crates config (submissions i) (P i) c) (performed : Perform i w c reply w') :
    AsFound crates submissions (labels ++ [.call i c reply]) (Function.update P i ((P i).after c reply)) := by
  intro j invite was
  by_cases same : j = i
  · subst same
    rw [Function.update_self, after_found, Option.or_eq_some_iff] at was
    rcases was with now | ⟨_, before⟩
    · obtain ⟨_, _, rfl⟩ := perform_finds performed now
      exact ⟨⟨reply, List.mem_append_right _ List.mem_cons_self, now⟩, allowed.2⟩
    · exact asFound_snoc found _ j invite before
  · rw [Function.update_of_ne same] at was
    exact asFound_snoc found _ j invite was

theorem sameInvite_call (same : SameInvite P w) {i : ι} {c : Lldap.Call} {reply : Reply c}
    (performed : Perform i w c reply w') (effective : Effective resolve w c reply w') :
    SameInvite (Function.update P i ((P i).after c reply)) w' := by
  have kept := sameInvite_perform same performed effective
  intro j invite was row stored hash
  by_cases own : j = i
  · subst own
    rw [Function.update_self, after_found, Option.or_eq_some_iff] at was
    rcases was with now | ⟨_, before⟩
    · obtain ⟨unchanged, stored', _⟩ := perform_finds performed now
      rw [unchanged] at stored
      cases row_of_hash stored stored' hash
      exact ⟨rfl, rfl⟩
    · exact kept j invite before row stored hash
  · rw [Function.update_of_ne own] at was
    exact kept j invite was row stored hash

theorem asListed_call (listed : AsListed labels P) {i : ι} {c : Lldap.Call} {reply : Reply c} :
    AsListed (labels ++ [.call i c reply]) (Function.update P i ((P i).after c reply)) := by
  intro j records was
  by_cases same : j = i
  · subst same
    rw [Function.update_self, after_records, Option.or_eq_some_iff] at was
    rcases was with now | ⟨_, before⟩
    · exact lists_listing now
    · exact (listed j records before).snoc _
  · rw [Function.update_of_ne same] at was
    exact (listed j records was).snoc _

theorem asMade_call (addresses : ∀ i, resolve (user_dn config.ldap (submissions i).form.username) =
      (submissions i).form.username)
    (owned : Owned submissions P w) (made : AsMade submissions P w) {i : ι} {c : Lldap.Call} {reply : Reply c}
    (allowed : Allowed crates config (submissions i) (P i) c) (performed : Perform i w c reply w')
    (effective : Effective resolve w c reply w') :
    AsMade submissions (Function.update P i ((P i).after c reply)) w' := by
  intro j password joined now
  by_cases same : j = i
  · subst same
    rw [Function.update_self] at now
    exact own_call addresses made allowed performed effective now
  · rw [Function.update_of_ne same] at now
    rw [foreign_call addresses owned same (made_holds now) allowed performed effective]
    exact made j password joined now

variable {s : System (World ι) ι Lldap.Call Reply (Outcome FormPage)}
  {may : System (World ι) ι Lldap.Call Reply (Outcome FormPage) → InviteStorage.Call → Prop}

theorem run_invariant_effective (addresses : ∀ i, resolve (user_dn config.ldap (submissions i).form.username) =
      (submissions i).form.username)
    (run : Run (Effectives crates config submissions resolve may) (.initial start) labels s) :
    Invariant crates submissions labels
      (progress (fun i => discipline crates config (submissions i)) .start labels) s.world := by
  refine run_invariant (fun i => obeys_submit_invite crates config (submissions i)) ?_ ?_ ?_ ?_ run
  · intro i labels P w inv
    exact { inv with
      found := asFound_snoc inv.found _
      listed := fun j records listed => (inv.listed j records listed).snoc _ }
  · rintro i labels P w c reply w' inv allowed ⟨performed, effective⟩
    exact ⟨owned_call inv.owned allowed performed,
      asMade_call addresses inv.owned inv.made allowed performed effective, asFound_call inv.found allowed performed,
      asListed_call inv.listed⟩
  · rintro s labels P w' waiting inv ⟨changed, alone⟩
    exact ⟨owned_outside inv.owned changed, asMade_outside inv.made alone, asFound_snoc inv.found _,
      fun j records listed => (inv.listed j records listed).snoc _⟩
  · refine ⟨?_, ?_, ?_, ?_⟩
    · rintro i ⟨⟩
    · rintro i password joined (now | now) <;> cases now
    · rintro i invite ⟨⟩
    · rintro i records ⟨⟩

/-- What holds beside it where codes are drawn afresh. -/
structure Unreplaced (crates : Crates) (submissions : ι → Submission) (labels : List (Label ι Lldap.Call Reply))
    (P : ι → Progress) (w : World ι) : Prop where
  found : AsFound crates submissions labels P
  same : SameInvite P w

/-- Then a found invite is not replaced by another. -/
theorem run_unreplaced
    (run : Run (Effectives crates config submissions resolve (Fresh crates submissions)) (.initial start) labels s) :
    Unreplaced crates submissions labels
      (progress (fun i => discipline crates config (submissions i)) .start labels) s.world := by
  refine run_invariant (fun i => obeys_submit_invite crates config (submissions i)) ?_ ?_ ?_ ?_ run
  · rintro i labels P w ⟨found, same⟩
    exact ⟨asFound_snoc found _, same⟩
  · rintro i labels P w c reply w' ⟨found, same⟩ allowed ⟨performed, effective⟩
    exact ⟨asFound_call found allowed performed, sameInvite_call same performed effective⟩
  · rintro s labels P w' waiting ⟨found, same⟩ ⟨changed, _⟩
    exact ⟨asFound_snoc found _, sameInvite_outside waiting found same changed⟩
  · refine ⟨?_, ?_⟩
    · rintro i invite ⟨⟩
    · rintro i invite ⟨⟩

/-- Success means the whole effect. A request that has answered that the account
    is created has its invite consumed, under the hash of its code, in its name
    and before the expiry; and there is its account, as submitted, with the
    password as submitted, in the first group of every name of the invite that
    it was given, in their order. Where codes are drawn afresh, that invite is
    the consumed one. A request that has answered anything else has changed
    nothing in the store by any of its steps. -/
theorem success_is_whole (crates : Crates) (config : SubmitConfig) (submissions : ι → Submission)
    (resolve : String → String) (start : World ι)
    (addresses : ∀ i, resolve (user_dn config.ldap (submissions i).form.username) = (submissions i).form.username)
    {s : System (World ι) ι Lldap.Call Reply (Outcome FormPage)} {labels : List (Label ι Lldap.Call Reply)}
    (run : Run (Effectives crates config submissions resolve (fun _ _ => True)) (.initial start) labels s) {i : ι}
    {page : Outcome FormPage} (ended : s.programs i = some (.ret page)) :
    (page = accountCreated → ∃ row ∈ s.world.store.invites, ∃ invite names records joined,
      Redeemed crates (submissions i) i labels row ∧
      (∃ now : Reading, row.consumed_at = some (to_rfc3339 now.time) ∧ ∀ expires, now.time.FourDigitYear →
        row.expires_at = to_rfc3339 expires → now.time < expires) ∧
      Finding i labels invite ∧ row.token_hash = invite.token_hash ∧
      (Run (Effectives crates config submissions resolve (Fresh crates submissions)) (.initial start) labels s →
        row.id = invite.id ∧ row.groups_json = invite.groups_json) ∧
      crates.groups_from_json invite.groups_json = some names ∧ Listing i labels records ∧
      firstMatches records names = some joined ∧
      s.world.directory.account (submissions i).form.username =
        some (provisioned i (submissions i).form (some (submissions i).form.password) joined)) ∧
    (page ≠ accountCreated → ∀ before c reply later m m', labels = before ++ .call i c reply :: later →
      Run (Effectives crates config submissions resolve (fun _ _ => True)) (.initial start) before m →
      Effectives crates config submissions resolve (fun _ _ => True) m (.call i c reply) m' →
      m'.world.store = m.world.store) := by
  have inv := run_invariant_effective addresses run
  have weak : Run (Redemptions crates config submissions) (.initial start) labels s :=
    run.mono fun _ _ _ step => step.mono (fun _ _ _ _ _ performed => performed.1) (fun _ _ changed => changed.1)
  have final := (run_obeys (fun i => obeys_submit_invite crates config (submissions i)) run i).2 _ ended
  constructor
  · rintro rfl
    rcases final with ⟨_, invite, names, records, joined, found, decoded, listed, matched, stage⟩ | ⟨⟨_, shown, message⟩, _⟩ | ⟨panicked, _⟩
    · obtain ⟨row, stored, redeemed⟩ := run_haveRows weak i (by rw [stage]; rfl)
      obtain ⟨finding, code', given', hash'⟩ := inv.found i invite found
      obtain ⟨code, given, hash⟩ := redeemed.code
      cases given.symm.trans given'
      have same := hash.trans hash'.symm
      exact ⟨row, stored, invite, names, records, joined, redeemed, redeemed.in_time, finding, same,
        fun fresh => (run_unreplaced fresh).same i invite found row stored same, decoded,
        inv.listed i records listed, matched, inv.made i _ joined (.inr stage)⟩
    · cases shown
      cases message
    · cases panicked
  · rintro other before c reply later m m' rfl _ step
    have unredeemed : (progress (fun i => discipline crates config (submissions i)) .start
        (before ++ .call i c reply :: later) i).stage.isRedeemed = false := by
      rcases final with ⟨same, _⟩ | ⟨_, unredeemed, _⟩ | ⟨_, stage⟩
      · exact absurd same other
      · exact unredeemed
      · rw [stage]
        rfl
    cases step with
    | call _ performed =>
      rcases perform_committed performed.1 (effective_committed performed.2) with ⟨same, _⟩ | ⟨_, _, _, _, consumed, _⟩
      · exact same
      · have redeemed := (run_told weak i c reply (List.mem_append_right _ List.mem_cons_self) consumed).1
        cases unredeemed.symm.trans redeemed

omit [DecidableEq ι] in
theorem serve_targets (conditions : Conditions) (i : ι) (c : Lldap.Call) (w : World ι) :
    Targets conditions.resolve w c (serve conditions i c w).2 := by
  cases c with
  | password_modify user_id new_pass =>
    show _ ∨ _
    simp only [serve]
    cases resolved : conditions.resolve user_id with
    | none => exact .inl rfl
    | some id =>
      by_cases present : (w.directory.account id).isSome = true
      · simp [present]
      · simp [present]
  | _ => trivial

omit [DecidableEq ι] in
/-- The server without faults carries out what it reports. -/
theorem serve_effective (conditions : Conditions) (i : ι) (c : Lldap.Call) (w : World ι) :
    Effective (fun dn => (conditions.resolve dn).getD "") w c (serve conditions i c w).1 (serve conditions i c w).2 := by
  cases c with
  | post_graphql url token operation =>
    cases operation with
    | DeleteUser id => exact fun _ => rfl
    | AddUserToGroup user group => exact fun _ => rfl
    | GetGroupList =>
      intro records listed
      cases listed
      rfl
    | _ => trivial
  | password_modify user_id new_pass =>
    show (_ ∨ _) ∧ _
    simp only [serve]
    cases resolved : conditions.resolve user_id with
    | none => exact ⟨.inl rfl, by rintro ⟨⟩⟩
    | some id =>
      by_cases present : (w.directory.account id).isSome = true
      · simp [present]
      · simp [present]
  | consume_invite token_hash consumed_at consumed_by =>
    exact fun failed => absurd failed (serve_consumes conditions i token_hash consumed_at consumed_by w)
  | _ => trivial

end

/-- Bob redeems the invitation for `staff` and `vpn`. -/
theorem success_is_whole_sample : ∃ s labels,
    Run (Effectives servedCrates servedConfig (fun _ : Unit => applicant servedCode "bob")
      (fun dn => ((servedConditions true).resolve dn).getD "") (fun _ _ => True)) (.initial (servedWorld Unit)) labels s ∧
    s.programs () = some (.ret accountCreated) ∧
    ∃ row ∈ s.world.store.invites, ∃ invite names records joined,
      Redeemed servedCrates (applicant servedCode "bob") () labels row ∧ Finding () labels invite ∧
      row.id = invite.id ∧ servedCrates.groups_from_json invite.groups_json = some names ∧ Listing () labels records ∧
      firstMatches records names = some joined ∧
      s.world.directory.account "bob" =
        some (provisioned () (applicant servedCode "bob").form (some "Str0ng-Passw0rd") joined) := by
  let request : Unit → Submission := fun _ => applicant servedCode "bob"
  obtain ⟨page, world, served⟩ : ∃ page world, (submit_invite servedCrates servedConfig (request ())).eval
      (serve (servedConditions true) ()) (servedWorld Unit) = (page, world) := ⟨_, _, Prod.mk.eta.symm⟩
  have success : page = accountCreated := (congrArg (fun ended => ended.1) served).symm.trans (by decide)
  subst success
  obtain ⟨labels, fresh⟩ : ∃ labels, Run (Effectives servedCrates servedConfig request
      (fun dn => ((servedConditions true).resolve dn).getD "") (Fresh servedCrates request))
      (.initial (servedWorld Unit)) labels
      ⟨world, Function.update (fun _ => none) () (some (.ret accountCreated))⟩ :=
    ⟨_, alone_run (fun c w => ⟨serve_performs (servedConditions true) () c w, serve_effective (servedConditions true) () c w⟩)
      served⟩
  have run : Run (Effectives servedCrates servedConfig request
      (fun dn => ((servedConditions true).resolve dn).getD "") (fun _ _ => True)) (.initial (servedWorld Unit)) labels
      ⟨world, Function.update (fun _ => none) () (some (.ret accountCreated))⟩ :=
    fresh.mono fun _ _ _ step => step.mono (fun _ _ _ _ _ performed => performed)
      (fun _ _ changed => ⟨outside_mono (fun _ _ => trivial) changed.1, changed.2⟩)
  have ended : (⟨world, Function.update (fun _ => none) () (some (.ret accountCreated))⟩ :
      System (World Unit) Unit Lldap.Call Reply (Outcome FormPage)).programs () = some (.ret accountCreated) := by simp
  obtain ⟨whole, _⟩ := success_is_whole servedCrates servedConfig request _ (servedWorld Unit) (fun _ => by decide) run
    ended
  obtain ⟨row, stored, invite, names, records, joined, redeemed, _, finding, _, same, decoded, listing, matched,
    account⟩ := whole rfl
  exact ⟨_, labels, run, ended, row, stored, invite, names, records, joined, redeemed, finding, (same fresh).1, decoded,
    listing, matched, account⟩

end InviteSystem.SuccessfulRedemption
