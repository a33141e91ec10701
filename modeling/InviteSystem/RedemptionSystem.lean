import InviteSystem.Accounts
import InviteSystem.Effects

/-!
Redemptions side by side: any number of requests over one directory and one
invite store, one call at a time in any order, beside administrators, cleanups
and other parties in the directory. `Perform` is the weakest directory that the
results assume: every call may fail, and a failed call may have had its effect.
The other results put their assumptions on top of it.
-/
namespace InviteSystem.RedemptionSystem
open InviteSystem.Runs InviteSystem.Transactions InviteSystem.Libraries InviteSystem.InviteStorage
open InviteSystem.Programs InviteSystem.Lldap InviteSystem.SubmitInvite InviteSystem.Redemption InviteSystem.Effects
open InviteSystem.Accounts

section
variable {ι : Type}

structure World (ι : Type) where
  directory : Directory ι
  store : Database

/-- What a call of a request does. A creation that reports success inserted an
    account that was absent; nothing else is promised by any report. -/
def Perform (i : ι) (w : World ι) : (c : Lldap.Call) → Reply c → World ι → Prop
  | .post_graphql _ _ (.CreateUser user), reply, w' => (reported reply = false ∧ w' = w) ∨
      (w.directory.account user.id = none ∧
        w' = { w with directory := w.directory.insert (.created user (.request i (reported reply))) })
  | .post_graphql _ _ (.DeleteUser id), _, w' => w' = w ∨ w' = { w with directory := w.directory.erase id }
  | .post_graphql _ _ (.AddUserToGroup user group), _, w' =>
    w' = w ∨ w' = { w with directory := w.directory.join user group }
  -- whichever account the name is taken to address
  | .password_modify _ new_pass, _, w' =>
    w' = w ∨ ∃ id, w' = { w with directory := w.directory.setPassword id new_pass }
  | .find_by_token_hash token_hash, reply, w' => w' = w ∧
      (reply = none ∨ reply = some (find_by_token_hash w.store token_hash))
  | .consume_invite token_hash consumed_at consumed_by, reply, w' => ∃ store, w' = { w with store := store } ∧
      Atomic InviteStorage.Call.code w.store
        (.consume_invite token_hash consumed_at consumed_by, Option.map InviteStorage.Reply.flag reply) store
  | _, _, w' => w' = w

theorem passive_world {c : Lldap.Call} (passive : Passive c = true) {i : ι} {w w' : World ι} {reply : Reply c} :
    Perform i w c reply w' ↔ w' = w := by
  cases c with
  | post_graphql url token operation =>
    cases operation with
    | CreateUser user => cases passive
    | DeleteUser id => cases passive
    | AddUserToGroup user group => cases passive
    | GetGroupList => exact Iff.rfl
    | LookupUsers field value => exact Iff.rfl
  | password_modify user_id new_pass => cases passive
  | find_by_token_hash token_hash => cases passive
  | consume_invite token_hash consumed_at consumed_by => cases passive
  | _ => exact Iff.rfl

/-- What a call can have done to the world. -/
inductive Performed (i : ι) (w : World ι) : (c : Lldap.Call) → Reply c → World ι → Prop
  | nothing {c : Lldap.Call} {reply : Reply c} (unconsumed : consumes c reply = false)
      (uncreated : ∀ id, creates c reply ≠ some (id, true)) : Performed i w c reply w
  | created {url token : String} {user : CreateUserInput} {reply : Reply (.post_graphql url token (.CreateUser user))}
      (absent : w.directory.account user.id = none) : Performed i w (.post_graphql url token (.CreateUser user)) reply
        { w with directory := w.directory.insert (.created user (.request i (reported reply))) }
  | deleted {url token id : String} {reply : Reply (.post_graphql url token (.DeleteUser id))} :
      Performed i w (.post_graphql url token (.DeleteUser id)) reply { w with directory := w.directory.erase id }
  | joined {url token user : String} {group : Int}
      {reply : Reply (.post_graphql url token (.AddUserToGroup user group))} :
      Performed i w (.post_graphql url token (.AddUserToGroup user group)) reply
        { w with directory := w.directory.join user group }
  | passwordSet {user_id new_pass : String} {reply : Reply (.password_modify user_id new_pass)} (id : String) :
      Performed i w (.password_modify user_id new_pass) reply
        { w with directory := w.directory.setPassword id new_pass }
  | consumed {token_hash consumed_at consumed_by : String}
      {reply : Reply (.consume_invite token_hash consumed_at consumed_by)} {store : Database}
      (step : Atomic InviteStorage.Call.code w.store
        (.consume_invite token_hash consumed_at consumed_by, Option.map InviteStorage.Reply.flag reply) store) :
      Performed i w (.consume_invite token_hash consumed_at consumed_by) reply { w with store := store }

theorem perform_cases {i : ι} {w w' : World ι} {c : Lldap.Call} {reply : Reply c} (performed : Perform i w c reply w') :
    Performed i w c reply w' := by
  revert performed reply
  induction c using call_cases with
  | passive c passive =>
    intro reply performed
    obtain ⟨_, uncreated, unconsumed⟩ := passive_silent passive reply
    rw [(passive_world passive).mp performed]
    exact .nothing unconsumed fun id => by simp [uncreated]
  | create url token user =>
    rintro reply (⟨failed, rfl⟩ | ⟨absent, rfl⟩)
    · exact .nothing rfl fun id => by simp [creates, failed]
    · exact .created absent
  | delete url token id =>
    rintro reply (rfl | rfl)
    · exact .nothing rfl fun _ => by simp [creates]
    · exact .deleted
  | join url token user group =>
    rintro reply (rfl | rfl)
    · exact .nothing rfl fun _ => by simp [creates]
    · exact .joined
  | password user_id new_pass =>
    rintro reply (rfl | ⟨id, rfl⟩)
    · exact .nothing rfl fun _ => by simp [creates]
    · exact .passwordSet id
  | find token_hash =>
    rintro reply ⟨rfl, _⟩
    exact .nothing rfl fun _ => by simp [creates]
  | consume token_hash consumed_at consumed_by =>
    rintro reply ⟨store, rfl, step⟩
    exact .consumed step

/-- The account of the id, if there is one, is still the same party's. -/
def Kept (directory directory' : Directory ι) (id : String) : Prop :=
  ∀ account, directory.account id = some account →
    ∃ account', directory'.account id = some account' ∧ account'.origin = account.origin

/-- What else may happen: repository calls of the other routes and of the
    cleanup, among those that may come, and any change of the directory that
    deletes no account. -/
inductive Outside (may : InviteStorage.Call → Prop) (w : World ι) : World ι → Prop
  | repository {call : InviteStorage.Call} {result : Option InviteStorage.Reply} {store : Database} (comes : may call)
      (step : Atomic InviteStorage.Call.code w.store (call, result) store) : Outside may w { w with store := store }
  | directory {directory : Directory ι} (kept : ∀ id, Kept w.directory directory id)
      (inserted : ∀ id account, w.directory.account id = none → directory.account id = some account →
        account.origin = .outside) : Outside may w { w with directory := directory }

/-! ### What one step does to the accounts -/

variable {may : InviteStorage.Call → Prop} {w w' : World ι}

theorem outside_mono {may' : InviteStorage.Call → Prop} (weaker : ∀ call, may call → may' call)
    (changed : Outside may w w') : Outside may' w w' := by
  cases changed with
  | repository comes step => exact .repository (weaker _ comes) step
  | directory kept inserted => exact .directory kept inserted

theorem outside_kept (changed : Outside may w w') (id : String) : Kept w.directory w'.directory id := by
  cases changed with
  | repository comes step => exact fun account present => ⟨account, present, rfl⟩
  | directory kept _ => exact kept id

theorem kept_modify (directory : Directory ι) (id : String) (change : Account ι → Account ι)
    (keepsId : ∀ account, (change account).id = account.id)
    (keeps : ∀ account, (change account).origin = account.origin) (id' : String) :
    Kept directory (directory.modify id change keepsId) id' := by
  intro account present
  rw [account_modify]
  by_cases same : id' = id
  · exact ⟨change account, by rw [if_pos same, present]; rfl, keeps account⟩
  · exact ⟨account, by rw [if_neg same, present], rfl⟩

theorem modified_from (directory : Directory ι) (id : String) (change : Account ι → Account ι)
    (keepsId : ∀ account, (change account).id = account.id)
    (keeps : ∀ account, (change account).origin = account.origin) {id' : String} {account' : Account ι}
    (present' : (directory.modify id change keepsId).account id' = some account') :
    ∃ account, directory.account id' = some account ∧ account.origin = account'.origin := by
  rw [account_modify] at present'
  by_cases same : id' = id
  · rw [if_pos same, Option.map_eq_some_iff] at present'
    obtain ⟨account, present, rfl⟩ := present'
    exact ⟨account, present, (keeps account).symm⟩
  · rw [if_neg same] at present'
    exact ⟨account', present', rfl⟩

/-- No call but a deletion removes an account, and a deletion removes no other. -/
theorem perform_kept {i : ι} {w w' : World ι} {c : Lldap.Call} {reply : Reply c} (performed : Perform i w c reply w')
    (id : String) :
    Kept w.directory w'.directory id ∨
      ((∃ url token, c = .post_graphql url token (.DeleteUser id)) ∧ w'.directory.account id = none) := by
  have refl : Kept w.directory w.directory id := fun account present => ⟨account, present, rfl⟩
  cases perform_cases performed with
  | nothing => exact .inl refl
  | @created _ _ user _ absent =>
    left
    intro account present
    have other : id ≠ user.id := by
      rintro rfl
      rw [absent] at present
      cases present
    exact ⟨account, by rw [← present]; exact account_insert_ne other, rfl⟩
  | @deleted url token id' =>
    by_cases same : id = id'
    · subst same
      exact .inr ⟨⟨url, token, rfl⟩, account_erase_self ..⟩
    · exact .inl fun account present => ⟨account, by rw [← present]; exact account_erase_ne same, rfl⟩
  | @joined _ _ user group =>
    exact .inl (kept_modify w.directory user (Account.join group) (fun _ => rfl) (fun _ => rfl) id)
  | @passwordSet _ new_pass _ id' =>
    exact .inl (kept_modify w.directory id' (Account.setPassword new_pass) (fun _ => rfl) (fun _ => rfl) id)
  | consumed => exact .inl refl

/-- A reported creation has inserted the account, which was absent. -/
theorem perform_creates {i : ι} {w w' : World ι} {c : Lldap.Call} {reply : Reply c} (performed : Perform i w c reply w')
    {id : String} (created : creates c reply = some (id, true)) :
    w.directory.account id = none ∧
      ∃ account, w'.directory.account id = some account ∧ account.origin = .request i true := by
  cases perform_cases performed with
  | nothing _ uncreated => exact absurd created (uncreated id)
  | created absent =>
    obtain ⟨rfl, success⟩ := Prod.mk.inj (Option.some.inj created)
    exact ⟨absent, _, account_insert_self absent, congrArg (Origin.request i) success⟩
  | _ => cases created

/-- Every account after a call was there before, or was created by it. -/
theorem perform_inserted {i : ι} {w w' : World ι} {c : Lldap.Call} {reply : Reply c} (performed : Perform i w c reply w')
    {id : String} {account' : Account ι} (present' : w'.directory.account id = some account') :
    (∃ account, w.directory.account id = some account ∧ account.origin = account'.origin) ∨
      (w.directory.account id = none ∧ ∃ flag, creates c reply = some (id, flag) ∧ account'.origin = .request i flag) := by
  cases perform_cases performed with
  | nothing => exact .inl ⟨account', present', rfl⟩
  | @created _ _ user reply absent =>
    by_cases same : id = user.id
    · subst same
      have inserted : (w.directory.insert (.created user (.request i (reported reply)))).account user.id = _ :=
        account_insert_self absent
      rw [show _ = some account' from present'] at inserted
      cases inserted
      exact .inr ⟨absent, reported reply, rfl, rfl⟩
    · have other : (w.directory.insert (.created user (.request i (reported reply)))).account id = _ :=
        account_insert_ne same
      exact .inl ⟨account', by rw [← other]; exact present', rfl⟩
  | @deleted _ _ id' =>
    by_cases same : id = id'
    · subst same
      rw [account_erase_self] at present'
      cases present'
    · rw [account_erase_ne same] at present'
      exact .inl ⟨account', present', rfl⟩
  | @joined _ _ user group =>
    exact .inl (modified_from w.directory user (Account.join group) (fun _ => rfl) (fun _ => rfl) present')
  | @passwordSet _ new_pass _ id' =>
    exact .inl (modified_from w.directory id' (Account.setPassword new_pass) (fun _ => rfl) (fun _ => rfl) present')
  | consumed => exact .inl ⟨account', present', rfl⟩

/-- The store changes by consumptions only. -/
theorem perform_store {i : ι} {w w' : World ι} {c : Lldap.Call} {reply : Reply c} (performed : Perform i w c reply w') :
    (w'.store = w.store ∧ consumes c reply = false) ∨
      ∃ token_hash consumed_at consumed_by result, c = .consume_invite token_hash consumed_at consumed_by ∧
        Atomic InviteStorage.Call.code w.store (.consume_invite token_hash consumed_at consumed_by, result) w'.store ∧
        (consumes c reply = true ↔ result = some (.flag true)) := by
  cases perform_cases performed with
  | nothing unconsumed => exact .inl ⟨rfl, unconsumed⟩
  | @consumed token_hash consumed_at consumed_by reply _ step =>
    refine .inr ⟨token_hash, consumed_at, consumed_by, _, rfl, step, ?_⟩
    cases reply with
    | none => simp [consumes]
    | some consumed => simp [consumes]
  | _ => exact .inl ⟨rfl, rfl⟩

/-- A repository call that returns an error did not commit. -/
def Committed : (c : Lldap.Call) → Reply c → World ι → World ι → Prop
  | .consume_invite _ _ _, reply, w, w' => reply = none → w' = w
  | _, _, _, _ => True

/-- Then the store changes by consumptions that say so only. -/
theorem perform_committed {i : ι} {w w' : World ι} {c : Lldap.Call} {reply : Reply c} (performed : Perform i w c reply w')
    (committed : Committed c reply w w') :
    (w'.store = w.store ∧ consumes c reply = false) ∨
      ∃ token_hash consumed_at consumed_by, c = .consume_invite token_hash consumed_at consumed_by ∧
        consumes c reply = true ∧
        Changed w.store (.consume_invite token_hash consumed_at consumed_by) (.flag true) w'.store := by
  rcases perform_store performed with same | ⟨token_hash, consumed_at, consumed_by, _, rfl, _, _⟩
  · exact .inl same
  · obtain ⟨store, rfl, step⟩ := performed
    cases reply with
    | none =>
      have same : w.store = store := congrArg World.store (committed rfl).symm
      exact .inl ⟨same.symm, rfl⟩
    | some consumed =>
      rcases atomic_cases step with ⟨same, answer | answer⟩ | ⟨reply', changed, answer | answer⟩
      · cases answer
      · cases answer
        exact .inl ⟨same, rfl⟩
      · cases answer
      · cases answer
        cases changed with
        | consumed stored selected rows events =>
          exact .inr ⟨_, _, _, rfl, rfl, .consumed stored selected rows events⟩

/-- What a request finds is stored under the hash it asked for. -/
theorem perform_finds {i : ι} {w w' : World ι} {c : Lldap.Call} {reply : Reply c} (performed : Perform i w c reply w')
    {invite : InviteRecord} (found : finds c reply = some invite) :
    w' = w ∧ invite ∈ w.store.invites ∧ c = .find_by_token_hash invite.token_hash := by
  cases c with
  | find_by_token_hash token_hash =>
    obtain ⟨same, failed | answered⟩ := performed
    · rw [failed] at found
      cases found
    · rw [answered] at found
      obtain ⟨stored, hash⟩ := find_by_token_hash_eq_some.mp found
      exact ⟨same, stored, by rw [hash]⟩
  | _ => cases found

/-! ### Ownership -/

variable {crates : Crates} {config : SubmitConfig} {submission : Submission}

variable {submissions : ι → Submission} {P : ι → Progress}

/-- Every request that holds an account has it in the directory, as its own. -/
def Owned (submissions : ι → Submission) (P : ι → Progress) (w : World ι) : Prop :=
  ∀ i, (P i).stage.holds = true →
    ∃ account, w.directory.account (submissions i).form.username = some account ∧ account.origin = .request i true

/-- No two requests hold an account of one username. -/
theorem Owned.unique (owned : Owned submissions P w) {i j : ι} (holds : (P i).stage.holds = true)
    (holds' : (P j).stage.holds = true)
    (same : (submissions i).form.username = (submissions j).form.username) : i = j := by
  obtain ⟨account, present, origin⟩ := owned i holds
  obtain ⟨account', present', origin'⟩ := owned j holds'
  rw [same, present'] at present
  cases present
  rw [origin'] at origin
  exact (Origin.request.inj origin).1.symm

/-- A deletion is aimed at an account that its own request created. -/
theorem Owned.delete (owned : Owned submissions P w) {i : ι} {url token id : String}
    (allowed : Allowed crates config (submissions i) (P i) (.post_graphql url token (.DeleteUser id))) :
    id = (submissions i).form.username ∧ (P i).stage.holds = true ∧
      ∃ account, w.directory.account id = some account ∧ account.origin = .request i true := by
  obtain ⟨owns, rfl⟩ := allowed
  have holds : (P i).stage.holds = true := by simp [Stage.holds, owns]
  exact ⟨rfl, holds, owned i holds⟩

theorem owned_outside (owned : Owned submissions P w) (changed : Outside may w w') : Owned submissions P w' := by
  intro i holds
  obtain ⟨account, present, origin⟩ := owned i holds
  obtain ⟨account', present', origin'⟩ := outside_kept changed _ account present
  exact ⟨account', present', origin'.trans origin⟩

variable [DecidableEq ι]

theorem owned_call (owned : Owned submissions P w) {i : ι} {c : Lldap.Call} {reply : Reply c}
    (allowed : Allowed crates config (submissions i) (P i) c) (performed : Perform i w c reply w') :
    Owned submissions (Function.update P i ((P i).after c reply)) w' := by
  intro j holds
  by_cases same : j = i
  · subst same
    rw [Function.update_self, after_holds allowed] at holds
    rcases holds with ⟨held, keeps⟩ | created
    · obtain ⟨account, present, origin⟩ := owned j held
      rcases perform_kept performed (submissions j).form.username with kept | ⟨⟨url, token, rfl⟩, _⟩
      · obtain ⟨account', present', origin'⟩ := kept account present
        exact ⟨account', present', origin'.trans origin⟩
      · cases keeps
    · exact (perform_creates performed created).2
  · rw [Function.update_of_ne same] at holds
    obtain ⟨account, present, origin⟩ := owned j holds
    rcases perform_kept performed (submissions j).form.username with kept | ⟨⟨url, token, rfl⟩, _⟩
    · obtain ⟨account', present', origin'⟩ := kept account present
      exact ⟨account', present', origin'.trans origin⟩
    · obtain ⟨aimed, holds', _⟩ := owned.delete allowed
      exact absurd (owned.unique holds holds' aimed) same

/-- The redemptions of a family of requests, under the weakest assumptions. -/
abbrev Redemptions (crates : Crates) (config : SubmitConfig) (submissions : ι → Submission) :=
  Step (fun i => submit_invite crates config (submissions i)) Perform (fun s => Outside (fun _ => True) s.world)

end
end InviteSystem.RedemptionSystem
