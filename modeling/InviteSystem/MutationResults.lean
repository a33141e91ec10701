import InviteSystem.AllOrNothing

/-!
The `ok` flags of the mutations. The client reads a refused mutation like a
granted one: a membership or a deletion answered with `false` passes for done.
-/
namespace InviteSystem.MutationResults
open InviteSystem.Programs InviteSystem.Lldap InviteSystem.Effects InviteSystem.DirectoryServer InviteSystem.Passages
open InviteSystem.AllOrNothing

def isJoin : Lldap.Call → Bool
  | .post_graphql _ _ (.AddUserToGroup _ _) => true
  | _ => false

/-- The `ok` flag that a membership or a deletion was answered with, if it was. -/
def okFlag : (c : Lldap.Call) → Reply c → Option Bool
  | .post_graphql _ _ (.AddUserToGroup _ _), reply => (GraphqlReply.result reply).toOption
  | .post_graphql _ _ (.DeleteUser _), reply => (GraphqlReply.result reply).toOption
  | _, _ => none

/-- The user was granted the membership. -/
def Granted (username : String) (group : Int) (calls : List Made) : Prop :=
  ∃ url token, ∃ reply : GraphqlReply Bool,
    (⟨.post_graphql url token (.AddUserToGroup username group), reply⟩ : Made) ∈ calls ∧
      GraphqlReply.result reply = .ok true

/-- A membership that was not granted, by an error or by its flag, is followed by
    the deletion of the account and an error. -/
def Compensates (username : String) (calls : List Made) (result : Except LldapError Unit) : Prop :=
  ∀ before call after, calls = before ++ call :: after → isJoin call.1 = true → okFlag call.1 call.2 ≠ some true →
    result.isOk = false ∧ ∃ url token reply,
      after = [(⟨.post_graphql url token (.DeleteUser username), reply⟩ : Made)]

/-- `provision_user` honours the flags. -/
structure Honoured (username : String) (groups : List String) (calls : List Made) (result : Except LldapError Unit) :
    Prop where
  granted : result = .ok () → ∃ records, Listed records calls ∧
    ∀ name ∈ groups, ∃ group, records.find? (fun group => group.display_name = name) = some group ∧
      Granted username group.id calls
  compensates : Compensates username calls result
  deleted : ∀ call ∈ calls, isDelete call.1 = true → okFlag call.1 call.2 ≠ some true → result.isOk = false

/-- `delete_user_account` honours the flag. -/
structure DeletionHonoured (username : String) (calls : List Made) (result : Except LldapError Unit) : Prop where
  deleted : result = .ok () → ∃ url token, ∃ reply : GraphqlReply Bool,
    (⟨.post_graphql url token (.DeleteUser username), reply⟩ : Made) ∈ calls ∧ GraphqlReply.result reply = .ok true
  refused : ∀ call ∈ calls, isDelete call.1 = true → okFlag call.1 call.2 ≠ some true → result.isOk = false

theorem okFlag_join {url token user : String} {group : Int} {reply : GraphqlReply Bool} {ok : Bool} :
    okFlag (.post_graphql url token (.AddUserToGroup user group)) reply = some ok ↔ GraphqlReply.result reply = .ok ok :=
  toOption_iff

theorem okFlag_deletion {url token user : String} {reply : GraphqlReply Bool} {ok : Bool} :
    okFlag (.post_graphql url token (.DeleteUser user)) reply = some ok ↔ GraphqlReply.result reply = .ok ok :=
  toOption_iff

/-- Of two calls, of which the second is no membership, the first is the one that is. -/
theorem first_of_pair {first second call : Made} {before after : List Made}
    (parts : [first, second] = before ++ call :: after) (join : isJoin call.1 = true) (other : isJoin second.1 = false) :
    before = [] ∧ call = first ∧ after = [second] := by
  match before, parts with
  | [], parts =>
    obtain ⟨rfl, rfl⟩ := List.cons.inj parts
    exact ⟨rfl, rfl, rfl⟩
  | [_], parts =>
    obtain ⟨_, parts⟩ := List.cons.inj parts
    obtain ⟨rfl, _⟩ := List.cons.inj parts
    rw [join] at other
    cases other
  | _ :: _ :: before, parts =>
    obtain ⟨_, parts⟩ := List.cons.inj parts
    obtain ⟨_, parts⟩ := List.cons.inj parts
    cases before <;> cases parts

/-! ### The loop over the groups -/

section
variable {config : LldapConfig} {token username : String} {records : List GroupRecord}

section
variable {names : List String} {calls : List Made} {result : Except LldapError Unit}

/-- The loop starts with no deletion. -/
theorem loop_not_deletion (memberships : Memberships username records names calls result) (url token : String)
    (reply : Reply (.post_graphql url token (.DeleteUser username))) :
    calls ≠ [⟨.post_graphql url token (.DeleteUser username), reply⟩] := by
  cases memberships <;> rintro ⟨⟩

/-- What follows a membership: after an error the deletion, and after either
    flag the rest of the loop. -/
theorem after_join (memberships : Memberships username records names calls result) {before after : List Made}
    {call : Made} (parts : calls = before ++ call :: after) (join : isJoin call.1 = true) :
    (okFlag call.1 call.2 = none ∧ result.isOk = false ∧ ∃ url token reply,
        after = [(⟨.post_graphql url token (.DeleteUser username), reply⟩ : Made)]) ∨
      ∃ flag names', okFlag call.1 call.2 = some flag ∧ Memberships username records names' after result := by
  induction memberships generalizing before with
  | done => cases before <;> cases parts
  | unknown => cases before <;> cases parts
  | failed outcome =>
    obtain ⟨rfl, rfl, rfl⟩ := first_of_pair parts join rfl
    exact .inl ⟨congrArg Except.toOption outcome, rfl, _, _, _, rfl⟩
  | answered found outcome rest ih =>
    cases before with
    | nil =>
      obtain ⟨rfl, rfl⟩ := List.cons.inj parts
      exact .inr ⟨_, _, okFlag_join.mpr outcome, rest⟩
    | cons first before =>
      obtain ⟨_, parts⟩ := List.cons.inj parts
      exact ih parts

/-- Where a membership was refused by its flag, no deletion follows at once. -/
theorem refused_goes_on (memberships : Memberships username records names calls result)
    {before after : List Made} {call : Made} (parts : calls = before ++ call :: after) (join : isJoin call.1 = true)
    (refused : okFlag call.1 call.2 = some false) (url token : String)
    (reply : Reply (.post_graphql url token (.DeleteUser username))) :
    after ≠ [⟨.post_graphql url token (.DeleteUser username), reply⟩] := by
  rcases after_join memberships parts join with ⟨unanswered, _⟩ | ⟨_, _, _, rest⟩
  · rw [refused] at unanswered
    cases unanswered
  · exact loop_not_deletion rest url token reply

/-- Where no membership was refused by its flag, one that failed is followed by
    the deletion. -/
theorem loop_compensates (memberships : Memberships username records names calls result)
    (unrefused : ∀ call ∈ calls, isJoin call.1 = true → okFlag call.1 call.2 ≠ some false) :
    Compensates username calls result := by
  intro before call after parts join ungranted
  rcases after_join memberships parts join with ⟨_, undone⟩ | ⟨flag, _, answered, _⟩
  · exact undone
  · have accepted := unrefused call (by rw [parts]; simp) join
    cases flag with
    | false => exact absurd answered accepted
    | true => exact absurd answered ungranted

/-- A loop that ends well has joined every group, by the flags if none refuses. -/
theorem loop_granted (memberships : Memberships username records names calls (.ok ()))
    (unrefused : ∀ call ∈ calls, isJoin call.1 = true → okFlag call.1 call.2 ≠ some false) :
    ∀ name ∈ names, ∃ group, records.find? (fun group => group.display_name = name) = some group ∧
      Granted username group.id calls := by
  generalize ended : (.ok () : Except LldapError Unit) = result at memberships
  induction memberships with
  | done => simp
  | unknown => cases ended
  | failed outcome => cases ended
  | @answered name names url token group flag reply later result found outcome rest ih =>
    have first := unrefused _ List.mem_cons_self rfl
    rw [Ne, okFlag_join, outcome] at first
    obtain rfl : flag = true := by
      cases flag with
      | false => exact absurd rfl first
      | true => rfl
    refine List.forall_mem_cons.mpr ⟨⟨group, found, url, token, reply, List.mem_cons_self, outcome⟩, ?_⟩
    intro name' member
    obtain ⟨group', found', url', token', reply', made, granted⟩ :=
      ih (fun call member => unrefused call (List.mem_cons_of_mem _ member)) ended name' member
    exact ⟨group', found', url', token', reply', List.mem_cons_of_mem _ made, granted⟩

theorem loop_deletion_fails (memberships : Memberships username records names calls result) {call : Made}
    (member : call ∈ calls) (deletion : isDelete call.1 = true) : result.isOk = false := by
  induction memberships with
  | done => cases member
  | unknown => rfl
  | failed outcome => rfl
  | answered found outcome rest ih =>
    rcases List.mem_cons.mp member with rfl | later
    · cases deletion
    · exact ih later

end

/-! ### Provisioning -/

/-- Neither a membership nor a deletion. -/
def Plain (c : Lldap.Call) : Prop := isJoin c = false ∧ isDelete c = false

variable (username) in
/-- How `provision_user` ends: before the loop over the groups, or by it. -/
inductive Provisioned (groups : List String) : List Made → Except LldapError Unit → Prop
  | failed {calls : List Made} {error : LldapError} (plain : ∀ call ∈ calls, Plain call.1) :
      Provisioned groups calls (.error error)
  | undone (before : List Made) {url token : String} {error : LldapError}
      {reply : Reply (.post_graphql url token (.DeleteUser username))} (plain : ∀ call ∈ before, Plain call.1) :
      Provisioned groups (before ++ [⟨.post_graphql url token (.DeleteUser username), reply⟩]) (.error error)
  | listed {before after : List Made} {records : List GroupRecord} {result : Except LldapError Unit}
      (plain : ∀ call ∈ before, Plain call.1) (listed : Listed records before)
      (memberships : Memberships username records groups after result) : Provisioned groups (before ++ after) result

section
variable {groups : List String} {calls : List Made} {result : Except LldapError Unit}

theorem Provisioned.cons {call : Made} (plain : Plain call.1) (provisioned : Provisioned username groups calls result) :
    Provisioned username groups (call :: calls) result := by
  cases provisioned with
  | failed others => exact .failed (List.forall_mem_cons.mpr ⟨plain, others⟩)
  | undone before others => exact .undone (call :: before) (List.forall_mem_cons.mpr ⟨plain, others⟩)
  | @listed before after records _ others listed memberships =>
    obtain ⟨listing, member, found⟩ := listed
    show Provisioned username groups ((call :: before) ++ after) result
    exact .listed (List.forall_mem_cons.mpr ⟨plain, others⟩) ⟨listing, List.mem_cons_of_mem _ member, found⟩ memberships

theorem provisioned_of_equip {password : String}
    (reached : Reaches (equip config token username password groups) calls (.ret (.returned result))) :
    Provisioned username groups calls result := by
  obtain ⟨setting, later, set, rfl, done, after⟩ := reaches_bind_ret reached
  have conversation : Conversation Plain config username password :=
    ⟨fun _ _ => ⟨rfl, rfl⟩, fun _ => ⟨rfl, rfl⟩, fun _ _ => ⟨rfl, rfl⟩, ⟨rfl, rfl⟩, ⟨rfl, rfl⟩⟩
  have plain := (only_reaches done (only_set_password conversation)).1
  rcases set with (error | done) | _
  · obtain ⟨_, same, ended⟩ := reaches_returns after
    cases same
    obtain ⟨rfl, reply, rfl⟩ := deletion_calls ended
    exact .undone setting plain
  · obtain ⟨_, same, joining⟩ := reaches_returns after
    cases same
    obtain ⟨listing, rest, listed, rfl, asked, after⟩ := reaches_bind_ret joining
    obtain ⟨reply, rfl, outcome⟩ := graphql_calls asked
    have early : ∀ call ∈ setting ++ [⟨.post_graphql (endpoint config "/api/graphql") token .GetGroupList, reply⟩],
        Plain call.1 := List.forall_mem_append.mpr ⟨plain, List.forall_mem_singleton.mpr ⟨rfl, rfl⟩⟩
    rw [← List.append_assoc]
    cases listed with
    | error error =>
      obtain ⟨rfl, reply', rfl⟩ := deletion_calls after
      exact .undone _ early
    | ok records =>
      exact .listed early ⟨_, List.mem_append_right _ (List.mem_singleton_self _), lists_iff.mpr outcome.symm⟩
        (memberships_of_calls groups after)
  · obtain ⟨_, same⟩ := reaches_ret.mp after
    cases same

theorem provisioned_of_calls {email first_name last_name password : String}
    (reached : Reaches (provision_user config username email first_name last_name password groups) calls
      (.ret (.returned result))) :
    Provisioned username groups calls result := by
  rcases reaches_tries_ret reached with ⟨error, failed, same⟩ | ⟨login, rest, token, rfl, logged, creation⟩
  · obtain ⟨reply, rfl, _⟩ := login_calls failed
    cases same
    exact .failed (List.forall_mem_singleton.mpr ⟨rfl, rfl⟩)
  · obtain ⟨reply, rfl, _⟩ := login_calls logged
    refine .cons ⟨rfl, rfl⟩ ?_
    rcases reaches_tries_ret creation with ⟨error, failed, same⟩ | ⟨creating, rest, _, rfl, created, equipped⟩
    · obtain ⟨reply', rfl, _⟩ := mutation_calls failed
      cases same
      exact .failed (List.forall_mem_singleton.mpr ⟨rfl, rfl⟩)
    · obtain ⟨reply', rfl, _⟩ := mutation_calls created
      exact .cons ⟨rfl, rfl⟩ (provisioned_of_equip equipped)

/-- A membership of the whole trace is one of the loop. -/
theorem split_plain {first second before after : List Made} {call : Made} (plain : ∀ call ∈ first, Plain call.1)
    (parts : first ++ second = before ++ call :: after) (join : isJoin call.1 = true) :
    ∃ between, second = between ++ call :: after := by
  rcases List.append_eq_append_iff.mp parts with ⟨between, _, rest⟩ | ⟨between, rfl, rest⟩
  · exact ⟨between, rest⟩
  · cases between with
    | nil => exact ⟨[], rest.symm⟩
    | cons head between =>
      obtain ⟨rfl, _⟩ := List.cons.inj rest
      have none := (plain call (List.mem_append_right _ List.mem_cons_self)).1
      rw [join] at none
      cases none

/-- No membership, and nothing to compensate. -/
theorem compensates_without_join (without : ∀ call ∈ calls, isJoin call.1 = false) : Compensates username calls result := by
  rintro before call after rfl join
  have none := without call (List.mem_append_right _ List.mem_cons_self)
  rw [join] at none
  cases none

theorem Provisioned.deletion_fails (provisioned : Provisioned username groups calls result) {call : Made}
    (member : call ∈ calls) (deletion : isDelete call.1 = true) : result.isOk = false := by
  cases provisioned with
  | failed plain => rfl
  | undone before plain => rfl
  | listed plain listed memberships =>
    rcases List.mem_append.mp member with early | late
    · have none := (plain call early).2
      rw [deletion] at none
      cases none
    · exact loop_deletion_fails memberships late deletion

theorem Provisioned.honoured_iff (provisioned : Provisioned username groups calls result) :
    Honoured username groups calls result ↔
      ∀ call ∈ calls, isJoin call.1 = true → okFlag call.1 call.2 ≠ some false := by
  constructor
  · intro honoured call member join refused
    obtain ⟨before, after, parts⟩ := List.append_of_mem member
    obtain ⟨_, url, token, reply, last⟩ := honoured.compensates before call after parts join (by rw [refused]; simp)
    cases provisioned with
    | failed plain =>
      have none := (plain call member).1
      rw [join] at none
      cases none
    | undone before' plain =>
      obtain ⟨between, only⟩ := split_plain plain parts join
      rcases List.append_eq_singleton_iff.mp only.symm with ⟨_, same⟩ | ⟨_, same⟩
      · obtain ⟨rfl, _⟩ := List.cons.inj same
        cases join
      · cases same
    | listed plain listed memberships =>
      obtain ⟨between, loop⟩ := split_plain plain parts join
      exact refused_goes_on memberships loop join refused url token reply last
  · intro unrefused
    have deleted : ∀ call ∈ calls, isDelete call.1 = true → okFlag call.1 call.2 ≠ some true → result.isOk = false :=
      fun call member deletion _ => provisioned.deletion_fails member deletion
    cases provisioned with
    | failed plain => exact ⟨nofun, compensates_without_join fun call member => (plain call member).1, deleted⟩
    | undone before plain =>
      refine ⟨nofun, compensates_without_join ?_, deleted⟩
      exact List.forall_mem_append.mpr ⟨fun call member => (plain call member).1, List.forall_mem_singleton.mpr rfl⟩
    | @listed before after records _ plain listed memberships =>
      have later : ∀ call ∈ after, isJoin call.1 = true → okFlag call.1 call.2 ≠ some false :=
        fun call member => unrefused call (List.mem_append_right _ member)
      refine ⟨?_, ?_, deleted⟩
      · rintro rfl
        obtain ⟨listing, member, found⟩ := listed
        refine ⟨records, ⟨listing, List.mem_append_left _ member, found⟩, fun name within => ?_⟩
        obtain ⟨group, named, url, token, reply, made, granted⟩ := loop_granted memberships later name within
        exact ⟨group, named, url, token, reply, List.mem_append_right _ made, granted⟩
      · intro before' call after' parts join ungranted
        obtain ⟨between, loop⟩ := split_plain plain parts join
        exact loop_compensates memberships later between call after' loop join ungranted

end

/-! ### The deletion of an account -/

/-- A login and one deletion: what is asked of the deletions is asked of that one. -/
theorem forall_deletion {P : Made → Prop} {login : Made} {url token : String}
    {reply : Reply (.post_graphql url token (.DeleteUser username))} (other : isDelete login.1 = false) :
    (∀ call ∈ [login] ++ [⟨.post_graphql url token (.DeleteUser username), reply⟩], isDelete call.1 = true → P call) ↔
      P ⟨.post_graphql url token (.DeleteUser username), reply⟩ := by
  constructor
  · intro all
    exact all _ (List.mem_append_right _ (List.mem_singleton_self _)) rfl
  · intro last
    refine List.forall_mem_append.mpr ⟨List.forall_mem_singleton.mpr ?_, List.forall_mem_singleton.mpr fun _ => last⟩
    intro deletion
    rw [other] at deletion
    cases deletion

theorem deletion_honoured_iff {calls : List Made} {result : Except LldapError Unit}
    (reached : Reaches (delete_user_account config username) calls (.ret result)) :
    DeletionHonoured username calls result ↔
      ∀ call ∈ calls, isDelete call.1 = true → okFlag call.1 call.2 ≠ some false := by
  rcases reaches_andThen_ret reached with ⟨error, failed, rfl⟩ | ⟨login, rest, token, rfl, logged, deletion⟩
  · obtain ⟨reply, rfl, _⟩ := login_calls failed
    exact ⟨fun _ => List.forall_mem_singleton.mpr nofun, fun _ => ⟨nofun, fun _ _ _ _ => rfl⟩⟩
  · obtain ⟨login_reply, rfl, _⟩ := login_calls logged
    obtain ⟨reply, rfl, outcome⟩ : ∃ reply : GraphqlReply Bool,
        rest = [⟨.post_graphql (endpoint config "/api/graphql") token (.DeleteUser username), reply⟩] ∧
          result = (GraphqlReply.result reply).map (fun _ => ()) := mutation_result deletion
    constructor
    · rintro ⟨_, refused⟩
      refine (forall_deletion rfl).mpr fun declined => ?_
      have answered : GraphqlReply.result reply = .ok false := okFlag_deletion.mp declined
      have ended : result.isOk = false := (forall_deletion rfl).mp refused fun accepted => by
        rw [declined] at accepted
        cases accepted
      rw [outcome, answered] at ended
      cases ended
    · intro unrefused
      have accepted : GraphqlReply.result reply ≠ .ok false :=
        fun answered => (forall_deletion rfl).mp unrefused (okFlag_deletion.mpr answered)
      cases answered : GraphqlReply.result reply with
      | error error =>
        rw [answered] at outcome
        subst outcome
        exact ⟨nofun, fun _ _ _ _ => rfl⟩
      | ok flag =>
        cases flag with
        | false => exact absurd answered accepted
        | true =>
          refine ⟨fun _ => ⟨_, _, reply, List.mem_append_right _ (List.mem_singleton_self _), answered⟩, ?_⟩
          exact (forall_deletion rfl).mpr fun ungranted => absurd (okFlag_deletion.mpr answered) ungranted

end

/-- `provision_user` honours the flags where no membership is refused by its
    flag, `delete_user_account` where no deletion is. -/
theorem mutation_results_iff (config : LldapConfig) (username email first_name last_name password : String)
    (groups : List String) (calls : List Made) (result : Except LldapError Unit) :
    (Reaches (provision_user config username email first_name last_name password groups) calls (.ret (.returned result)) →
      (Honoured username groups calls result ↔
        ∀ call ∈ calls, isJoin call.1 = true → okFlag call.1 call.2 ≠ some false)) ∧
    (Reaches (delete_user_account config username) calls (.ret result) →
      (DeletionHonoured username calls result ↔
        ∀ call ∈ calls, isDelete call.1 = true → okFlag call.1 call.2 ≠ some false)) :=
  ⟨fun reached => (provisioned_of_calls reached).honoured_iff, deletion_honoured_iff⟩

/-! ### Two refusals -/

/-- The password is set, and the membership in the one group is refused by its flag. -/
def declined : List Made :=
  begun ++ [⟨.ldap_connect "ldap://lldap:3890" false, .ok ()⟩,
    ⟨.simple_bind "cn=admin,ou=people,dc=example,dc=com" "secret", .ok ()⟩,
    ⟨.password_modify "uid=bob,ou=people,dc=example,dc=com" "Str0ng-Passw0rd", .ok ()⟩, ⟨.unbind, .ok ()⟩,
    ⟨.post_graphql (endpoint servedConfig.ldap "/api/graphql") "token" .GetGroupList, answer [⟨1, "staff"⟩]⟩,
    ⟨.post_graphql (endpoint servedConfig.ldap "/api/graphql") "token" (.AddUserToGroup "bob" 1), answer false⟩]

/-- The account is not deleted, and says so by its flag. -/
def kept : List Made :=
  [⟨.post_login (endpoint servedConfig.ldap "/auth/simple/login") "admin" "secret", .ok "token"⟩,
    ⟨.post_graphql (endpoint servedConfig.ldap "/api/graphql") "token" (.DeleteUser "bob"), answer false⟩]

/-- Both are reported as done. -/
theorem refusals_ignored :
    (¬ ∀ (config : LldapConfig) (username email first_name last_name password : String) (groups : List String)
        (calls : List Made) (result : Except LldapError Unit),
        Reaches (provision_user config username email first_name last_name password groups) calls
          (.ret (.returned result)) → Honoured username groups calls result) ∧
    (¬ ∀ (config : LldapConfig) (username : String) (calls : List Made) (result : Except LldapError Unit),
        Reaches (delete_user_account config username) calls (.ret result) → DeletionHonoured username calls result) := by
  constructor
  · intro honours
    have reached : Reaches staffing declined (.ret (.returned (.ok ()))) :=
      .call (.call (.call (.call (.call (.call (.call (.call .here)))))))
    obtain ⟨ended, _⟩ := (honours _ _ _ _ _ _ _ _ _ reached).compensates (declined.take 7)
      (declined.get ⟨7, by decide⟩) [] rfl rfl (by decide)
    cases ended
  · intro honours
    have reached : Reaches (delete_user_account servedConfig.ldap "bob") kept (.ret (.ok ())) := .call (.call .here)
    have ended := (honours _ _ _ _ reached).refused (kept.get ⟨1, by decide⟩) (List.get_mem _ _) rfl (by decide)
    cases ended

end InviteSystem.MutationResults
