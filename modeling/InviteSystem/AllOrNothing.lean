import InviteSystem.Passages
import InviteSystem.SuccessfulRedemption

/-!
What a failed `provision_user` leaves behind. Once its account is created every
failure of a call is answered by its deletion; an unknown group is not.
-/
namespace InviteSystem.AllOrNothing
open InviteSystem.Programs InviteSystem.Lldap InviteSystem.SubmitInvite InviteSystem.Effects InviteSystem.Accounts
open InviteSystem.RedemptionSystem
open InviteSystem.DirectoryServer InviteSystem.SuccessfulRedemption InviteSystem.Passages

/-- The call was reported to have created the account. -/
def Created (username : String) (calls : List Made) : Prop :=
  ∃ call ∈ calls, creates call.1 call.2 = some (username, true)

/-- After the account was created its deletion was asked for, at the end. -/
def Undone (username : String) (calls : List Made) : Prop :=
  ∃ before creation between url token reply,
    calls = before ++ creation :: between ++ [⟨.post_graphql url token (.DeleteUser username), reply⟩] ∧
      creates creation.1 creation.2 = some (username, true)

/-- A failure after the creation is undone, and nothing is deleted without one. -/
def Compensated (username : String) (calls : List Made) (result : Except LldapError Unit) : Prop :=
  (result.isOk = false → Created username calls → Undone username calls) ∧
    (¬ Created username calls → ∀ call ∈ calls, isDelete call.1 = false)

/-- The group could not be joined. -/
def joinFails : (c : Lldap.Call) → Reply c → Bool
  | .post_graphql _ _ (.AddUserToGroup _ _), reply => !reported reply
  | _, _ => false

def Listed (records : List GroupRecord) (calls : List Made) : Prop := ∃ call ∈ calls, lists call.1 call.2 = some records

/-- No name of the groups is missing in the list, or a group could not be
    joined before the name that is. -/
def Resolved (groups : List String) (calls : List Made) : Prop :=
  ∀ records, Listed records calls →
    (∀ name ∈ groups, (records.find? (fun group => group.display_name = name)).isSome = true) ∨
      ∃ call ∈ calls, joinFails call.1 call.2 = true

/-! ### How it ends -/

section
variable {config : LldapConfig} {token username : String}

/-- A mutation is one call, and its data is not looked at. -/
theorem mutation_result {operation : Operation} {calls : List Made} {result : Except LldapError Unit}
    (reached : Reaches ((graphql config token operation).andThen fun _ => .ret (.ok ())) calls (.ret result)) :
    ∃ reply : GraphqlReply operation.Data,
      calls = [⟨.post_graphql (endpoint config "/api/graphql") token operation, reply⟩] ∧
        result = (GraphqlReply.result reply).map (fun _ => ()) := by
  rcases reaches_andThen_ret reached with ⟨error, failed, rfl⟩ | ⟨first, second, data, rfl, answered, ended⟩
  · obtain ⟨reply, rfl, outcome⟩ := graphql_calls failed
    exact ⟨reply, rfl, congrArg (Except.map fun _ => ()) outcome⟩
  · obtain ⟨reply, rfl, outcome⟩ := graphql_calls answered
    obtain ⟨rfl, same⟩ := reaches_ret.mp ended
    cases same
    exact ⟨reply, rfl, congrArg (Except.map fun _ => ()) outcome⟩

theorem mutation_calls {operation : Operation} {calls : List Made} {result : Except LldapError Unit}
    (reached : Reaches ((graphql config token operation).andThen fun _ => .ret (.ok ())) calls (.ret result)) :
    ∃ reply : GraphqlReply operation.Data,
      calls = [⟨.post_graphql (endpoint config "/api/graphql") token operation, reply⟩] ∧ result.isOk = reported reply := by
  obtain ⟨reply, rfl, rfl⟩ := mutation_result reached
  refine ⟨reply, rfl, ?_⟩
  rw [reported]
  cases GraphqlReply.result reply <;> rfl

/-- How a failure after the creation is answered. -/
theorem deletion_calls {error : LldapError} {calls : List Made} {result : Except LldapError Unit}
    (reached : Reaches ((Lldap.delete_user config token username).bind fun _ => .ret (.error error)) calls (.ret result)) :
    result = .error error ∧ ∃ reply,
      calls = [⟨.post_graphql (endpoint config "/api/graphql") token (.DeleteUser username), reply⟩] := by
  obtain ⟨deleting, rest, _, rfl, deleted, ended⟩ := reaches_bind_ret reached
  obtain ⟨reply, rfl, _⟩ := mutation_calls deleted
  obtain ⟨rfl, same⟩ := reaches_ret.mp ended
  exact ⟨Program.ret.inj same, reply, rfl⟩

variable (username) in
/-- The calls of the loop, name by name; a membership answered with either flag
    goes on. -/
inductive Memberships (records : List GroupRecord) : List String → List Made → Except LldapError Unit → Prop
  | done : Memberships records [] [] (.ok ())
  | unknown {name : String} {names : List String} {error : LldapError}
      (missing : records.find? (fun group => group.display_name = name) = none) :
      Memberships records (name :: names) [] (.error error)
  | failed {name : String} {names : List String} {url token url' token' : String} {group : Int} {error : LldapError}
      {reply : GraphqlReply Bool} {reply' : Reply (.post_graphql url' token' (.DeleteUser username))}
      (outcome : GraphqlReply.result reply = .error error) :
      Memberships records (name :: names) [⟨.post_graphql url token (.AddUserToGroup username group), reply⟩,
        ⟨.post_graphql url' token' (.DeleteUser username), reply'⟩] (.error error)
  | answered {name : String} {names : List String} {url token : String} {group : GroupRecord} {flag : Bool}
      {reply : GraphqlReply Bool} {later : List Made} {result : Except LldapError Unit}
      (found : records.find? (fun group => group.display_name = name) = some group)
      (outcome : GraphqlReply.result reply = .ok flag) (rest : Memberships records names later result) :
      Memberships records (name :: names) (⟨.post_graphql url token (.AddUserToGroup username group.id), reply⟩ :: later) result

theorem memberships_of_calls {records : List GroupRecord} (names : List String) {calls : List Made}
    {result : Except LldapError Unit}
    (reached : Reaches (add_to_groups config token username records names) calls (.ret result)) :
    Memberships username records names calls result := by
  induction names generalizing calls with
  | nil =>
    obtain ⟨rfl, same⟩ := reaches_ret.mp reached
    cases same
    exact .done
  | cons name names ih =>
    unfold add_to_groups at reached
    cases found : records.find? (fun group => group.display_name = name) with
    | none =>
      rw [found] at reached
      obtain ⟨rfl, same⟩ := reaches_ret.mp reached
      cases same
      exact .unknown found
    | some group =>
      rw [found] at reached
      obtain ⟨joining, later, added, rfl, joined, after⟩ := reaches_bind_ret reached
      obtain ⟨reply, rfl, outcome⟩ := mutation_result joined
      cases result' : GraphqlReply.result reply with
      | error error =>
        rw [result'] at outcome
        subst outcome
        obtain ⟨rfl, reply', rfl⟩ := deletion_calls after
        exact .failed result'
      | ok flag =>
        rw [result'] at outcome
        subst outcome
        exact .answered found result' (ih after)

variable (username) in
/-- How the loop over the groups ends, by its calls. -/
inductive Joined (records : List GroupRecord) (names : List String) : List Made → Except LldapError Unit → Prop
  | undone (before : List Made) {url token : String} {error : LldapError}
      {reply : Reply (.post_graphql url token (.DeleteUser username))}
      (failed : ∃ call ∈ before, joinFails call.1 call.2 = true) :
      Joined records names (before ++ [⟨.post_graphql url token (.DeleteUser username), reply⟩]) (.error error)
  | unknown {calls : List Made} {error : LldapError} {name : String} (member : name ∈ names)
      (missing : records.find? (fun group => group.display_name = name) = none)
      (quiet : ∀ call ∈ calls, isDelete call.1 = false ∧ joinFails call.1 call.2 = false) :
      Joined records names calls (.error error)
  | done {calls : List Made}
      (known : ∀ name ∈ names, (records.find? (fun group => group.display_name = name)).isSome = true) :
      Joined records names calls (.ok ())

theorem Memberships.joined {records : List GroupRecord} {names : List String} {calls : List Made}
    {result : Except LldapError Unit} (memberships : Memberships username records names calls result) :
    Joined username records names calls result := by
  induction memberships with
  | done => exact .done (by simp)
  | unknown missing => exact .unknown List.mem_cons_self missing (by simp)
  | @failed name names url token url' token' group error reply reply' outcome =>
    have failed : (!reported reply) = true := by
      rw [reported, outcome]
      rfl
    exact .undone [_] ⟨_, List.mem_singleton_self _, failed⟩
  | @answered name names url token group flag reply later result found outcome rest ih =>
    have quiet : joinFails (.post_graphql url token (.AddUserToGroup username group.id)) reply = false := by
      show (!reported reply) = false
      rw [reported_ok outcome]
      rfl
    cases ih with
    | undone before failed =>
      obtain ⟨call, member, failure⟩ := failed
      exact .undone (_ :: before) ⟨call, List.mem_cons_of_mem _ member, failure⟩
    | unknown member missing others =>
      exact .unknown (List.mem_cons_of_mem _ member) missing (List.forall_mem_cons.mpr ⟨⟨rfl, quiet⟩, others⟩)
    | done known => exact .done (List.forall_mem_cons.mpr ⟨by rw [found]; rfl, known⟩)

/-- The calls that neither delete nor list nor join, whatever their replies. -/
def Silent (c : Lldap.Call) : Prop := isDelete c = false ∧ ∀ reply, lists c reply = none ∧ joinFails c reply = false

variable (username) in
/-- How `provision_user` goes on and ends once the account is created. -/
inductive Equipped (groups : List String) : List Made → Except LldapError Unit → Prop
  | undone (before : List Made) {url token : String} {error : LldapError}
      {reply : Reply (.post_graphql url token (.DeleteUser username))}
      (early : ∀ call ∈ before, isDelete call.1 = false ∧ lists call.1 call.2 = none) :
      Equipped groups (before ++ [⟨.post_graphql url token (.DeleteUser username), reply⟩]) (.error error)
  | listed (before after : List Made) {url token : String} {records : List GroupRecord} {result : Except LldapError Unit}
      {reply : GraphqlReply (List GroupRecord)} (answered : GraphqlReply.result reply = .ok records)
      (early : ∀ call ∈ before, Silent call.1) (late : ∀ call ∈ after, lists call.1 call.2 = none)
      (joined : Joined username records groups after result) :
      Equipped groups (before ++ ⟨.post_graphql url token .GetGroupList, reply⟩ :: after) result

theorem equip_calls {password : String} {groups : List String} {calls : List Made} {result : Except LldapError Unit}
    (reached : Reaches (equip config token username password groups) calls (.ret (.returned result))) :
    Equipped username groups calls result := by
  obtain ⟨setting, later, set, rfl, done, after⟩ := reaches_bind_ret reached
  have conversation : Conversation Silent config username password := by
    refine ⟨fun _ _ => ⟨rfl, fun _ => ⟨rfl, rfl⟩⟩, fun _ => ⟨rfl, fun _ => ⟨rfl, rfl⟩⟩, fun _ _ => ⟨rfl, fun _ => ⟨rfl, rfl⟩⟩,
      ⟨rfl, fun _ => ⟨rfl, rfl⟩⟩, ⟨rfl, fun _ => ⟨rfl, rfl⟩⟩⟩
  have silent := (only_reaches done (only_set_password conversation)).1
  have quiet : ∀ call ∈ setting, isDelete call.1 = false ∧ lists call.1 call.2 = none :=
    fun call member => ⟨(silent call member).1, ((silent call member).2 call.2).1⟩
  rcases set with (error | done) | _
  · obtain ⟨_, same, ended⟩ := reaches_returns after
    cases same
    obtain ⟨rfl, reply, rfl⟩ := deletion_calls ended
    exact .undone setting quiet
  · obtain ⟨_, same, joining⟩ := reaches_returns after
    cases same
    obtain ⟨listing, rest, listed, rfl, asked, after⟩ := reaches_bind_ret joining
    obtain ⟨reply, rfl, outcome⟩ := graphql_calls asked
    cases listed with
    | error error =>
      obtain ⟨rfl, reply', rfl⟩ := deletion_calls after
      have failed : lists (.post_graphql (endpoint config "/api/graphql") token .GetGroupList) reply = none := by
        show (GraphqlReply.result reply).toOption = none
        rw [← outcome]
        rfl
      have early : ∀ call ∈ setting ++ [⟨.post_graphql (endpoint config "/api/graphql") token .GetGroupList, reply⟩],
          isDelete call.1 = false ∧ lists call.1 call.2 = none :=
        List.forall_mem_append.mpr ⟨quiet, List.forall_mem_singleton.mpr ⟨rfl, failed⟩⟩
      rw [← List.append_assoc]
      exact .undone _ early
    | ok records =>
      have late : Only (fun c => ∀ reply, lists c reply = none) (add_to_groups config token username records groups) :=
        only_add_to_groups groups (fun _ _ _ => rfl) fun _ _ => rfl
      exact .listed setting rest outcome.symm silent (fun call member => (only_reaches after late).1 call member call.2)
        (memberships_of_calls groups after).joined
  · obtain ⟨_, same⟩ := reaches_ret.mp after
    cases same

/-- A call of `provision_user` failed before the account was created, or it went
    on from the creation. -/
theorem provision_user_calls {email first_name last_name password : String} {groups : List String} {calls : List Made}
    {result : Except LldapError Unit}
    (reached : Reaches (provision_user config username email first_name last_name password groups) calls
      (.ret (.returned result))) :
    (¬ Created username calls ∧ (∀ call ∈ calls, isDelete call.1 = false ∧ lists call.1 call.2 = none)) ∨
      ∃ login creation later, calls = login :: creation :: later ∧ Passive login.1 = true ∧ Silent login.1 ∧
        Silent creation.1 ∧ creates creation.1 creation.2 = some (username, true) ∧
        Equipped username groups later result := by
  rcases reaches_tries_ret reached with ⟨error, failed, same⟩ | ⟨first, second, token, rfl, logged, creation⟩
  · obtain ⟨reply, rfl, _⟩ := login_calls failed
    refine .inl ⟨?_, List.forall_mem_singleton.mpr ⟨rfl, rfl⟩⟩
    rintro ⟨call, member, created⟩
    cases List.mem_singleton.mp member
    cases created
  · obtain ⟨reply, rfl, _⟩ := login_calls logged
    rcases reaches_tries_ret creation with ⟨error, failed, same⟩ | ⟨creating, later, _, rfl, created, equipped⟩
    · obtain ⟨reply', rfl, outcome⟩ := mutation_calls failed
      refine .inl ⟨?_, List.forall_mem_cons.mpr ⟨⟨rfl, rfl⟩, List.forall_mem_singleton.mpr ⟨rfl, rfl⟩⟩⟩
      rintro ⟨call, member, created⟩
      rcases List.mem_cons.mp member with rfl | last
      · cases created
      · cases List.mem_singleton.mp last
        have reports : reported reply' = true := congrArg Prod.snd (Option.some.inj created)
        rw [← outcome] at reports
        cases reports
    · obtain ⟨reply', rfl, outcome⟩ := mutation_calls created
      have report : reported reply' = true := outcome.symm
      refine .inr ⟨_, _, later, rfl, rfl, ⟨rfl, fun _ => ⟨rfl, rfl⟩⟩, ⟨rfl, fun _ => ⟨rfl, rfl⟩⟩, ?_, equip_calls equipped⟩
      exact congrArg (fun flag => some (username, flag)) report

section
variable {groups : List String} {login creation : Made} {later : List Made} {result : Except LldapError Unit}

theorem created_present (created : creates creation.1 creation.2 = some (username, true)) :
    Created username (login :: creation :: later) := ⟨creation, List.mem_cons_of_mem _ List.mem_cons_self, created⟩

/-- A trace that goes on from its creation to a last deletion is compensated. -/
theorem compensated_undone {between : List Made} {url token : String}
    {reply : Reply (.post_graphql url token (.DeleteUser username))}
    (created : creates creation.1 creation.2 = some (username, true)) :
    Compensated username (login :: creation :: (between ++ [⟨.post_graphql url token (.DeleteUser username), reply⟩]))
      result :=
  ⟨fun _ _ => ⟨[login], creation, between, url, token, reply, rfl, created⟩,
    fun absent => absurd (created_present created) absent⟩

/-- One that fails with nothing deleted is not. -/
theorem not_compensated {error : LldapError} (created : creates creation.1 creation.2 = some (username, true))
    (kept : ∀ call ∈ login :: creation :: later, isDelete call.1 = false) :
    ¬ Compensated username (login :: creation :: later) (.error error) := by
  rintro ⟨undone, _⟩
  obtain ⟨before, creation', between, url, token, reply, parts, _⟩ := undone rfl (created_present created)
  have deletion := kept ⟨.post_graphql url token (.DeleteUser username), reply⟩ (by rw [parts]; simp)
  cases deletion

/-- The one call that lists groups is the one between the creation and the loop. -/
theorem listed_once {before after : List Made} {url token : String} {records records' : List GroupRecord}
    {reply : GraphqlReply (List GroupRecord)} (entered : Silent login.1) (silent : Silent creation.1)
    (early : ∀ call ∈ before, Silent call.1) (late : ∀ call ∈ after, lists call.1 call.2 = none)
    (listing : lists (.post_graphql url token .GetGroupList) reply = some records)
    (listed : Listed records' (login :: creation :: (before ++ ⟨.post_graphql url token .GetGroupList, reply⟩ :: after))) :
    records' = records := by
  obtain ⟨call, member, found⟩ := listed
  simp only [List.mem_cons, List.mem_append] at member
  rcases member with rfl | rfl | earlier | rfl | last
  · cases (entered.2 _).1.symm.trans found
  · cases (silent.2 _).1.symm.trans found
  · cases ((early call earlier).2 call.2).1.symm.trans found
  · exact (Option.some.inj (listing.symm.trans found)).symm
  · cases (late call last).symm.trans found

/-- Where the groups were listed, the loop over them decides. -/
theorem joined_compensated_iff {before after : List Made} {url token : String} {records : List GroupRecord}
    {reply : GraphqlReply (List GroupRecord)} (entered : Silent login.1) (silent : Silent creation.1)
    (created : creates creation.1 creation.2 = some (username, true)) (answered : GraphqlReply.result reply = .ok records)
    (early : ∀ call ∈ before, Silent call.1) (late : ∀ call ∈ after, lists call.1 call.2 = none)
    (joined : Joined username records groups after result) :
    Compensated username (login :: creation :: (before ++ ⟨.post_graphql url token .GetGroupList, reply⟩ :: after)) result ↔
      Resolved groups (login :: creation :: (before ++ ⟨.post_graphql url token .GetGroupList, reply⟩ :: after)) := by
  have listing : lists (.post_graphql url token .GetGroupList) reply = some records := lists_iff.mpr answered
  cases joined with
  | @undone within url' token' error reply' failed =>
    obtain ⟨call, member, failure⟩ := failed
    have parts : before ++ ⟨.post_graphql url token .GetGroupList, reply⟩ ::
        (within ++ [⟨.post_graphql url' token' (.DeleteUser username), reply'⟩]) =
        (before ++ ⟨.post_graphql url token .GetGroupList, reply⟩ :: within) ++
          [⟨.post_graphql url' token' (.DeleteUser username), reply'⟩] := by simp
    rw [parts]
    exact ⟨fun _ _ _ => .inr ⟨call, by simp [member], failure⟩, fun _ => compensated_undone created⟩
  | @unknown error _ name member missing quiet =>
    have kept : ∀ call ∈ login :: creation :: (before ++ ⟨.post_graphql url token .GetGroupList, reply⟩ :: after),
        isDelete call.1 = false ∧ joinFails call.1 call.2 = false := by
      simp only [List.forall_mem_cons, List.forall_mem_append]
      exact ⟨⟨entered.1, (entered.2 _).2⟩, ⟨silent.1, (silent.2 _).2⟩,
        fun call member => ⟨(early call member).1, ((early call member).2 _).2⟩, ⟨rfl, rfl⟩, quiet⟩
    constructor
    · intro compensated
      exact absurd compensated (not_compensated created fun call member => (kept call member).1)
    · intro resolved
      have listed : Listed records (login :: creation ::
          (before ++ ⟨.post_graphql url token .GetGroupList, reply⟩ :: after)) :=
        ⟨⟨.post_graphql url token .GetGroupList, reply⟩, by simp, listing⟩
      rcases resolved records listed with known | ⟨call, within, failure⟩
      · have found := known name member
        rw [missing] at found
        cases found
      · rw [(kept call within).2] at failure
        cases failure
  | done known =>
    constructor
    · intro _ records' listed
      rw [listed_once entered silent early late listing listed]
      exact .inl known
    · intro _
      refine ⟨?_, fun absent => absurd (created_present created) absent⟩
      rintro ⟨⟩

theorem Equipped.compensated_iff (entered : Silent login.1) (silent : Silent creation.1)
    (created : creates creation.1 creation.2 = some (username, true)) (equipped : Equipped username groups later result) :
    Compensated username (login :: creation :: later) result ↔ Resolved groups (login :: creation :: later) := by
  cases equipped with
  | @undone before url token error reply early =>
    constructor
    · rintro _ records ⟨call, member, listing⟩
      have unlisted : ∀ call ∈ login :: creation :: (before ++ [⟨.post_graphql url token (.DeleteUser username), reply⟩]),
          lists call.1 call.2 = none := by
        simp only [List.forall_mem_cons, List.forall_mem_append]
        exact ⟨(entered.2 _).1, (silent.2 _).1, fun call member => (early call member).2, rfl, by simp⟩
      rw [unlisted call member] at listing
      cases listing
    · exact fun _ => compensated_undone created
  | listed before after answered early late joined =>
    exact joined_compensated_iff entered silent created answered early late joined

end
end

/-! ### What is left in the directory -/

section
variable {ι : Type} {i : ι} {resolve : String → Option String} {config : LldapConfig} {form : SubmitInviteForm}
  {β : Type}

/-- No call of the client in this name shows in the other accounts, as far as
    they are looked at without their passwords or the password goes to no other. -/
theorem others_call {view : Account ι → β} (hidden : (∀ id new_pass (directory : Directory ι),
      ((directory.setPassword id new_pass).others form.username).map view = (directory.others form.username).map view) ∨
      ∀ id, resolve (user_dn config form.username) = some id → id = form.username)
    {w w' : World ι} {c : Lldap.Call} {reply : Reply c} (aimed : Aimed config form c)
    (performed : Perform i w c reply w') (targets : Targets resolve w c w') :
    (w'.directory.others form.username).map view = (w.directory.others form.username).map view := by
  cases perform_cases performed with
  | created =>
    cases aimed
    exact congrArg (List.map view) (others_insert rfl)
  | @deleted _ _ id =>
    obtain rfl : id = form.username := aimed
    exact congrArg (List.map view) others_erase
  | @joined _ _ user group =>
    obtain rfl : user = form.username := aimed
    exact congrArg (List.map view) (others_modify_self (Account.join group) fun _ => rfl)
  | @passwordSet _ new_pass =>
    cases aimed
    rcases targets with same | ⟨id, resolved, same⟩
    · rw [same]
    · rw [same]
      rcases hidden with blind | own
      · exact blind id new_pass w.directory
      · obtain rfl := own id resolved
        exact congrArg (List.map view) (others_modify_self (Account.setPassword new_pass) fun _ => rfl)
  | _ => rfl

/-- A `provision_user` that created the account came to it without a trace in
    the directory. -/
theorem absent_before {w w' : World ι} {calls : List Made} {perform : World ι → (c : Lldap.Call) → Reply c → World ι → Prop}
    (performs : ∀ w c reply w', perform w c reply w' → Perform i w c reply w')
    {email first_name last_name password : String} {groups : List String} {result : Except LldapError Unit}
    (reached : Reaches (provision_user config form.username email first_name last_name password groups) calls
      (.ret (.returned result)))
    (carried : Carries perform w calls w') (created : Created form.username calls) :
    w.directory.account form.username = none := by
  rcases provision_user_calls reached with ⟨absent, _⟩ | ⟨login, creation, later, rfl, passive, _, _, creates, _⟩
  · exact absurd created absent
  · cases carried with
    | call first rest =>
      cases rest with
      | call second _ =>
        rw [(passive_world passive).mp (performs _ _ _ _ first)] at second
        exact (perform_creates (performs _ _ _ _ second) creates).1

end

/-- For every list of groups and every pattern of replies: a `provision_user`
    that returns undoes each failure after its creation, and deletes nothing without one, if
    and only if no name of the groups is missing in the list the directory
    returned, unless a group before it could not be joined. Where the account is
    gone at the end, the directory holds the accounts it held before the call,
    as they were where the password went to no other. -/
theorem all_or_nothing_iff (config : LldapConfig) (username email first_name last_name password : String)
    (groups : List String) {calls : List Made} {result : Except LldapError Unit}
    (reached : Reaches (provision_user config username email first_name last_name password groups) calls
      (.ret (.returned result))) :
    (Compensated username calls result ↔ Resolved groups calls) ∧
    ∀ (ι : Type) (i : ι) (resolve : String → Option String) (w w' : World ι),
      Carries (fun w c reply w' => Perform i w c reply w' ∧ Targets resolve w c w') w calls w' →
      Created username calls → w'.directory.account username = none →
      w'.directory.accounts.map Account.blind = w.directory.accounts.map Account.blind ∧
        ((∀ id, resolve (user_dn config username) = some id → id = username) →
          w'.directory.accounts = w.directory.accounts) := by
  constructor
  · rcases provision_user_calls reached with ⟨absent, quiet⟩ | ⟨login, creation, later, rfl, _, entered, silent,
      created, equipped⟩
    · constructor
      · rintro _ records ⟨call, member, listing⟩
        rw [(quiet call member).2] at listing
        cases listing
      · exact fun _ => ⟨fun _ created => absurd created absent, fun _ call member => (quiet call member).1⟩
    · exact equipped.compensated_iff entered silent created
  · intro ι i resolve w w' carried created absent'
    let form : SubmitInviteForm := ⟨username, email, first_name, last_name, password⟩
    have absent : w.directory.account form.username = none :=
      absent_before (fun _ _ _ _ performed => performed.1) reached carried created
    have only : Only (Late config form) (provision_user config username email first_name last_name password groups) :=
      only_provision_user config form password groups
    have aimed : ∀ call ∈ calls, Aimed config form call.1 := fun call member => ((only_reaches reached only).1 call member).1
    have kept : ∀ {β : Type} (view : Account ι → β), ((∀ id new_pass (directory : Directory ι),
        ((directory.setPassword id new_pass).others form.username).map view = (directory.others form.username).map view) ∨
        ∀ id, resolve (user_dn config form.username) = some id → id = form.username) →
        w'.directory.accounts.map view = w.directory.accounts.map view := by
      intro β view hidden
      rw [← others_absent absent, ← others_absent (show w'.directory.account form.username = none from absent')]
      have same : ∀ world c reply world', Aimed config form c →
          (Perform i world c reply world' ∧ Targets resolve world c world') →
          (world.directory.others form.username).map view = (w.directory.others form.username).map view →
          (world'.directory.others form.username).map view = (w.directory.others form.username).map view :=
        fun world c reply world' aimed performed before =>
          (others_call hidden aimed performed.1 performed.2).trans before
      exact carried.invariant aimed same rfl
    refine ⟨kept Account.blind (.inl fun _ _ _ => others_setPassword_blind), fun own => ?_⟩
    simpa using kept id (.inr own)

/-! ### Two failures -/

/-- The account of the sample is created. -/
def begun : List Made :=
  [⟨.post_login (endpoint servedConfig.ldap "/auth/simple/login") "admin" "secret", .ok "token"⟩,
    ⟨.post_graphql (endpoint servedConfig.ldap "/api/graphql") "token"
      (.CreateUser ⟨"bob", "bob@example.com", "Bob Jones", "Bob", "Jones"⟩), answer "bob"⟩]

/-- The LDAP server is down, and the account is deleted. -/
def unreachable : List Made :=
  begun ++ [⟨.ldap_connect "ldap://lldap:3890" false, .error "connection refused"⟩,
    ⟨.post_graphql (endpoint servedConfig.ldap "/api/graphql") "token" (.DeleteUser "bob"), answer true⟩]

/-- The password is set, and the directory has no groups. -/
def groupless : List Made :=
  begun ++ [⟨.ldap_connect "ldap://lldap:3890" false, .ok ()⟩,
    ⟨.simple_bind "cn=admin,ou=people,dc=example,dc=com" "secret", .ok ()⟩,
    ⟨.password_modify "uid=bob,ou=people,dc=example,dc=com" "Str0ng-Passw0rd", .ok ()⟩, ⟨.unbind, .ok ()⟩,
    ⟨.post_graphql (endpoint servedConfig.ldap "/api/graphql") "token" .GetGroupList, answer ([] : List GroupRecord)⟩]

/-- Provisioning the sample for the group `staff`. -/
abbrev staffing : Prog (Outcome (Except LldapError Unit)) :=
  provision_user servedConfig.ldap "bob" "bob@example.com" "Bob" "Jones" "Str0ng-Passw0rd" ["staff"]

theorem all_or_nothing_sample : ∃ calls w',
    Reaches staffing calls (.ret (.returned (.error (.Graphql "connection refused")))) ∧ Undone "bob" calls ∧
    Carries (fun w c reply w' => Perform () w c reply w' ∧ Targets (fun _ => some "bob") w c w') (servedWorld Unit) calls w' ∧
    w'.directory.accounts = [] := by
  have reached : Reaches staffing unreachable (.ret (.returned (.error (.Graphql "connection refused")))) :=
    .call (.call (.call (.call .here)))
  obtain ⟨compensated, restored⟩ := all_or_nothing_iff servedConfig.ldap "bob" "bob@example.com" "Bob" "Jones"
    "Str0ng-Passw0rd" ["staff"] reached
  have created : Created "bob" unreachable := ⟨_, List.mem_cons_of_mem _ List.mem_cons_self, by decide⟩
  have resolved : Resolved ["staff"] unreachable := by
    rintro records ⟨call, member, listed⟩
    have unlisted : ∀ call ∈ unreachable, (lists call.1 call.2).isNone = true := by decide
    have none := unlisted call member
    rw [listed] at none
    cases none
  let user : CreateUserInput := ⟨"bob", "bob@example.com", "Bob Jones", "Bob", "Jones"⟩
  let made : World Unit := { servedWorld Unit with
    directory := (servedWorld Unit).directory.insert (.created user (.request () true)) }
  let gone : World Unit := { made with directory := made.directory.erase "bob" }
  have carried : Carries (fun w c reply w' => Perform () w c reply w' ∧ Targets (fun _ => some "bob") w c w')
      (servedWorld Unit) unreachable gone :=
    .call ⟨rfl, trivial⟩ (.call ⟨.inr ⟨rfl, rfl⟩, trivial⟩ (.call ⟨rfl, trivial⟩ (.call ⟨.inr rfl, trivial⟩ .stay)))
  refine ⟨unreachable, gone, reached, (compensated.mpr resolved).1 rfl created, carried, ?_⟩
  exact (restored Unit () (fun _ => some "bob") _ _ carried created (account_erase_self ..)).2
    fun id same => (Option.some.inj same).symm

/-- The group does not exist: the account is left behind, with its password. -/
theorem unknown_group_left : ¬ ∀ (config : LldapConfig) (username email first_name last_name password : String)
    (groups : List String) (calls : List Made) (result : Except LldapError Unit),
    Reaches (provision_user config username email first_name last_name password groups) calls (.ret (.returned result)) →
      Compensated username calls result := by
  intro undoes
  have reached : Reaches staffing groupless (.ret (.returned (.error (.Graphql "Unknown group 'staff'")))) :=
    .call (.call (.call (.call (.call (.call (.call .here))))))
  have kept : ∀ call ∈ groupless, isDelete call.1 = false := by decide
  have created : creates (groupless.get ⟨1, by decide⟩).1 (groupless.get ⟨1, by decide⟩).2 = some ("bob", true) := by decide
  exact not_compensated created kept (undoes _ _ _ _ _ _ _ _ _ reached)

end InviteSystem.AllOrNothing
