import InviteSystem.DistinguishedNames
import InviteSystem.SuccessfulRedemption

/-!
Whose password a redemption sets. The directory takes the username of the
GraphQL mutation as it stands, but reads the one in the distinguished name
without the blanks around it; `validate_username` judges a trimmed copy.
-/
namespace InviteSystem.PasswordTarget
open InviteSystem.Runs InviteSystem.Text InviteSystem.Libraries InviteSystem.Tokens InviteSystem.InviteStorage
open InviteSystem.InviteRoutes InviteSystem.DistinguishedNames
open InviteSystem.Programs InviteSystem.Lldap InviteSystem.Validation InviteSystem.SubmitInvite InviteSystem.Redemption
open InviteSystem.Effects InviteSystem.Accounts InviteSystem.RedemptionSystem InviteSystem.DirectoryServer
open InviteSystem.SuccessfulRedemption

section
variable (blank : Char → Bool)

/-- The id of the user that a distinguished name addresses below the base. -/
def entry (base_dn dn : String) : Option String :=
  match DistinguishedNames.read blank dn.toList with
  | [] => none
  | (type, value) :: rest =>
    if type.map Char.toLower = "uid".toList ∧ rest = DistinguishedNames.read blank ("ou=people," ++ base_dn).toList then
      some (String.ofList value)
    else none

/-- The username as it is read in a distinguished name. -/
def addressed (username : String) : String := String.ofList (strip blank username.toList)

variable {blank}

/-- The name that `set_password` builds for an accepted username. -/
theorem entry_user_dn (whitespace : ∀ c, blank c = true → is_whitespace c = true) {username : String}
    (accepted : validate_username username = .ok ()) (config : LldapConfig) :
    entry blank config.base_dn (user_dn config username) = some (addressed blank username) := by
  have free : '\\' ∉ username.toList ∧ ',' ∉ username.toList := by
    constructor <;> intro member <;> rcases accepted_char accepted _ member with space | char
    · revert space; decide
    · revert char; decide
    · revert space; decide
    · revert char; decide
  have parts : (user_dn config username).toList =
      ['u', 'i', 'd'] ++ '=' :: username.toList ++ ',' :: ("ou=people," ++ config.base_dn).toList := by
    simp [user_dn]
  have noBlank : ∀ c, is_whitespace c = false → blank c = false := by
    intro c char
    by_contra isBlank
    rw [whitespace c (by simpa using isBlank)] at char
    cases char
  have type : strip blank ['u', 'i', 'd'] = ['u', 'i', 'd'] := by
    simp [strip, List.rdropWhile, noBlank 'u' (by decide), noBlank 'd' (by decide)]
  rw [entry, parts, read_plain (by decide) free, type]
  simp [addressed]

/-! ### Provisioning -/

/-- A directory server that reads distinguished names so, below the configured base. -/
def reading (blank : Char → Bool) (base_dn : String) (now : Chrono.Reading) (ldap_up : Bool) : Conditions :=
  ⟨now, entry blank base_dn, ldap_up⟩

/-- Every account that was there is there, with the password that it had. -/
def KeepsPasswords (w w' : World Unit) : Prop :=
  ∀ id account, w.directory.account id = some account →
    ∃ account', w'.directory.account id = some account' ∧ account'.password = account.password

/-- Whatever is in the directory, `provision_user` changes no password of an
    account that was there, and where it succeeds it has set that of the account
    that it inserted. -/
def SetsOwn (blank : Char → Bool) (username : String) : Prop :=
  ∀ (config : LldapConfig) (email first_name last_name password : String) (groups : List String) (now : Chrono.Reading)
    (ldap_up : Bool) (w w' : World Unit) (result : Outcome (Except LldapError Unit)),
    (provision_user config username email first_name last_name password groups).eval
      (serve (reading blank config.base_dn now ldap_up) ()) w = (result, w') →
    KeepsPasswords w w' ∧ (result = .returned (.ok ()) → w.directory.account username = none ∧
      ∃ account, w'.directory.account username = some account ∧ account.password = some password)

/-- Nor does any redemption in that name, whatever is in the store. -/
def RedeemsOwn (blank : Char → Bool) (username : String) : Prop :=
  ∀ (crates : Crates) (config : SubmitConfig) (submission : Submission) (now : Chrono.Reading) (ldap_up : Bool)
    (w w' : World Unit) (page : Outcome FormPage), submission.form.username = username →
    (submit_invite crates config submission).eval (serve (reading blank config.ldap.base_dn now ldap_up) ()) w =
      (page, w') → KeepsPasswords w w'

/-- What a redemption whose name is read as it stands keeps: the accounts of the
    start, and its own as its progress says. -/
structure Confined (submission : Submission) (start : World Unit) (g : Progress) (w : World Unit) : Prop where
  kept : ∀ id account, start.directory.account id = some account → w.directory.account id = some account
  own : g.stage.holds = true → start.directory.account submission.form.username = none
  made : AsMade (fun _ => submission) (fun _ => g) w

theorem confined_start (submission : Submission) (start : World Unit) : Confined submission start .start start := by
  refine ⟨fun _ _ present => present, ?_, ?_⟩
  · rintro ⟨⟩
  · rintro i password joined (now | now) <;> cases now

theorem confined_call {crates : Crates} {config : SubmitConfig} {submission : Submission} {start w : World Unit}
    {now : Chrono.Reading} {ldap_up : Bool} {g : Progress}
    (designates : entry blank config.ldap.base_dn (user_dn config.ldap submission.form.username) =
      some submission.form.username)
    (inv : Confined submission start g w) {c : Lldap.Call} (allowed : Allowed crates config submission g c) :
    Confined submission start (g.after c (serve (reading blank config.ldap.base_dn now ldap_up) () c w).1)
      (serve (reading blank config.ldap.base_dn now ldap_up) () c w).2 := by
  have performed := serve_performs (reading blank config.ldap.base_dn now ldap_up) () c w
  have effective := serve_effective (reading blank config.ldap.base_dn now ldap_up) () c w
  have targets := serve_targets (reading blank config.ldap.base_dn now ldap_up) () c w
  have target : ((reading blank config.ldap.base_dn now ldap_up).resolve
      (user_dn config.ldap submission.form.username)).getD "" = submission.form.username := by
    show (entry blank config.ldap.base_dn (user_dn config.ldap submission.form.username)).getD "" = _
    rw [designates]
    rfl
  have own : (g.after c (serve (reading blank config.ldap.base_dn now ldap_up) () c w).1).stage.holds = true →
      start.directory.account submission.form.username = none := by
    intro holds
    rcases (after_holds allowed).mp holds with ⟨held, _⟩ | created
    · exact inv.own held
    · have absent := (perform_creates performed created).1
      cases before : start.directory.account submission.form.username with
      | none => rfl
      | some account => cases absent.symm.trans (inv.kept _ account before)
  refine ⟨?_, own, ?_⟩
  · intro id account present
    rcases call_at designates allowed performed targets id with same | ⟨rfl, held | absent⟩
    · rw [same]
      exact inv.kept id account present
    · cases (inv.own held).symm.trans present
    · cases absent.symm.trans (inv.kept _ account present)
  · intro i password joined made
    refine own_call ?_ inv.made (i := i) allowed performed effective made
    exact fun _ => target

theorem confined_keeps {submission : Submission} {start w : World Unit} {g : Progress}
    (inv : Confined submission start g w) : KeepsPasswords start w :=
  fun id account present => ⟨account, inv.kept id account present, rfl⟩

/-- So does every program of the redemption, run against the directory. -/
theorem confined_eval {α : Type} {final : Progress → α → Prop} {crates : Crates} {config : SubmitConfig}
    {submission : Submission} {program : Prog α}
    (obeys : Obeys (discipline crates config submission) final .start program)
    (designates : entry blank config.ldap.base_dn (user_dn config.ldap submission.form.username) =
      some submission.form.username) (now : Chrono.Reading) (ldap_up : Bool) (start : World Unit) :
    ∃ g, final g (program.eval (serve (reading blank config.ldap.base_dn now ldap_up) ()) start).1 ∧
      Confined submission start g (program.eval (serve (reading blank config.ldap.base_dn now ldap_up) ()) start).2 := by
  have keeps : ∀ g w c, Confined submission start g w → (discipline crates config submission).allowed g c →
      Confined submission start
        ((discipline crates config submission).after g c
          (serve (reading blank config.ldap.base_dn now ldap_up) () c w).1)
        (serve (reading blank config.ldap.base_dn now ldap_up) () c w).2 :=
    fun _ _ _ inv allowed => confined_call designates inv allowed
  exact eval_invariant keeps obeys (confined_start submission start)

variable {username : String}

/-- A name that is read as it stands sets its own password. -/
theorem sets_own
    (designates : ∀ config : LldapConfig, entry blank config.base_dn (user_dn config username) = some username) :
    SetsOwn blank username := by
  intro config email first_name last_name password groups now ldap_up w w' result served
  let submission : Submission := ⟨none, ⟨username, email, first_name, last_name, password⟩⟩
  have obeys : Obeys (discipline servedCrates ⟨config, .default⟩ submission) _ .start
      (provision_user config username email first_name last_name password groups) :=
    obeys_provision_user rfl rfl groups
  obtain ⟨g, ⟨_, _, final⟩, inv⟩ := confined_eval obeys (designates config) now ldap_up w
  rw [served] at final inv
  refine ⟨confined_keeps inv, ?_⟩
  rintro rfl
  obtain ⟨_, joined, _, _, stage⟩ := final
  exact ⟨inv.own (made_holds (.inl stage)), _, inv.made () _ joined (.inl stage), rfl⟩

theorem redeems_own
    (designates : ∀ config : LldapConfig, entry blank config.base_dn (user_dn config username) = some username) :
    RedeemsOwn blank username := by
  rintro crates config submission now ldap_up w w' page rfl served
  obtain ⟨g, _, inv⟩ := confined_eval (obeys_submit_invite crates config submission) (designates config.ldap) now ldap_up w
  rw [served] at inv
  exact confined_keeps inv

/-! ### Requests side by side -/

/-- Redemptions side by side, over a directory that reads names so. -/
abbrev ReadRedemptions {ι : Type} [DecidableEq ι] (blank : Char → Bool) (crates : Crates) (config : SubmitConfig)
    (submissions : ι → Submission) :=
  Step (fun i => submit_invite crates config (submissions i))
    (fun i w c reply w' => Perform i w c reply w' ∧ Targets (entry blank config.ldap.base_dn) w c w')
    (fun s => Outside (fun _ => True) s.world)

/-- Whoever else asks for what, and whichever calls fail: a step of a request in
    this name keeps every account and its password, but those that the request
    itself is reported to have created. -/
def KeepsOthers (blank : Char → Bool) (username : String) : Prop :=
  ∀ (ι : Type) [DecidableEq ι] (crates : Crates) (config : SubmitConfig) (submissions : ι → Submission) (start : World ι)
    (s s' : System (World ι) ι Lldap.Call Reply (Outcome FormPage)) (labels : List (Label ι Lldap.Call Reply)) (i : ι)
    (c : Lldap.Call) (reply : Reply c), (submissions i).form.username = username →
    Run (ReadRedemptions blank crates config submissions) (.initial start) labels s →
    ReadRedemptions blank crates config submissions s (.call i c reply) s' →
    ∀ id account, s.world.directory.account id = some account → account.origin ≠ .request i true →
      ∃ account', s'.world.directory.account id = some account' ∧ account'.password = account.password

theorem run_owned {ι : Type} [DecidableEq ι] {crates : Crates} {config : SubmitConfig} {submissions : ι → Submission}
    {start : World ι} {s : System (World ι) ι Lldap.Call Reply (Outcome FormPage)} {labels : List (Label ι Lldap.Call Reply)}
    (run : Run (Redemptions crates config submissions) (.initial start) labels s) :
    Owned submissions (progress (fun i => discipline crates config (submissions i)) .start labels) s.world := by
  have calls : ∀ (i : ι) (labels : List (Label ι Lldap.Call Reply)) (P : ι → Progress) w c (reply : Reply c) w',
      Owned submissions P w → Allowed crates config (submissions i) (P i) c → Perform i w c reply w' →
      Owned submissions (Function.update P i ((P i).after c reply)) w' :=
    fun _ _ _ _ _ _ _ owned allowed performed => owned_call owned allowed performed
  refine run_invariant (fun i => obeys_submit_invite crates config (submissions i)) ?_ calls ?_ ?_ run
  · exact fun _ _ _ _ owned => owned
  · exact fun _ _ _ _ _ owned changed => owned_outside owned changed
  · rintro i ⟨⟩

theorem keeps_others
    (designates : ∀ config : LldapConfig, entry blank config.base_dn (user_dn config username) = some username) :
    KeepsOthers blank username := by
  rintro ι _ crates config submissions start s s' labels i c reply rfl run step id account present foreign
  have weak : Run (Redemptions crates config submissions) (.initial start) labels s :=
    run.mono fun _ _ _ step => step.mono (fun _ _ _ _ _ performed => performed.1) (fun _ _ changed => changed)
  have owned := run_owned weak
  cases step with
  | call running performed =>
    have allowed := ((run_obeys (fun i => obeys_submit_invite crates config (submissions i)) weak i).2 _ running).1
    rcases call_at (designates config.ldap) allowed performed.1 performed.2 id with same | ⟨rfl, held | absent⟩
    · exact ⟨account, same.trans present, rfl⟩
    · obtain ⟨account', present', origin⟩ := owned i held
      cases present.symm.trans present'
      exact absurd origin foreign
    · cases absent.symm.trans present

/-! ### A name that is not read as it stands -/

/-- The password of an invitee with a new name goes to the account that its name
    is read as. -/
theorem provision_overwrites (config : LldapConfig) (now : Chrono.Reading)
    (calm : ¬ Halts config (reading blank config.base_dn now true)) {v : String}
    (target : entry blank config.base_dn (user_dn config username) = some v) (other : v ≠ username) {w : World Unit}
    {account : Account Unit} (absent : w.directory.account username = none) (present : w.directory.account v = some account)
    (email first_name last_name password : String) :
    ∃ w', (provision_user config username email first_name last_name password []).eval
        (serve (reading blank config.base_dn now true) ()) w = (.returned (.ok ()), w') ∧
      w'.directory.account v = some (account.setPassword password) := by
  let user : CreateUserInput := ⟨username, email, first_name ++ " " ++ last_name, first_name, last_name⟩
  have stays : (w.directory.insert (.created user (.request () true))).account v = some account :=
    (account_insert_ne other).trans present
  refine ⟨{ w with directory := (w.directory.insert (.created user (.request () true))).setPassword v password }, ?_, ?_⟩
  · rw [provision_user, eval_tries (eval_login ..), eval_tries (eval_create_user _ _ _ _ absent ..), equip, eval_bind,
      eval_set_password _ _ _ _ calm target (by rw [stays]; nofun) rfl]
    rfl
  · rw [account_setPassword, if_pos rfl, stays]
    rfl

/-- What follows the provisioning touches no other account. -/
theorem claim_keeps (conditions : Conditions) (config : SubmitConfig) (form : SubmitInviteForm) (code token_hash : String)
    (w : World Unit) {id : String} (other : id ≠ form.username) :
    ((claim_invite config form code token_hash).eval (serve conditions ()) w).2.directory.account id =
      w.directory.account id := by
  rw [claim_invite, eval_now, eval_consume]
  split
  · rfl
  · rw [eval_bind, delete_user_account, eval_andThen (eval_login ..), eval_delete_user]
    exact account_erase_ne other

/-- One account, of another party, without a password; and the invite. -/
def inhabited (id : String) : World Unit :=
  ⟨⟨[⟨id, "", "", "", "", none, [], .outside⟩], [], List.nodup_singleton id⟩, servedStore⟩

theorem inhabited_self (id : String) :
    (inhabited id).directory.account id = some ⟨id, "", "", "", "", none, [], .outside⟩ := by
  simp [inhabited, Directory.account]

theorem inhabited_ne {id id' : String} (other : id ≠ id') : (inhabited id).directory.account id' = none := by
  simp [inhabited, Directory.account, other]

/-- Noon of the day of the invite, and no faults. -/
def noon : Chrono.Reading := (servedConditions true).now

/-- An account that has got a password has not kept its own. -/
theorem not_keepsPasswords {id password : String} {w' : World Unit} {account : Account Unit}
    (present : w'.directory.account id = some (account.setPassword password)) : ¬ KeepsPasswords (inhabited id) w' := by
  intro keeps
  obtain ⟨account', present', same⟩ := keeps id _ (inhabited_self id)
  cases present.symm.trans present'
  cases same

theorem not_setsOwn {v : String}
    (target : entry blank servedConfig.ldap.base_dn (user_dn servedConfig.ldap username) = some v)
    (other : v ≠ username) : ¬ SetsOwn blank username := by
  intro sets
  obtain ⟨w', ran, overwritten⟩ := provision_overwrites servedConfig.ldap noon (served_calm _) target other
    (inhabited_ne other) (inhabited_self v) "bob@example.com" "Bob" "Jones" "Str0ng-Passw0rd"
  exact not_keepsPasswords overwritten (sets servedConfig.ldap _ _ _ _ [] noon true _ _ _ ran).1

/-- The libraries of the samples, for invites without groups. -/
def groupless : Crates := { servedCrates with groups_from_json := fun _ => some [] }

theorem not_redeemsOwn {v : String} (accepted : validate_username username = .ok ())
    (target : entry blank servedConfig.ldap.base_dn (user_dn servedConfig.ldap username) = some v)
    (other : v ≠ username) : ¬ RedeemsOwn blank username := by
  intro redeems
  obtain ⟨w', ran, overwritten⟩ := provision_overwrites servedConfig.ldap noon (served_calm _) target other
    (inhabited_ne other) (inhabited_self v) "bob@example.com" "Bob" "Jones" "Str0ng-Passw0rd"
  have row : ∃ invite_record, find_by_token_hash servedStore (hash_token groupless servedCode) = some invite_record ∧
      invite_is_active groupless invite_record noon.time = true := ⟨_, rfl, by decide⟩
  obtain ⟨invite_record, found, active⟩ := row
  have email : validate_email "bob@example.com" = .ok () := by decide
  have password : validate_password groupless "Str0ng-Passw0rd" servedConfig.password_policy = .ok () := by decide
  have valid : validation_errors groupless servedConfig.password_policy (applicant servedCode username).form = [] := by
    simp [validation_errors, applicant, accepted, email, password]
  have reached : (submit_invite groupless servedConfig (applicant servedCode username)).eval
      (serve (reading blank servedConfig.ldap.base_dn noon true) ()) (inhabited v) =
      (claim_invite servedConfig (applicant servedCode username).form servedCode (hash_token groupless servedCode)).eval
        (serve (reading blank servedConfig.ldap.base_dn noon true) ()) w' :=
    eval_provisioned _ _ _ _ _ _ _ (by decide) valid (by simp [lookup, inhabited, other])
      (by simp [lookup, inhabited]) found active rfl ran
  have kept := (claim_keeps (reading blank servedConfig.ldap.base_dn noon true) servedConfig
    (applicant servedCode username).form servedCode (hash_token groupless servedCode) w' other).trans overwritten
  rw [← reached] at kept
  exact not_keepsPasswords kept
    (redeems groupless servedConfig (applicant servedCode username) noon true (inhabited v) _ _ rfl Prod.mk.eta.symm)

/-- Whose password a redemption sets. For an accepted username: the name that is
    built designates it, provisioning sets the password of the new account only,
    and no redemption changes that of an account that was there, each if and
    only if the username is read as it stands; then no step of its requests
    changes another's password in any run of requests side by side. Two accepted
    usernames designate different entries if and only if they are read differently. -/
theorem sets_own_iff (blank : Char → Bool) (whitespace : ∀ c, blank c = true → is_whitespace c = true) {username : String}
    (accepted : validate_username username = .ok ()) :
    ((∀ config : LldapConfig, entry blank config.base_dn (user_dn config username) = some username) ↔
      addressed blank username = username) ∧
    (SetsOwn blank username ↔ addressed blank username = username) ∧
    (RedeemsOwn blank username ↔ addressed blank username = username) ∧
    (addressed blank username = username → KeepsOthers blank username) ∧
    ∀ username', validate_username username' = .ok () →
      ((∀ config : LldapConfig, entry blank config.base_dn (user_dn config username) ≠
        entry blank config.base_dn (user_dn config username')) ↔ addressed blank username ≠ addressed blank username') := by
  have designates := entry_user_dn whitespace accepted
  have asItStands (same : addressed blank username = username) (config : LldapConfig) :
      entry blank config.base_dn (user_dn config username) = some username := by rw [designates, same]
  refine ⟨⟨?_, asItStands⟩, ⟨?_, fun same => sets_own (asItStands same)⟩, ⟨?_, fun same => redeems_own (asItStands same)⟩,
    fun same => keeps_others (asItStands same), ?_⟩
  · intro all
    exact Option.some.inj ((designates servedConfig.ldap).symm.trans (all servedConfig.ldap))
  · intro sets
    by_contra other
    exact not_setsOwn (designates servedConfig.ldap) other sets
  · intro redeems
    by_contra other
    exact not_redeemsOwn accepted (designates servedConfig.ldap) other redeems
  · intro username' accepted'
    simp only [designates, entry_user_dn whitespace accepted', ne_eq, Option.some.injEq]
    exact ⟨fun all => all servedConfig.ldap, fun differ _ => differ⟩

end

/-- A directory that takes spaces around a value for no part of it. -/
def spaces (c : Char) : Bool := c == ' '

/-- A name without spaces around it is safe. -/
theorem sets_own_iff_sample : SetsOwn spaces "bob" ∧ RedeemsOwn spaces "bob" ∧ KeepsOthers spaces "bob" := by
  have whitespace : ∀ c, spaces c = true → is_whitespace c = true := by
    intro c space
    rw [beq_iff_eq.mp space]
    decide
  have same : addressed spaces "bob" = "bob" := by decide
  obtain ⟨_, sets, redeems, keeps, _⟩ := sets_own_iff spaces whitespace (show validate_username "bob" = .ok () by decide)
  exact ⟨sets.mpr same, redeems.mpr same, keeps same⟩

/-- Bob, who has had an account for long. -/
def bobsWorld : World Unit :=
  ⟨⟨[⟨"bob", "bob@home.example", "Bob Older", "Bob", "Older", some "Sunflower-42", [1], .outside⟩],
    [⟨1, "staff"⟩, ⟨2, "vpn"⟩], List.nodup_singleton _⟩, servedStore⟩

/-- An invitee who puts a space before the name gets an account, and its password
    becomes that of the account of Bob, whose own is gone. -/
theorem bob_taken_over : validate_username " bob" = .ok () ∧
    entry spaces servedConfig.ldap.base_dn (user_dn servedConfig.ldap " bob") = some "bob" ∧
    ∃ page w', (submit_invite servedCrates servedConfig (applicant servedCode " bob")).eval
        (serve (reading spaces servedConfig.ldap.base_dn noon true) ()) bobsWorld = (page, w') ∧
      page = accountCreated ∧
      (bobsWorld.directory.account "bob").bind Account.password = some "Sunflower-42" ∧
      (w'.directory.account "bob").bind Account.password = some "Str0ng-Passw0rd" ∧
      (w'.directory.account " bob").map Account.password = some none ∧ ¬ KeepsPasswords bobsWorld w' := by
  refine ⟨by decide, by decide, ?_⟩
  obtain ⟨page, w', served⟩ : ∃ page w', (submit_invite servedCrates servedConfig (applicant servedCode " bob")).eval
      (serve (reading spaces servedConfig.ldap.base_dn noon true) ()) bobsWorld = (page, w') := ⟨_, _, Prod.mk.eta.symm⟩
  have success : page = accountCreated := (congrArg (fun ended => ended.1) served).symm.trans (by decide)
  have overwritten : (w'.directory.account "bob").bind Account.password = some "Str0ng-Passw0rd" :=
    (congrArg (fun ended => (ended.2.directory.account "bob").bind Account.password) served).symm.trans (by decide)
  have unset : (w'.directory.account " bob").map Account.password = some none :=
    (congrArg (fun ended => (ended.2.directory.account " bob").map Account.password) served).symm.trans (by decide)
  refine ⟨page, w', served, success, by decide, overwritten, unset, ?_⟩
  intro keeps
  obtain ⟨account, present, same⟩ := keeps "bob" _ rfl
  rw [present] at overwritten
  have clash : some "Sunflower-42" = some "Str0ng-Passw0rd" := same.symm.trans overwritten
  exact absurd clash (by decide)

end InviteSystem.PasswordTarget
