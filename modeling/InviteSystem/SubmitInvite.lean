import InviteSystem.InviteRoutes
import InviteSystem.Lldap
import InviteSystem.Validation

/-!
`submit_invite` of `routes.rs`: the redemption of an invitation, as one program
over the directory, the invite store and the clock.
-/
namespace InviteSystem.SubmitInvite
open InviteSystem.Text InviteSystem.Chrono InviteSystem.Libraries InviteSystem.Tokens InviteSystem.InviteStorage
open InviteSystem.InviteRoutes InviteSystem.Programs InviteSystem.Lldap InviteSystem.Validation

structure SubmitInviteForm where
  username : String
  email : String
  first_name : String
  last_name : String
  password : String
deriving DecidableEq, Repr

/-- A request to `POST /invite/submit` from its handler on, past the origin policy
    of topcoat and the decoding of its form: the `code` of the query, and the
    form. A query that `query_params` cannot decode is an error of the framework,
    with which the handler ends before it does anything. -/
structure Submission where
  code : Option String
  form : SubmitInviteForm
deriving DecidableEq, Repr

/-- The parts of the configuration that the handler reads. -/
structure SubmitConfig where
  ldap : LldapConfig
  password_policy : PasswordPolicy

/-- The answer: the form with the values it is filled with, and its messages. -/
structure FormPage where
  code : String
  username : String
  email : String
  first_name : String
  last_name : String
  errors : List String
  success_message : Option String
deriving DecidableEq, Repr

/-- The form as it was submitted, with error messages. -/
def SubmitInviteForm.refused (form : SubmitInviteForm) (code : String) (errors : List String) : Outcome FormPage :=
  .returned ⟨code, form.username, form.email, form.first_name, form.last_name, errors, none⟩

/-- The empty form, with the message of success. -/
def accountCreated : Outcome FormPage := .returned ⟨"", "", "", "", "", [], some "Your account has been created."⟩

/-- The messages of the checks that fail, in their order. -/
def validation_errors (crates : Crates) (policy : PasswordPolicy) (form : SubmitInviteForm) : List String :=
  [validate_username form.username, validate_email form.email,
    validate_password crates form.password policy].filterMap (fun check => match check with
      | .error message => some message
      | .ok _ => none)

theorem validation_errors_eq_nil {crates : Crates} {policy : PasswordPolicy} {form : SubmitInviteForm} :
    validation_errors crates policy form = [] ↔ validate_username form.username = .ok () ∧
      validate_email form.email = .ok () ∧ validate_password crates form.password policy = .ok () := by
  have passed (check : Except String Unit) : (match check with
      | .error message => some message
      | .ok _ => none) = none ↔ check = .ok () := by
    cases check <;> simp
  simp [validation_errors, List.filterMap_eq_nil_iff, passed]

def provisioning_message : LldapError → String
  | .Http _ => "The directory service could not be reached."
  | .Json _ => "The directory service could not be reached."
  | .Graphql _ => "The account could not be created in the directory."

/-- From the provisioned account on: the invite is consumed, or the account is
    deleted again. Every result of the deletion is ignored. -/
def claim_invite (config : SubmitConfig) (form : SubmitInviteForm) (code token_hash : String) : Prog (Outcome FormPage) :=
  .call .utc_now fun (now : Reading) =>
  .call (.consume_invite token_hash (to_rfc3339 now.time) form.username) fun (consumed : Option Bool) =>
  if consumed = some true then .ret accountCreated
  else
    (delete_user_account config.ldap form.username).bind fun _ =>
    .ret (form.refused code ["The invitation could not be marked as used. Please try again."])

/-- From the record of an active invite on. -/
def redeem (crates : Crates) (config : SubmitConfig) (form : SubmitInviteForm) (code token_hash : String)
    (invite_record : InviteRecord) : Prog (Outcome FormPage) :=
  match crates.groups_from_json invite_record.groups_json with
  | none => .ret (form.refused code ["This invitation could not be processed."])
  | some groups =>
    (provision_user config.ldap form.username form.email form.first_name form.last_name form.password groups).bind
      fun provisioned =>
    match provisioned with
    | .panicked => .ret .panicked
    | .returned (.error error) => .ret (form.refused code [provisioning_message error])
    | .returned (.ok _) => claim_invite config form code token_hash

/-- From the lookups on: the invite is looked up and judged. -/
def find_invite (crates : Crates) (config : SubmitConfig) (form : SubmitInviteForm) (code : String) : Prog (Outcome FormPage) :=
  .call (.find_by_token_hash (hash_token crates code)) fun (found : Option (Option InviteRecord)) =>
  match found with
  | some (some invite_record) =>
    .call .utc_now fun (now : Reading) =>
    if invite_is_active crates invite_record now.time = false then
      .ret (form.refused code ["This invitation link is invalid or has expired."])
    else redeem crates config form code (hash_token crates code) invite_record
  | _ => .ret (form.refused code ["This invitation link is invalid or has expired."])

/-- `unwrap_or(false)`: a lookup that fails counts as not found. -/
def found {ε : Type} : Except ε Bool → Bool
  | .ok exists_ => exists_
  | .error _ => false

def submit_invite (crates : Crates) (config : SubmitConfig) (submission : Submission) : Prog (Outcome FormPage) :=
  let form := submission.form
  match submission.code with
  | none => .ret (form.refused "" ["This invitation link is missing its code."])
  | some code =>
    if (trim code).isEmpty then .ret (form.refused "" ["This invitation link is missing its code."])
    else if validation_errors crates config.password_policy form ≠ [] then
      .ret (form.refused code (validation_errors crates config.password_policy form))
    else
      (username_exists config.ldap form.username).bind fun (known : Except LldapError Bool) =>
      if found known then .ret (form.refused code ["That username is already in use."])
      else
        (email_exists config.ldap form.email).bind fun (known : Except LldapError Bool) =>
        if found known then .ret (form.refused code ["That email address is already in use."])
        else find_invite crates config form code

end InviteSystem.SubmitInvite
