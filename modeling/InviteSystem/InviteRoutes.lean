import InviteSystem.InviteStorage
import InviteSystem.Tokens

/-!
The admin's side of `routes.rs`: the status of an invite on the history page,
whether it can still be redeemed, and the handler that generates one, from the
point on where the request is authorised.
-/
namespace InviteSystem.InviteRoutes
open InviteSystem.Chrono InviteSystem.Text InviteSystem.Libraries InviteSystem.Tokens InviteSystem.InviteStorage

def invite_status (crates : Crates) (record : InviteRecord) (now : DateTime) : String :=
  if record.revoked_at.isSome then "Revoked"
  else if record.consumed_at.isSome then "Used"
  else match crates.parse_datetime record.expires_at with
    | some expires_at => if expires_at ≤ now then "Expired" else "Active"
    | none => "Invalid"

def invite_is_active (crates : Crates) (record : InviteRecord) (now : DateTime) : Bool :=
  record.revoked_at.isNone && record.consumed_at.isNone &&
    match crates.parse_datetime record.expires_at with
    | some expires_at => decide (now < expires_at)
    | none => false

theorem invite_is_active_iff {crates : Crates} {record : InviteRecord} {now : DateTime} :
    invite_is_active crates record now = true ↔ record.revoked_at = none ∧ record.consumed_at = none ∧
      ∃ expires_at, crates.parse_datetime record.expires_at = some expires_at ∧ now < expires_at := by
  unfold invite_is_active
  cases crates.parse_datetime record.expires_at <;> simp [and_assoc]

/-- The history page and the redemption form judge an invite alike. -/
theorem invite_status_active_iff {crates : Crates} {record : InviteRecord} {now : DateTime} :
    invite_status crates record now = "Active" ↔ invite_is_active crates record now = true := by
  unfold invite_status invite_is_active
  cases revoked : record.revoked_at with
  | some at_time => simp
  | none =>
    cases consumed : record.consumed_at with
    | some at_time => simp
    | none =>
      cases crates.parse_datetime record.expires_at with
      | none => simp
      | some expires_at =>
        by_cases expired : expires_at ≤ now
        · simp [expired, DateTime.not_lt.mpr expired]
        · have active : now < expires_at := by rwa [← DateTime.not_lt, not_not] at expired
          simp [expired, active]

/-! ### Generating an invite -/

structure GenerateInviteForm where
  csrf : String
  groups : String
  expiration_hours : Int64
deriving DecidableEq

/-- What the answer shows. -/
structure GeneratedPage where
  message : String
  invite_url : Option String
  groups_text : Option String
deriving DecidableEq, Repr

/-- The segments between commas, trimmed, without the blank ones. -/
def GenerateInviteForm.requested_groups (form : GenerateInviteForm) : List String := segments ',' form.groups

/-- `now + Duration::hours(form.expiration_hours)`, `none` where it panics. -/
def GenerateInviteForm.expires_at (form : GenerateInviteForm) (now : DateTime) : Option DateTime :=
  (hours form.expiration_hours.toInt).bind now.add

/-- How the handler goes on: it answers without a repository call, it panics,
    or it calls `create_invite` (with no creator) and answers by its result. -/
inductive Generation
  | answer (page : GeneratedPage)
  | panic
  | create (id token_hash groups_json created_at expires_at : String) (page : Option InviteRecord → GeneratedPage)

/-- The answer by the result of `create_invite`. -/
def GenerateInviteForm.created_page (form : GenerateInviteForm) (token : Token 32) : Option InviteRecord → GeneratedPage
  | none => ⟨"The invitation could not be stored. Try again.", none, none⟩
  | some _ =>
    ⟨"This link expires in " ++ toString form.expiration_hours ++ " hours and can be used once.",
      some ("/invite?code=" ++ token.text), some (String.intercalate ", " form.requested_groups)⟩

def generate_invite (crates : Crates) (form : GenerateInviteForm) (token : Token 32) (id : String) (now : Reading) :
    Generation :=
  if form.requested_groups = [] then .answer ⟨"Enter at least one directory group.", none, none⟩
  else if form.expiration_hours.toInt < 1 then .answer ⟨"Expiration must be at least one hour.", none, none⟩
  else match form.expires_at now.time with
    | none => .panic
    | some expires_at =>
      .create id (hash_token crates token.text) (crates.groups_to_json form.requested_groups)
        (to_rfc3339 now.time) (to_rfc3339 expires_at) (form.created_page token)

theorem generate_invite_eq (crates : Crates) {form : GenerateInviteForm} (token : Token 32) (id : String) {now : Reading}
    {expires_at : DateTime} (some : form.requested_groups ≠ []) (enough : 1 ≤ form.expiration_hours.toInt)
    (sum : form.expires_at now.time = .some expires_at) :
    generate_invite crates form token id now =
      .create id (hash_token crates token.text) (crates.groups_to_json form.requested_groups)
        (to_rfc3339 now.time) (to_rfc3339 expires_at) (form.created_page token) := by
  unfold generate_invite
  rw [if_neg some, if_neg (by omega), sum]

/-- What the handler has made sure of where it stores an invite, and what it stores. -/
theorem generate_invite_create {crates : Crates} {form : GenerateInviteForm} {token : Token 32} {id : String}
    {now : Reading} {id' token_hash groups_json created_at expires_text : String}
    {page : Option InviteRecord → GeneratedPage}
    (stored : generate_invite crates form token id now =
      .create id' token_hash groups_json created_at expires_text page) :
    form.requested_groups ≠ [] ∧ 1 ≤ form.expiration_hours.toInt ∧
      ∃ expires_at, form.expires_at now.time = some expires_at ∧
        expires_at.nanos = now.time.nanos + form.expiration_hours.toInt * 3600000000000 ∧
        id' = id ∧ token_hash = hash_token crates token.text ∧
        groups_json = crates.groups_to_json form.requested_groups ∧
        created_at = to_rfc3339 now.time ∧ expires_text = to_rfc3339 expires_at := by
  unfold generate_invite at stored
  split at stored
  · cases stored
  · next some =>
    split at stored
    · cases stored
    · next enough =>
      split at stored
      · cases stored
      · next expires_at sum =>
        cases stored
        refine ⟨some, by omega, expires_at, sum, ?_, rfl, rfl, rfl, rfl, rfl⟩
        obtain ⟨seconds, duration, later⟩ := Option.bind_eq_some_iff.mp sum
        exact add_hours duration later

end InviteSystem.InviteRoutes
