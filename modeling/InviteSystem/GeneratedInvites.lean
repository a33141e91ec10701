import InviteSystem.AdminRoutes

/-!
What a request to generate an invite comes to, once the guard has let it pass: a
message about the form, a panic of the date arithmetic, or a call of
`create_invite` with a page that tells its result. The page and the stored row
tell the same story; the arithmetic has no upper bound.
-/
namespace InviteSystem.GeneratedInvites
open InviteSystem.Calendar InviteSystem.Chrono InviteSystem.Text InviteSystem.Libraries InviteSystem.Tokens
open InviteSystem.Authentication InviteSystem.Transactions InviteSystem.InviteStorage InviteSystem.InviteRoutes InviteSystem.AdminRoutes

/-- The row that a generated invite is stored as. -/
def generatedRow (crates : Crates) (form : GenerateInviteForm) (meets : Surroundings) (expires_at : DateTime) :
    InviteRecord :=
  ⟨meets.uuid, hash_token crates meets.invite.text, crates.groups_to_json form.requested_groups,
    to_rfc3339 meets.utc.time, to_rfc3339 expires_at, none, none, none⟩

section
variable {crates : Crates} {config : AdminConfig} {request : Request} {form : GenerateInviteForm} {meets : Surroundings}
  {app : App}

/-- The ways in which an authorised request ends. -/
inductive Answered (crates : Crates) (form : GenerateInviteForm) (meets : Surroundings) (store : Database) :
    Response → Database → Prop
  | noGroups (empty : form.requested_groups = []) :
    Answered crates form meets store (.generated ⟨"Enter at least one directory group.", none, none⟩) store
  | tooShort (some : form.requested_groups ≠ []) (short : form.expiration_hours.toInt < 1) :
    Answered crates form meets store (.generated ⟨"Expiration must be at least one hour.", none, none⟩) store
  | panic (some : form.requested_groups ≠ []) (enough : 1 ≤ form.expiration_hours.toInt)
      (overflow : form.expires_at meets.utc.time = none) : Answered crates form meets store .panic store
  | refused {store' : Database} (some : form.requested_groups ≠ []) (enough : 1 ≤ form.expiration_hours.toInt)
      {expires_at : DateTime} (sum : form.expires_at meets.utc.time = .some expires_at)
      (unchanged : meets.fault ≠ .unreported → store' = store) :
      Answered crates form meets store (.generated (form.created_page meets.invite none)) store'
  | stored {store' : Database} (some : form.requested_groups ≠ []) (enough : 1 ≤ form.expiration_hours.toInt)
      {expires_at : DateTime} (sum : form.expires_at meets.utc.time = .some expires_at)
      (rows : store'.invites = store.invites ++ [generatedRow crates form meets expires_at]) :
      Answered crates form meets store
        (.generated (form.created_page meets.invite (.some (generatedRow crates form meets expires_at)))) store'

/-- What the repository call of the handler comes to. -/
theorem create_performed (fault : Fault) (id token_hash groups_json created_at expires_at : String) (db : Database) :
    ((fault.perform (.create_invite id token_hash groups_json created_at expires_at none) db).1 = none ∧
      (fault ≠ .unreported →
        (fault.perform (.create_invite id token_hash groups_json created_at expires_at none) db).2 = db)) ∨
    ((fault.perform (.create_invite id token_hash groups_json created_at expires_at none) db).1 =
        some (.invite ⟨id, token_hash, groups_json, created_at, expires_at, none, none, none⟩) ∧
      (fault.perform (.create_invite id token_hash groups_json created_at expires_at none) db).2.invites =
        db.invites ++ [⟨id, token_hash, groups_json, created_at, expires_at, none, none, none⟩]) := by
  cases fault with
  | failed => exact .inl ⟨rfl, fun _ => rfl⟩
  | unreported => exact .inl ⟨rfl, fun reported => absurd rfl reported⟩
  | none =>
    simp only [Fault.perform, Call.code, run_map]
    rcases create_invite_cases db id token_hash groups_json created_at expires_at none with
      ⟨_, ran⟩ | ⟨_, _, after, ran, rows, _⟩
    · rw [ran]
      exact .inl ⟨rfl, fun _ => rfl⟩
    · rw [ran]
      exact .inr ⟨rfl, rows⟩

theorem generate_invite_answered
    (authorised : (require_admin_mutation crates config request form.csrf meets.now app.auth).1 = none) :
    Answered crates form meets app.store (AdminRoutes.generate_invite crates config request form meets app).1
      (AdminRoutes.generate_invite crates config request form meets app).2.store := by
  unfold AdminRoutes.generate_invite
  cases guard : require_admin_mutation crates config request form.csrf meets.now app.auth with
  | mk refusal auth =>
    rw [guard] at authorised
    cases authorised
    dsimp only
    unfold InviteRoutes.generate_invite
    by_cases empty : form.requested_groups = []
    · rw [if_pos empty]
      exact .noGroups empty
    · rw [if_neg empty]
      by_cases short : form.expiration_hours.toInt < 1
      · rw [if_pos short]
        exact .tooShort empty short
      · rw [if_neg short]
        have enough : 1 ≤ form.expiration_hours.toInt := by omega
        cases sum : form.expires_at meets.utc.time with
        | none => exact .panic empty enough sum
        | some expires_at =>
          dsimp only
          have performed := create_performed meets.fault meets.uuid (hash_token crates meets.invite.text)
            (crates.groups_to_json form.requested_groups) (to_rfc3339 meets.utc.time) (to_rfc3339 expires_at) app.store
          cases answer : meets.fault.perform (.create_invite meets.uuid (hash_token crates meets.invite.text)
              (crates.groups_to_json form.requested_groups) (to_rfc3339 meets.utc.time) (to_rfc3339 expires_at) none)
              app.store with
          | mk reply store' =>
            rw [answer] at performed
            rcases performed with ⟨failed, unchanged⟩ | ⟨created, rows⟩
            · cases failed
              exact .refused empty enough sum unchanged
            · cases created
              exact .stored empty enough sum rows

/-! ### The date arithmetic -/

/-- `DateTime::<Utc>::MAX_UTC`: the end of the year 262142. -/
def MAX_UTC : Int := 8210266876799999999999

theorem yearOf_le_iff {day year : Int} : yearOf day ≤ year ↔ day < daysBeforeYear (year + 1) := by
  constructor
  · intro le
    exact lt_of_lt_of_le (yearOf_spec day).2 (daysBeforeYear_mono (by omega))
  · intro before
    by_contra later
    have after := daysBeforeYear_mono (show year + 1 ≤ yearOf day by omega)
    have low := (yearOf_spec day).1
    omega

theorem representable_iff {nanos : Int} (since : 0 ≤ nanos) : Representable nanos ↔ nanos ≤ MAX_UTC := by
  have low : MIN_YEAR ≤ yearOf (dayNumber nanos) := by
    have epoch : yearOf (dayNumber 0) ≤ yearOf (dayNumber nanos) := yearOf_mono (dayNumber_mono since)
    exact le_trans (by decide) epoch
  have last : daysBeforeYear (MAX_YEAR + 1) = 95745765 := by decide
  unfold Representable
  rw [and_iff_right low, yearOf_le_iff, last]
  unfold dayNumber nanosPerDay MAX_UTC
  omega

/-- The sum is represented exactly where it is at most the last instant; the
    limit of `Duration::hours` lies beyond. -/
theorem expires_at_isSome_iff (form : GenerateInviteForm) (now : Reading) (enough : 1 ≤ form.expiration_hours.toInt) :
    (form.expires_at now.time).isSome = true ↔
      now.time.nanos + form.expiration_hours.toInt * 3600000000000 ≤ MAX_UTC := by
  have since := now.sinceEpoch
  unfold GenerateInviteForm.expires_at hours
  by_cases fits : now.time.nanos + form.expiration_hours.toInt * 3600000000000 ≤ MAX_UTC
  · have inRange : -9223372036854775 ≤ form.expiration_hours.toInt * 3600 ∧
        form.expiration_hours.toInt * 3600 ≤ 9223372036854775 := by
      unfold MAX_UTC at fits
      omega
    have sum : Representable (now.time.nanos + form.expiration_hours.toInt * 3600 * 1000000000) := by
      rw [representable_iff (by omega)]
      omega
    simp [inRange, DateTime.add, sum, fits]
  · by_cases inRange : -9223372036854775 ≤ form.expiration_hours.toInt * 3600 ∧
        form.expiration_hours.toInt * 3600 ≤ 9223372036854775
    · have sum : ¬ Representable (now.time.nanos + form.expiration_hours.toInt * 3600 * 1000000000) := by
        rw [representable_iff (by omega)]
        omega
      simp [inRange, DateTime.add, sum, fits]
    · simp [inRange, fits]

/-- The request is refused with a message about its form and stores nothing, or
    the expiry is the sum and the request does not panic. -/
def ExpirationTotal (crates : Crates) (config : AdminConfig) (request : Request) (form : GenerateInviteForm)
    (meets : Surroundings) (app : App) : Prop :=
  ((AdminRoutes.generate_invite crates config request form meets app).1 =
      .generated ⟨"Expiration must be at least one hour.", none, none⟩ ∧
    (AdminRoutes.generate_invite crates config request form meets app).2.store = app.store) ∨
  ∃ seconds expires_at, hours form.expiration_hours.toInt = some seconds ∧
    meets.utc.time.add seconds = some expires_at ∧
    expires_at.nanos = meets.utc.time.nanos + form.expiration_hours.toInt * 3600000000000 ∧
    (AdminRoutes.generate_invite crates config request form meets app).1 ≠ .panic

/-- For an authorised request with a group the expiration arithmetic is total
    exactly where the hours are refused or lead to an instant that chrono has. -/
theorem expiration_total_iff
    (authorised : (require_admin_mutation crates config request form.csrf meets.now app.auth).1 = none)
    (groups : form.requested_groups ≠ []) :
    ExpirationTotal crates config request form meets app ↔ form.expiration_hours.toInt < 1 ∨
      meets.utc.time.nanos + form.expiration_hours.toInt * 3600000000000 ≤ MAX_UTC := by
  have answered := generate_invite_answered authorised
  unfold ExpirationTotal
  generalize (AdminRoutes.generate_invite crates config request form meets app).1 = response at answered ⊢
  generalize (AdminRoutes.generate_invite crates config request form meets app).2.store = store at answered ⊢
  by_cases short : form.expiration_hours.toInt < 1
  · refine iff_of_true ?_ (.inl short)
    cases answered with
    | noGroups empty => exact absurd empty groups
    | tooShort => exact .inl ⟨rfl, rfl⟩
    | panic _ enough => omega
    | refused _ enough => omega
    | stored _ enough => omega
  · have enough : 1 ≤ form.expiration_hours.toInt := by omega
    rw [or_iff_right short, ← expires_at_isSome_iff form meets.utc enough]
    have computed : ∀ expires_at, form.expires_at meets.utc.time = some expires_at → ∃ seconds expires_at,
        hours form.expiration_hours.toInt = some seconds ∧ meets.utc.time.add seconds = some expires_at ∧
        expires_at.nanos = meets.utc.time.nanos + form.expiration_hours.toInt * 3600000000000 := by
      intro expires_at sum
      obtain ⟨seconds, duration, later⟩ := Option.bind_eq_some_iff.mp sum
      exact ⟨seconds, expires_at, duration, later, add_hours duration later⟩
    cases answered with
    | noGroups empty => exact absurd empty groups
    | tooShort _ less => exact absurd less short
    | panic _ _ overflow => simp [overflow]
    | refused _ _ sum =>
      obtain ⟨seconds, expires_at, duration, later, nanos⟩ := computed _ sum
      exact iff_of_true (.inr ⟨seconds, expires_at, duration, later, nanos, by simp⟩) (by rw [sum]; rfl)
    | stored _ _ sum =>
      obtain ⟨seconds, expires_at, duration, later, nanos⟩ := computed _ sum
      exact iff_of_true (.inr ⟨seconds, expires_at, duration, later, nanos, by simp⟩) (by rw [sum]; rfl)

/-! ### The page and the row -/

@[simp] theorem refused_url (form : GenerateInviteForm) (token : Token 32) :
    (form.created_page token none).invite_url = none := rfl
@[simp] theorem created_url (form : GenerateInviteForm) (token : Token 32) (record : InviteRecord) :
    (form.created_page token (some record)).invite_url = some ("/invite?code=" ++ token.text) := rfl
@[simp] theorem created_groups (form : GenerateInviteForm) (token : Token 32) (record : InviteRecord) :
    (form.created_page token (some record)).groups_text = some (String.intercalate ", " form.requested_groups) := rfl

/-- An authorised request that is answered with a page shows a URL exactly where
    it stored an invite, and the invite is the one that the form asks for. -/
theorem generated_page_faithful
    (authorised : (require_admin_mutation crates config request form.csrf meets.now app.auth).1 = none)
    (reported : meets.fault ≠ .unreported)
    (groupsInvert : crates.groups_from_json (crates.groups_to_json form.requested_groups) = some form.requested_groups)
    (createdInverts : crates.parse_datetime (to_rfc3339 meets.utc.time) = some meets.utc.time)
    (expiryInverts : ∀ expires_at, form.expires_at meets.utc.time = some expires_at →
      crates.parse_datetime (to_rfc3339 expires_at) = some expires_at)
    {page : GeneratedPage} {app' : App}
    (answer : AdminRoutes.generate_invite crates config request form meets app = (.generated page, app')) :
    (page.invite_url.isSome = true ↔ ∃ row, app'.store.invites = app.store.invites ++ [row]) ∧
    (page.invite_url = none → app'.store = app.store) ∧
    ∀ url, page.invite_url = some url → ∃ code row created_at expires_at text,
      url = "/invite?code=" ++ code ∧ app'.store.invites = app.store.invites ++ [row] ∧
      row.token_hash = hash_token crates code ∧
      crates.groups_from_json row.groups_json = some (segments ',' form.groups) ∧ segments ',' form.groups ≠ [] ∧
      crates.parse_datetime row.created_at = some created_at ∧
      crates.parse_datetime row.expires_at = some expires_at ∧
      expires_at.nanos - created_at.nanos = form.expiration_hours.toInt * 3600000000000 ∧
      page.groups_text = some text ∧ segments ',' text = segments ',' form.groups := by
  have answered := generate_invite_answered authorised
  rw [answer] at answered
  dsimp only at answered
  generalize app'.store = store' at answered ⊢
  have grows : ∀ row, app.store.invites ≠ app.store.invites ++ [row] := by
    intro row same
    have longer := congrArg List.length same
    simp at longer
  cases answered with
  | noGroups => exact ⟨by simp [grows], fun _ => rfl, by simp⟩
  | tooShort => exact ⟨by simp [grows], fun _ => rfl, by simp⟩
  | refused _ _ _ unchanged =>
    rw [unchanged reported]
    exact ⟨by simp [grows], fun _ => rfl, by simp⟩
  | @stored _ some enough expires_at sum rows =>
    refine ⟨iff_of_true (by simp) ⟨_, rows⟩, by simp, ?_⟩
    intro url shown
    rw [created_url, Option.some_inj] at shown
    have clean : ∀ name ∈ form.requested_groups, ',' ∉ name.toList ∧ trim name = name ∧ name ≠ "" :=
      fun name member => segments_clean member
    obtain ⟨seconds, duration, later⟩ := Option.bind_eq_some_iff.mp sum
    have nanos := add_hours duration later
    exact ⟨meets.invite.text, _, _, _, _, shown.symm, rows, rfl, groupsInvert, some, createdInverts,
      expiryInverts _ sum, by omega, created_groups .., segments_join clean⟩

end

/-! ### A signed-in administrator -/

private def signedIn : SessionTokens :=
  ⟨⟨"pQ7rLw2XzYc9Vn4HbT0sKd8MfJ6gAe1uRi3oPk5mNvBxZqCtSyWhDjGlEaUF7OI2".toList, by decide, List.all_eq_true.mp (by decide)⟩,
    ⟨"a1Zs9Xd8Cf7Vg6Bh5Nj4Mk3Ql2Wo1Ep0RtYuIoPaSdFgHjKlZxCvBnM1Q2w3E4r5".toList, by decide, List.all_eq_true.mp (by decide)⟩⟩

private def freshCode : Token 32 := ⟨"Gm4TzQe7WcLr9XyB2nKvJ6sHdU1fPa8o".toList, by decide, List.all_eq_true.mp (by decide)⟩

/-- 4 May 2026, 07:15:00.25, and 36 hours later. -/
private def monday : Reading := ⟨⟨1777878900250000000, by decide⟩, by decide⟩
private def tuesday : DateTime := ⟨1778008500250000000, by decide⟩

/-- The libraries on what the samples hand to them. -/
private def generatingCrates : Crates where
  sha256 := fun input =>
    if input = bytes signedIn.token.text then
      #v[75, 118, 201, 59, 204, 68, 112, 255, 27, 242, 183, 62, 108, 137, 211, 65, 194, 247, 199, 174, 135, 16, 219, 135,
        224, 99, 181, 59, 197, 177, 21, 48]
    else if input = bytes freshCode.text then
      #v[23, 253, 44, 197, 215, 42, 160, 247, 155, 108, 91, 213, 152, 191, 132, 82, 151, 90, 119, 45, 164, 32, 190, 228,
        215, 147, 168, 182, 130, 251, 59, 172]
    else Vector.replicate 32 0
  parse_datetime := fun text =>
    if text = "2026-05-04T07:15:00.250+00:00" then some monday.time
    else if text = "2026-05-05T19:15:00.250+00:00" then some tuesday
    else none
  groups_to_json := fun groups =>
    if groups = ["staff", "vpn users", "staff"] then "[\"staff\",\"vpn users\",\"staff\"]" else "[]"
  groups_from_json := fun text =>
    if text = "[\"staff\",\"vpn users\",\"staff\"]" then some ["staff", "vpn users", "staff"] else none
  verify_password := fun _ _ => false
  is_uppercase := Char.isUpper
  is_lowercase := Char.isLower
  is_numeric := Char.isDigit
  is_alphanumeric := Char.isAlphanum

private def generatingConfig : AdminConfig := ⟨⟨"admin", ""⟩, "https://join.example.com"⟩

private def generatingForm (expiration_hours : Int64) : GenerateInviteForm :=
  ⟨signedIn.csrf.text, " staff,, vpn users ,staff", expiration_hours⟩

private def generatingRequest (expiration_hours : Int64) : Request where
  headers := [("origin", bytes "https://join.example.com")]
  cookies := fun name => if name = SESSION_COOKIE then some signedIn.token.text else none
  endpoint := .generate_invite (generatingForm expiration_hours)

private def generatingMeets : Surroundings where
  now := from_secs 90
  later := from_secs 90
  utc := monday
  session := signedIn
  challenge := signedIn.csrf
  invite := freshCode
  uuid := "5e0d2f86-1c7b-4b67-9f63-2a4c8d9e0b15"
  verifier := ⟨false, false⟩
  fault := .none

private def generatingApp : App :=
  ⟨(issue_session generatingCrates signedIn (from_secs 30) (.initial 0)).2, migrated false⟩

private theorem generatingAuthorised (expiration_hours : Int64) :
    (require_admin_mutation generatingCrates generatingConfig (generatingRequest expiration_hours)
      (generatingForm expiration_hours).csrf generatingMeets.now generatingApp.auth).1 = none := by
  show (require_admin_mutation generatingCrates generatingConfig
    ⟨[("origin", bytes "https://join.example.com")],
      fun name => if name = SESSION_COOKIE then some signedIn.token.text else none, .admin⟩
    signedIn.csrf.text generatingMeets.now generatingApp.auth).1 = none
  decide

theorem expiration_total_sample :
    ExpirationTotal generatingCrates generatingConfig (generatingRequest 36) (generatingForm 36) generatingMeets
      generatingApp :=
  (expiration_total_iff (generatingAuthorised 36) (by decide)).mpr (.inr (by decide))

/-- The greatest number that the form can carry: the request panics. -/
theorem expiration_overflow : monday.time.year ≤ 9999 ∧ (generatingForm 9223372036854775807).requested_groups ≠ [] ∧
    ¬ ExpirationTotal generatingCrates generatingConfig (generatingRequest 9223372036854775807)
      (generatingForm 9223372036854775807) generatingMeets generatingApp := by
  refine ⟨by decide, by decide, ?_⟩
  rintro (⟨short, _⟩ | ⟨seconds, expires_at, duration, _⟩)
  · revert short
    decide
  · revert duration
    rw [show hours (generatingForm 9223372036854775807).expiration_hours.toInt = none by decide]
    rintro ⟨⟩

/-- An invite for three names, one of them twice. -/
theorem generated_page_faithful_sample : ∃ page app' code row text,
    AdminRoutes.generate_invite generatingCrates generatingConfig (generatingRequest 36) (generatingForm 36)
      generatingMeets generatingApp = (.generated page, app') ∧
    page.invite_url = some ("/invite?code=" ++ code) ∧ app'.store.invites = generatingApp.store.invites ++ [row] ∧
    row.token_hash = hash_token generatingCrates code ∧
    generatingCrates.groups_from_json row.groups_json = some ["staff", "vpn users", "staff"] ∧
    page.groups_text = some text ∧ segments ',' text = ["staff", "vpn users", "staff"] := by
  have expiry : (generatingForm 36).expires_at generatingMeets.utc.time = some tuesday := by decide
  have response : (AdminRoutes.generate_invite generatingCrates generatingConfig (generatingRequest 36)
      (generatingForm 36) generatingMeets generatingApp).1 = .generated
        ⟨"This link expires in 36 hours and can be used once.", some "/invite?code=Gm4TzQe7WcLr9XyB2nKvJ6sHdU1fPa8o",
          some "staff, vpn users, staff"⟩ := by decide
  have inverts : ∀ expires_at, (generatingForm 36).expires_at generatingMeets.utc.time = some expires_at →
      generatingCrates.parse_datetime (to_rfc3339 expires_at) = some expires_at := by
    intro expires_at sum
    rw [expiry] at sum
    cases sum
    decide
  have answer : AdminRoutes.generate_invite generatingCrates generatingConfig (generatingRequest 36)
      (generatingForm 36) generatingMeets generatingApp = (_, _) := Prod.ext response rfl
  obtain ⟨_, _, faithful⟩ := generated_page_faithful (generatingAuthorised 36) (by decide) (by decide) (by decide)
    inverts answer
  obtain ⟨code, row, _, _, text, shown, rows, hash, decoded, _, _, _, _, listed, again⟩ := faithful _ rfl
  have names : segments ',' (generatingForm 36).groups = ["staff", "vpn users", "staff"] := by decide
  rw [names] at decoded again
  exact ⟨_, _, code, row, text, answer, congrArg some shown, rows, hash, decoded, listed, again⟩

end InviteSystem.GeneratedInvites
