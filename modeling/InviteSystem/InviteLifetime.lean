import InviteSystem.InviteRoutes

/-!
The lifetime of an invite. Three places judge whether an invite is alive: the
handlers compare parsed instants, `consume_invite` and `cleanup_stale` compare
RFC 3339 texts byte by byte. They agree for every expiry that is printed with a
year of four digits, and for no later one.
-/
namespace InviteSystem.InviteLifetime
open InviteSystem.Chrono InviteSystem.Text InviteSystem.Transactions InviteSystem.Libraries InviteSystem.Tokens
open InviteSystem.InviteStorage InviteSystem.InviteRoutes

/-- A live row is redeemed exactly where the clock text is below the expiry text. -/
theorem consume_live_iff {db : Database} {row : InviteRecord} (stored : row ∈ db.invites)
    (unconsumed : row.consumed_at = none) (unrevoked : row.revoked_at = none) (consumed_at consumed_by : String) :
    ((consume_invite row.token_hash consumed_at consumed_by).run db db).1 = some true ↔
      TextLt consumed_at row.expires_at := by
  rcases consume_invite_cases db row.token_hash consumed_at consumed_by with
    ⟨none, ran⟩ | ⟨invite, member, selected, after, ran, _⟩
  · rw [ran]
    have notSelected : ¬ redeemable row.token_hash consumed_at row = true := by simp [none row stored]
    rw [redeemable_iff] at notSelected
    simpa [unconsumed, unrevoked] using notSelected
  · rw [ran]
    obtain ⟨sameHash, _, _, before⟩ := redeemable_iff.mp selected
    rw [row_of_hash member stored sameHash] at before
    simpa using before

/-- A live row survives a cleanup unless its expiry text is below the cutoff. -/
theorem cleanup_live_iff {db : Database} {row : InviteRecord} (stored : row ∈ db.invites)
    (unconsumed : row.consumed_at = none) (unrevoked : row.revoked_at = none) (cutoff : String) :
    row ∈ ((cleanup_stale cutoff).run db db).2.invites ↔ ¬ TextLt row.expires_at cutoff := by
  obtain ⟨after, ran, rows, _⟩ := cleanup_stale_cases db cutoff
  have staleIff : stale cutoff row = true ↔ TextLt row.expires_at cutoff := by
    simp [stale_iff, unconsumed, unrevoked]
  rw [ran, rows, List.mem_filter, ← staleIff]
  simp [stored]

/-- A row with these instants is judged alike by the handlers, by
    `consume_invite` and by `cleanup_stale`, in every store it is in and at
    every later reading of the clock. -/
def JudgesAgree (crates : Crates) (row : InviteRecord) (created expires : DateTime) : Prop :=
  ∀ db, Reachable db → row ∈ db.invites → ∀ now, created ≤ now → now.year ≤ 9999 →
    (invite_is_active crates row now = true ↔ now < expires) ∧
    (∀ consumed_by, ((consume_invite row.token_hash (to_rfc3339 now) consumed_by).run db db).1 = some true ↔
      now < expires) ∧
    (invite_is_active crates row now = true → ∀ cutoff ≤ now,
      row ∈ ((cleanup_stale (to_rfc3339 cutoff)).run db db).2.invites)

section
variable {crates : Crates} {row : InviteRecord} {created expires : DateTime}

theorem active_live_iff (unconsumed : row.consumed_at = none) (unrevoked : row.revoked_at = none)
    (text : row.expires_at = to_rfc3339 expires) (inverts : crates.parse_datetime (to_rfc3339 expires) = some expires)
    (now : DateTime) : invite_is_active crates row now = true ↔ now < expires := by
  rw [invite_is_active_iff, text, inverts]
  simp [unconsumed, unrevoked]

theorem judges_agree (unconsumed : row.consumed_at = none) (unrevoked : row.revoked_at = none)
    (text : row.expires_at = to_rfc3339 expires) (inverts : crates.parse_datetime (to_rfc3339 expires) = some expires)
    (since : 0 ≤ created.year) (plain : expires.FourDigitYear) : JudgesAgree crates row created expires := by
  intro db _ stored now later limit
  have active := active_live_iff unconsumed unrevoked text inverts now
  have plainNow : now.FourDigitYear := ⟨since.trans (DateTime.year_mono later), limit⟩
  refine ⟨active, ?_, ?_⟩
  · intro consumed_by
    rw [consume_live_iff stored unconsumed unrevoked, text, rfc3339_lt_iff plainNow plain]
  · intro alive cutoff earlier
    rw [cleanup_live_iff stored unconsumed unrevoked, text]
    by_cases plainCutoff : cutoff.FourDigitYear
    · rw [rfc3339_lt_iff plain plainCutoff]
      intro past
      have before := active.mp alive
      rw [DateTime.lt_def] at past before
      rw [DateTime.le_def] at earlier
      omega
    · -- a cutoff before year 0 is printed with a sign, and sorts before every expiry
      exact (rfc3339_signed_lt plainCutoff plain).asymm

/-- A signed expiry sorts before every reading of the clock: the invite cannot
    be redeemed, and the first cleanup deletes it. -/
theorem signed_expiry_dead (unconsumed : row.consumed_at = none) (unrevoked : row.revoked_at = none)
    (text : row.expires_at = to_rfc3339 expires) {db : Database} (stored : row ∈ db.invites)
    (signed : ¬ expires.FourDigitYear) {now : DateTime} (plain : now.FourDigitYear) :
    (∀ consumed_by, ((consume_invite row.token_hash (to_rfc3339 now) consumed_by).run db db).1 ≠ some true) ∧
      row ∉ ((cleanup_stale (to_rfc3339 now)).run db db).2.invites := by
  have before := rfc3339_signed_lt signed plain
  constructor
  · intro consumed_by taken
    rw [consume_live_iff stored unconsumed unrevoked, text] at taken
    exact taken.asymm before
  · rw [cleanup_live_iff stored unconsumed unrevoked, text, not_not]
    exact before

theorem judges_disagree (unconsumed : row.consumed_at = none) (unrevoked : row.revoked_at = none)
    (text : row.expires_at = to_rfc3339 expires) {db : Database} (reachable : Reachable db) (stored : row ∈ db.invites)
    (later : created < expires) (plain : created.FourDigitYear) (signed : ¬ expires.FourDigitYear) :
    ¬ JudgesAgree crates row created expires := by
  intro agree
  obtain ⟨_, redeemed, _⟩ := agree db reachable stored created (Int.le_refl _) plain.2
  exact (signed_expiry_dead unconsumed unrevoked text stored signed plain).1 "" ((redeemed "").mpr later)

end

/-- A reading of the clock has no negative year. -/
theorem reading_year (now : Reading) : 0 ≤ now.time.year := by
  have epoch := DateTime.year_mono (show (⟨0, by decide⟩ : DateTime) ≤ now.time from now.sinceEpoch)
  exact le_trans (by decide) epoch

/-- The judges of a generated invite agree exactly where its expiry falls in a
    year up to 9999. -/
theorem generated_judges_agree_iff (crates : Crates) (form : GenerateInviteForm) (token : Token 32) (id : String)
    (now : Reading) (expires : DateTime) {id' token_hash groups_json created_at expires_at : String}
    {page : Option InviteRecord → GeneratedPage}
    (stored : generate_invite crates form token id now =
      .create id' token_hash groups_json created_at expires_at page)
    (sum : form.expires_at now.time = some expires)
    (inverts : crates.parse_datetime (to_rfc3339 expires) = some expires) :
    JudgesAgree crates ⟨id', token_hash, groups_json, created_at, expires_at, none, none, none⟩ now.time expires ↔
      (now.time.year ≤ 9999 → expires.year ≤ 9999) := by
  obtain ⟨_, enough, expires', sum', nanos, rfl, rfl, rfl, rfl, rfl⟩ := generate_invite_create stored
  cases sum.symm.trans sum'
  have later : now.time < expires := by
    rw [DateTime.lt_def]
    omega
  have since := reading_year now
  have sinceToo := since.trans (DateTime.year_mono (Int.le_of_lt later))
  constructor
  · intro agree limit
    by_contra far
    have reachable := reachable_afterCalls true [.create_invite id' (hash_token crates token.text)
      (crates.groups_to_json form.requested_groups) (to_rfc3339 now.time) (to_rfc3339 expires) none]
    refine judges_disagree rfl rfl rfl reachable ?_ later ⟨since, limit⟩ (fun plain => far plain.2) agree
    rcases create_invite_cases (migrated true) id' (hash_token crates token.text)
      (crates.groups_to_json form.requested_groups) (to_rfc3339 now.time) (to_rfc3339 expires) none with
      ⟨taken, _⟩ | ⟨_, _, after, ran, rows, _⟩
    · simp [migrated] at taken
    · simp only [afterCalls, List.foldl_cons, List.foldl_nil, Call.code, run_map, ran]
      rw [rows]
      exact List.mem_append_right _ (List.mem_singleton_self _)
  · intro near
    by_cases limit : now.time.year ≤ 9999
    · exact judges_agree rfl rfl rfl inverts since ⟨sinceToo, near limit⟩
    · -- no reading of the clock is left to judge it by
      intro db _ _ later' after bound
      exact absurd ((DateTime.year_mono after).trans bound) limit

/-! ### Two generated invites -/

private def sampleToken : Token 32 := ⟨"kT3vQx8LmZ1pR7sWc5NdYb2JhGf9UeA0".toList, by decide, List.all_eq_true.mp (by decide)⟩

/-- 1 March 2026, 09:30:00.5 -/
private def sampleNow : Reading := ⟨⟨1772357400500000000, by decide⟩, by decide⟩

/-- 24 hours and 80 million hours later. -/
private def nextDay : DateTime := ⟨1772443800500000000, by decide⟩
private def farFuture : DateTime := ⟨289772357400500000000, by decide⟩

private def sampleForm (expiration_hours : Int64) : GenerateInviteForm := ⟨"", "staff, vpn", expiration_hours⟩

/-- The libraries on what the two samples hand to them. -/
private def sampleCrates : Crates where
  sha256 := fun input => if input = bytes sampleToken.text then
    #v[213, 35, 144, 100, 149, 124, 42, 124, 223, 59, 53, 235, 28, 91, 181, 49, 213, 247, 171, 96, 16, 57, 61, 253, 141, 149, 105, 1, 28, 209, 47, 43] else Vector.replicate 32 0
  parse_datetime := fun text =>
    if text = "2026-03-02T09:30:00.500+00:00" then some nextDay
    else if text = "+11152-07-09T17:30:00.500+00:00" then some farFuture
    else none
  groups_to_json := fun groups => if groups = ["staff", "vpn"] then "[\"staff\",\"vpn\"]" else "[]"
  groups_from_json := fun text => if text = "[\"staff\",\"vpn\"]" then some ["staff", "vpn"] else none
  verify_password := fun _ _ => false
  is_uppercase := Char.isUpper
  is_lowercase := Char.isLower
  is_numeric := Char.isDigit
  is_alphanumeric := Char.isAlphanum

private def sampleId : String := "2c0b6f0e-3d0c-4a36-9a0e-7b0c3cf0a1de"

private def sampleRow (expires_at : String) : InviteRecord where
  id := sampleId
  token_hash := "d5239064957c2a7cdf3b35eb1c5bb531d5f7ab6010393dfd8d9569011cd12f2b"
  groups_json := "[\"staff\",\"vpn\"]"
  created_at := "2026-03-01T09:30:00.500+00:00"
  expires_at := expires_at
  consumed_at := none
  consumed_by := none
  revoked_at := none

theorem generated_judges_agree_sample :
    JudgesAgree sampleCrates (sampleRow "2026-03-02T09:30:00.500+00:00") sampleNow.time nextDay := by
  have sum : (sampleForm 24).expires_at sampleNow.time = some nextDay := by decide
  have agree := (generated_judges_agree_iff sampleCrates (sampleForm 24) sampleToken sampleId sampleNow nextDay
    (generate_invite_eq sampleCrates sampleToken sampleId (by decide) (by decide) sum) sum (by decide)).mpr (by decide)
  have row : (⟨sampleId, hash_token sampleCrates sampleToken.text,
      sampleCrates.groups_to_json (sampleForm 24).requested_groups, to_rfc3339 sampleNow.time, to_rfc3339 nextDay,
      none, none, none⟩ : InviteRecord) = sampleRow "2026-03-02T09:30:00.500+00:00" := by decide
  rw [← row]
  exact agree

/-- 80 million hours are accepted. -/
theorem far_future_disagree :
    (∃ id token_hash groups_json created_at expires_at page,
      generate_invite sampleCrates (sampleForm 80000000) sampleToken sampleId sampleNow =
          .create id token_hash groups_json created_at expires_at page ∧
        (⟨id, token_hash, groups_json, created_at, expires_at, none, none, none⟩ : InviteRecord) =
          sampleRow "+11152-07-09T17:30:00.500+00:00") ∧
      ¬ JudgesAgree sampleCrates (sampleRow "+11152-07-09T17:30:00.500+00:00") sampleNow.time farFuture := by
  have sum : (sampleForm 80000000).expires_at sampleNow.time = some farFuture := by decide
  refine ⟨⟨_, _, _, _, _, _, generate_invite_eq sampleCrates sampleToken sampleId (by decide) (by decide) sum,
    by decide⟩, ?_⟩
  have reachable := reachable_afterCalls true [.create_invite sampleId
    "d5239064957c2a7cdf3b35eb1c5bb531d5f7ab6010393dfd8d9569011cd12f2b" "[\"staff\",\"vpn\"]"
    "2026-03-01T09:30:00.500+00:00" "+11152-07-09T17:30:00.500+00:00" none]
  exact judges_disagree rfl rfl (by decide) reachable (by decide) (by decide) (by decide) (by decide)

end InviteSystem.InviteLifetime
