import InviteSystem.AuditLog

/-!
What the operations of the repository leave alone. An operation that fails at
any of its statements, or answers `false`, leaves both tables as they were; one
that succeeds adds or replaces one row and appends one event. A cleanup removes
the stale rows with their events, and nothing else.
-/
namespace InviteSystem.StoreFrame
open InviteSystem.Text InviteSystem.Runs InviteSystem.Transactions InviteSystem.InviteStorage InviteSystem.AuditLog

/-- One row is replaced where it stands, and one event about it is appended. -/
def Marks (db after : Database) (row marked : InviteRecord) (event : InviteEvent) : Prop :=
  (∃ front back, db.invites = front ++ row :: back ∧ after.invites = front ++ marked :: back) ∧
    event.invite_id = row.id ∧ after.invite_events = db.invite_events ++ [event]

/-- The update by id changes the stored row alone, since no other row has its id. -/
theorem marks_of_update {db after : Database} {invite : InviteRecord} {change : InviteRecord → InviteRecord}
    {event : InviteEvent} (stored : invite ∈ db.invites)
    (rows : after.invites = db.invites.map (fun row => if row.id = invite.id then change row else row))
    (events : after.invite_events = db.invite_events ++ [event]) (about : event.invite_id = invite.id) :
    Marks db after invite (change invite) event := by
  obtain ⟨front, back, split⟩ := List.append_of_mem stored
  have unique := db.idsUnique
  rw [split, List.map_append, List.map_cons, List.nodup_append, List.nodup_cons] at unique
  obtain ⟨_, ⟨notBack, _⟩, apart⟩ := unique
  have keeps : ∀ part : List InviteRecord, (∀ row ∈ part, row.id ≠ invite.id) →
      part.map (fun row => if row.id = invite.id then change row else row) = part := by
    intro part others
    have same : ∀ row ∈ part, (if row.id = invite.id then change row else row) = id row :=
      fun row member => if_neg (others row member)
    rw [List.map_congr_left same, List.map_id]
  have frontKept := keeps front fun row member =>
    apart _ (List.mem_map_of_mem member) _ (List.mem_cons_self ..)
  have backKept := keeps back fun row member same =>
    notBack (List.mem_map.mpr ⟨row, member, same⟩)
  refine ⟨⟨front, back, split, ?_⟩, about, events⟩
  rw [rows, split, List.map_append, List.map_cons, frontKept, backKept, if_pos rfl]

/-- A call that ends with an error or `false` has left the store as it was; any
    other has changed it as the call and its answer say. -/
theorem call_ends_cases {db after : Database} {call : Call} {result : Option Reply}
    (ends : call.code.Ends db db result after) :
    ((result = none ∨ result = some (.flag false)) ∧ after = db) ∨
      ∃ reply, result = some reply ∧ reply ≠ .flag false ∧ Changed db call reply after := by
  rcases ends_cases ends with ⟨failed, same⟩ | ⟨value, answer, ran⟩
  · exact .inl ⟨.inl failed, same⟩
  · have cases := code_cases db call
    rw [ran] at cases
    rcases cases with ⟨none | no, same⟩ | ⟨reply, answer', changed⟩
    · cases none
    · cases no
      exact .inl ⟨.inr answer, same⟩
    · cases answer'
      refine .inr ⟨value, answer, ?_, changed⟩
      rintro rfl
      cases changed

/-- What the answer of an operation says about the two tables. -/
structure Framed (db : Database) (call : Call) (result : Option Reply) (after : Database) : Prop where
  unchanged : result = none ∨ result = some (.flag false) →
    after.invites = db.invites ∧ after.invite_events = db.invite_events
  created : ∀ id token_hash groups_json created_at expires_at created_by,
    call = .create_invite id token_hash groups_json created_at expires_at created_by →
    ∀ record, result = some (.invite record) →
    record = ⟨id, token_hash, groups_json, created_at, expires_at, none, none, none⟩ ∧
      after.invites = db.invites ++ [record] ∧
      ∃ event, event.invite_id = id ∧ after.invite_events = db.invite_events ++ [event]
  consumed : ∀ token_hash consumed_at consumed_by,
    call = .consume_invite token_hash consumed_at consumed_by → result = some (.flag true) →
    ∃ row event, row.token_hash = token_hash ∧ row.consumed_at = none ∧ Marks db after row
      { row with consumed_at := some consumed_at, consumed_by := some consumed_by } event
  revoked : ∀ id revoked_at, call = .revoke_invite id revoked_at → result = some (.flag true) →
    ∃ row event, row.id = id ∧ row.revoked_at = none ∧
      Marks db after row { row with revoked_at := some revoked_at } event

theorem framed_of_ends {db after : Database} {call : Call} {result : Option Reply}
    (ends : call.code.Ends db db result after) : Framed db call result after := by
  rcases call_ends_cases ends with ⟨refused, rfl⟩ | ⟨reply, rfl, accepted, changed⟩
  · refine ⟨fun _ => ⟨rfl, rfl⟩, ?_, ?_, ?_⟩
    · rintro id token_hash groups_json created_at expires_at created_by _ record created
      simp [created] at refused
    · rintro token_hash consumed_at consumed_by _ yes
      simp [yes] at refused
    · rintro id revoked_at _ yes
      simp [yes] at refused
  · refine ⟨fun refused => ?_, ?_, ?_, ?_⟩
    · simp [accepted] at refused
    · rintro id token_hash groups_json created_at expires_at created_by rfl record answer
      cases changed with
      | created freshId freshHash rows events =>
        cases answer
        exact ⟨rfl, rows, _, rfl, events⟩
    · rintro token_hash consumed_at consumed_by rfl _
      cases changed with
      | consumed stored selected rows events =>
        obtain ⟨hash, unconsumed, _⟩ := redeemable_iff.mp selected
        exact ⟨_, _, hash, unconsumed, marks_of_update stored rows events rfl⟩
    · rintro id revoked_at rfl _
      cases changed with
      | revoked stored selected rows events =>
        obtain ⟨sameId, _, unrevoked⟩ := revocable_iff.mp selected
        exact ⟨_, _, sameId, unrevoked, marks_of_update stored rows events rfl⟩

/-- Atomicity and frame of every operation, in every store and wherever a
    statement or the commit fails. -/
theorem atomic_frame (db : Database) (call : Call) {result : Option Reply} {after : Database}
    (ends : call.code.Ends db db result after) :
    (result = none ∨ result = some (.flag false) →
      after.invites = db.invites ∧ after.invite_events = db.invite_events) ∧
    (∀ id token_hash groups_json created_at expires_at created_by,
      call = .create_invite id token_hash groups_json created_at expires_at created_by →
      ∀ record, result = some (.invite record) →
      record = ⟨id, token_hash, groups_json, created_at, expires_at, none, none, none⟩ ∧
        after.invites = db.invites ++ [record] ∧
        ∃ event, event.invite_id = id ∧ after.invite_events = db.invite_events ++ [event]) ∧
    (∀ token_hash consumed_at consumed_by,
      call = .consume_invite token_hash consumed_at consumed_by → result = some (.flag true) →
      ∃ row event, row.token_hash = token_hash ∧ row.consumed_at = none ∧ Marks db after row
        { row with consumed_at := some consumed_at, consumed_by := some consumed_by } event) ∧
    (∀ id revoked_at, call = .revoke_invite id revoked_at → result = some (.flag true) →
      ∃ row event, row.id = id ∧ row.revoked_at = none ∧
        Marks db after row { row with revoked_at := some revoked_at } event) := by
  obtain ⟨unchanged, created, consumed, revoked⟩ := framed_of_ends ends
  exact ⟨unchanged, created, consumed, revoked⟩

/-- Of two invites, the one that is redeemed is marked. -/
theorem atomic_frame_sample :
    let db := afterCalls true [
      .create_invite "invite-1" "hash-1" "[]" "2026-04-06T08:00:00+00:00" "2026-04-08T08:00:00+00:00" none,
      .create_invite "invite-2" "hash-2" "[]" "2026-04-06T08:30:00+00:00" "2026-04-08T08:30:00+00:00" none]
    let call := Call.consume_invite "hash-2" "2026-04-07T12:00:00+00:00" "new-user"
    (call.code.run db db).1 = some (.flag true) ∧
      ∃ row event, row.token_hash = "hash-2" ∧ row.consumed_at = none ∧ Marks db (call.code.run db db).2 row
        { row with consumed_at := some "2026-04-07T12:00:00+00:00", consumed_by := some "new-user" } event := by
  intro db call
  have redeemed : (call.code.run db db).1 = some (.flag true) := by decide
  obtain ⟨_, _, consumed, _⟩ := atomic_frame db call (run_ends (Prod.ext redeemed rfl))
  exact ⟨redeemed, consumed _ _ _ rfl rfl⟩

/-- The same of the operations that return on the server, whatever runs beside
    them; or the commit took effect, and is reported as an error. -/
theorem server_framed {foreign_keys : Bool} {labels : List (Option (Call × Option Reply))}
    {srv srv' : Server Database Call Reply} (reached : Run (Step Call.code) ⟨migrated foreign_keys, none⟩ labels srv)
    {call : Call} {result : Option Reply} (step : Step Call.code srv (some (call, result)) srv') :
    Framed srv.committed call result srv'.committed ∨
      (result = none ∧ ∃ reply, Framed srv.committed call (some reply) srv'.committed) := by
  have inv : WriterOk Call.code srv :=
    reached.invariant (fun _ _ _ inv step => step_writerOk inv step) (writerOk_idle _)
  rcases step_ends inv step with ends | ⟨unreported, reply, ends⟩
  · exact .inl (framed_of_ends ends)
  · exact .inr ⟨unreported, reply, framed_of_ends ends⟩

/-! ### Cleanup -/

/-- The one way in which a cleanup answers: the rows that are stale are gone, and
    the events of those rows. Otherwise it fails and leaves the store alone. -/
theorem cleanup_ends (db : Database) (cutoff : String) :
    ∃ after, (cleanup_stale cutoff).Ends db db (some (db.invites.countP (stale cutoff))) after ∧
      (∀ result after', (cleanup_stale cutoff).Ends db db result after' →
        (result = none ∧ after' = db) ∨ (result = some (db.invites.countP (stale cutoff)) ∧ after' = after)) ∧
      after.invites = db.invites.filter (fun row => !stale cutoff row) ∧
      after.invite_events = db.invite_events.filter (fun event =>
        !db.invites.any (fun row => stale cutoff row && row.id == event.invite_id)) := by
  obtain ⟨after, ran, rows, events⟩ := cleanup_stale_cases db cutoff
  refine ⟨after, run_ends ran, ?_, rows, events⟩
  intro result after' ends
  rcases ends_cases ends with failed | ⟨value, answer, ran'⟩
  · exact .inl failed
  · rw [ran] at ran'
    cases ran'
    exact .inr ⟨answer, rfl⟩

/-- What is stale for a cutoff is stale for a later one. -/
theorem stale_mono {cutoff cutoff' : String} (notLater : ¬ TextLt cutoff cutoff') {row : InviteRecord}
    (isStale : stale cutoff' row = true) : stale cutoff row = true := by
  rw [stale_iff] at isStale ⊢
  rcases isStale with ⟨revoked_at, revoked, early⟩ | ⟨unconsumed, unrevoked, early⟩
  · exact .inl ⟨revoked_at, revoked, early.trans_not_lt notLater⟩
  · exact .inr ⟨unconsumed, unrevoked, early.trans_not_lt notLater⟩

/-- A consumed row is never stale, since it is never revoked as well. -/
theorem consumed_not_stale {db : Database} (agrees : Agrees db) {row : InviteRecord} (stored : row ∈ db.invites)
    (consumed : row.consumed_at ≠ none) (cutoff : String) : stale cutoff row = false := by
  rw [Bool.eq_false_iff]
  intro isStale
  rcases stale_iff.mp isStale with ⟨revoked_at, revoked, _⟩ | ⟨unconsumed, _⟩
  · rcases (agrees.rows row stored).exclusive with unconsumed | unrevoked
    · exact consumed unconsumed
    · rw [unrevoked] at revoked
      cases revoked
  · exact consumed unconsumed

/-- The events that a cleanup removes are those of the rows it removes. -/
theorem cleaned_events {db after : Database} {cutoff : String}
    (removed : ∀ row ∈ db.invites, row ∉ after.invites ↔ stale cutoff row = true)
    (events : after.invite_events = db.invite_events.filter (fun event =>
      !db.invites.any (fun row => stale cutoff row && row.id == event.invite_id)))
    {event : InviteEvent} (stored : event ∈ db.invite_events) :
    event ∉ after.invite_events ↔ ∃ row ∈ db.invites, row ∉ after.invites ∧ row.id = event.invite_id := by
  constructor
  · intro gone
    have hit : db.invites.any (fun row => stale cutoff row && row.id == event.invite_id) = true := by
      simpa [events, stored] using gone
    obtain ⟨row, rowStored, both⟩ := List.any_eq_true.mp hit
    simp only [Bool.and_eq_true, beq_iff_eq] at both
    exact ⟨row, rowStored, (removed row rowStored).mpr both.1, both.2⟩
  · rintro ⟨row, rowStored, gone, about⟩ kept
    have isStale := (removed row rowStored).mp gone
    rw [events, List.mem_filter] at kept
    have hit : db.invites.any (fun row => stale cutoff row && row.id == event.invite_id) = true :=
      List.any_eq_true.mpr ⟨row, rowStored, by simp [isStale, about]⟩
    simp [hit] at kept

/-- A cleanup of a store without stale rows removes nothing. -/
theorem cleanup_idle {db later : Database} {cutoff : String} (fresh : ∀ row ∈ db.invites, stale cutoff row = false)
    {result : Option Nat} (ends : (cleanup_stale cutoff).Ends db db result later) :
    (result = none ∨ result = some 0) ∧ later.invites = db.invites ∧ later.invite_events = db.invite_events := by
  obtain ⟨after, _, only, rows, events⟩ := cleanup_ends db cutoff
  rcases only result later ends with ⟨failed, rfl⟩ | ⟨answer, rfl⟩
  · exact ⟨.inl failed, rfl, rfl⟩
  · refine ⟨.inr ?_, ?_, ?_⟩
    · rw [answer, List.countP_eq_zero.mpr (fun row kept => by simp [fresh row kept])]
    · rw [rows, List.filter_eq_self]
      intro row kept
      simp [fresh row kept]
    · rw [events, List.filter_eq_self]
      intro event _
      rw [Bool.not_eq_true', List.any_eq_false]
      intro row kept
      simp [fresh row kept]

/-- A cleanup of a reachable store that does not fail removes exactly the stale
    invites, with their events; after it an earlier cutoff finds nothing. -/
theorem cleanup_exact (db : Database) (reachable : Reachable db) (cutoff : String) :
    ∃ count after, (cleanup_stale cutoff).Ends db db (some count) after ∧
    (∀ result after', (cleanup_stale cutoff).Ends db db result after' →
      (result = none ∧ after' = db) ∨ (result = some count ∧ after' = after)) ∧
    (∀ row ∈ db.invites, row ∉ after.invites ↔
      (∃ revoked_at, row.revoked_at = some revoked_at ∧ TextLt revoked_at cutoff) ∨
        (row.revoked_at = none ∧ row.consumed_at = none ∧ TextLt row.expires_at cutoff)) ∧
    (∀ row ∈ db.invites, row.consumed_at ≠ none → row ∈ after.invites) ∧
    (∀ event ∈ db.invite_events, event ∉ after.invite_events ↔
      ∃ row ∈ db.invites, row ∉ after.invites ∧ row.id = event.invite_id) ∧
    after.invites.Sublist db.invites ∧ after.invite_events.Sublist db.invite_events ∧
    (∀ row ∈ after.invites, history after row.id = history db row.id) ∧
    count + after.invites.length = db.invites.length ∧
    ∀ cutoff', ¬ TextLt cutoff cutoff' → ∀ result later, (cleanup_stale cutoff').Ends after after result later →
      (result = none ∨ result = some 0) ∧ later.invites = after.invites ∧
        later.invite_events = after.invite_events := by
  obtain ⟨after, ends, only, rows, events⟩ := cleanup_ends db cutoff
  have agrees := reachable_agrees reachable
  have removed : ∀ row ∈ db.invites, row ∉ after.invites ↔ stale cutoff row = true := by
    intro row stored
    simp [rows, stored]
  refine ⟨_, after, ends, only, ?_, ?_, ?_, ?_, ?_, ?_, ?_, ?_⟩
  · intro row stored
    rw [removed row stored, stale_iff]
    simp only [and_left_comm]
  · intro row stored consumed
    by_contra gone
    rw [removed row stored, consumed_not_stale agrees stored consumed] at gone
    cases gone
  · exact fun event stored => cleaned_events removed events stored
  · rw [rows]
    exact List.filter_sublist
  · rw [events]
    exact List.filter_sublist
  · intro row kept
    rw [rows, List.mem_filter] at kept
    exact history_cleaned events kept.1 (by simpa using kept.2)
  · rw [rows, List.countP_eq_length_filter, ← List.length_append]
    exact (List.filter_append_perm (stale cutoff) db.invites).length_eq
  · intro cutoff' notLater result later again
    refine cleanup_idle ?_ again
    intro row kept
    rw [Bool.eq_false_iff]
    intro isStale
    have gone := stale_mono notLater isStale
    rw [rows, List.mem_filter, gone] at kept
    simp at kept

/-- Five invites and one cutoff: the expired one and the one revoked long ago go,
    with three events, and the consumed one stays, however old. -/
theorem cleanup_exact_sample :
    let db := afterCalls true [
      .create_invite "active" "hash-1" "[]" "2026-01-05T08:00:00+00:00" "2026-12-05T08:00:00+00:00" none,
      .create_invite "expired" "hash-2" "[]" "2026-01-05T08:00:00+00:00" "2026-01-06T08:00:00+00:00" none,
      .create_invite "consumed" "hash-3" "[]" "2026-01-05T08:00:00+00:00" "2026-01-07T08:00:00+00:00" none,
      .create_invite "revoked" "hash-4" "[]" "2026-01-05T08:00:00+00:00" "2026-01-08T08:00:00+00:00" none,
      .create_invite "late" "hash-5" "[]" "2026-01-05T08:00:00+00:00" "2026-01-09T08:00:00+00:00" none,
      .consume_invite "hash-3" "2026-01-06T12:00:00+00:00" "new-user",
      .revoke_invite "revoked" "2026-01-05T12:00:00+00:00",
      .revoke_invite "late" "2026-09-05T12:00:00+00:00"]
    ∃ after, (cleanup_stale "2026-06-01T00:00:00+00:00").Ends db db (some 2) after ∧
      after.invites.map InviteRecord.id = ["active", "consumed", "late"] ∧
      (∀ row ∈ db.invites, row.id = "expired" ∨ row.id = "revoked" → row ∉ after.invites) ∧
      db.invite_events.length = 8 ∧ after.invite_events.length = 5 ∧
      (∀ row ∈ db.invites, row.consumed_at ≠ none → row ∈ after.invites) ∧
      (∀ row ∈ after.invites, history after row.id = history db row.id) ∧
      ∀ result later, (cleanup_stale "2026-06-01T00:00:00+00:00").Ends after after result later →
        later.invites = after.invites := by
  intro db
  obtain ⟨count, after, ends, only, removed, consumed, _, _, _, histories, _, again⟩ :=
    cleanup_exact db (reachable_afterCalls true _) "2026-06-01T00:00:00+00:00"
  have ran : ((cleanup_stale "2026-06-01T00:00:00+00:00").run db db).1 = some 2 := by decide
  obtain ⟨failed, _⟩ | ⟨two, same⟩ := only _ _ (run_ends (Prod.ext ran rfl))
  · cases failed
  cases two
  subst same
  refine ⟨_, ends, by decide, ?_, by decide, by decide, consumed, histories,
    fun result later ends => (again _ (textLt_irrefl _) result later ends).2.1⟩
  intro row stored named
  have stale : ∀ row ∈ db.invites, row.id = "expired" ∨ row.id = "revoked" → stale "2026-06-01T00:00:00+00:00" row = true := by
    decide
  rw [removed row stored, ← and_left_comm, ← stale_iff]
  exact stale row stored named

end InviteSystem.StoreFrame
