import InviteSystem.InviteStorage

/-!
The audit log. In every reachable store the history of an invite tells what its
row records, no more and no less, and every event belongs to a stored invite.
-/
namespace InviteSystem.AuditLog
open InviteSystem.Text InviteSystem.Runs InviteSystem.Transactions InviteSystem.InviteStorage

/-- What an event says about its invite: its type, its time and its actor. -/
def entry (event : InviteEvent) : String × String × Option String := (event.event_type, event.occurred_at, event.actor)

/-- What the log must hold after the creation of an invite. -/
def lifecycle (row : InviteRecord) : List (String × String × Option String) :=
  match row.consumed_at, row.revoked_at with
  | some consumed_at, _ => [("consumed", consumed_at, row.consumed_by)]
  | none, some revoked_at => [("revoked", revoked_at, none)]
  | none, none => []

/-- The columns of one row fit each other. -/
structure RowOk (row : InviteRecord) : Prop where
  exclusive : row.consumed_at = none ∨ row.revoked_at = none
  consumer : row.consumed_by.isSome = row.consumed_at.isSome
  inTime : ∀ consumed_at, row.consumed_at = some consumed_at → TextLt consumed_at row.expires_at

/-- The two tables tell the same story. -/
structure Agrees (db : Database) : Prop where
  owned : ∀ event ∈ db.invite_events, ∃ row ∈ db.invites, row.id = event.invite_id
  rows : ∀ row ∈ db.invites, RowOk row
  told : ∀ row ∈ db.invites, ∃ created_by,
    (history db row.id).map entry = ("created", row.created_at, created_by) :: lifecycle row

theorem agrees_migrated (foreign_keys : Bool) : Agrees (migrated foreign_keys) := by
  refine ⟨?_, ?_, ?_⟩ <;> simp [migrated]

theorem history_append {db after : Database} {event : InviteEvent}
    (events : after.invite_events = db.invite_events ++ [event]) (id : String) :
    history after id = history db id ++ if event.invite_id = id then [event] else [] := by
  rw [history_eq, history_eq, events, List.filter_append]
  by_cases hit : event.invite_id = id <;> simp [hit]

/-- No history without a row: an id that is not stored has no events. -/
theorem history_unstored {db : Database} (agrees : Agrees db) {id : String}
    (unstored : id ∉ db.invites.map InviteRecord.id) : history db id = [] := by
  rw [history_eq, List.filter_eq_nil_iff]
  intro event member same
  obtain ⟨row, stored, rowId⟩ := agrees.owned event member
  have sameId : event.invite_id = id := by simpa using same
  exact unstored (List.mem_map.mpr ⟨row, stored, rowId.trans sameId⟩)

/-- Marking one row with its end and appending the event that says so. -/
private theorem agrees_marked {db after : Database} (agrees : Agrees db) {invite : InviteRecord}
    {mark : InviteRecord → InviteRecord} {event : InviteEvent} (stored : invite ∈ db.invites)
    (rows : after.invites = db.invites.map (fun row => if row.id = invite.id then mark row else row))
    (events : after.invite_events = db.invite_events ++ [event]) (about : event.invite_id = invite.id)
    (sameId : ∀ row, (mark row).id = row.id) (sameStart : ∀ row, (mark row).created_at = row.created_at)
    (ok : RowOk (mark invite)) (unended : lifecycle invite = []) (ended : lifecycle (mark invite) = [entry event]) :
    Agrees after := by
  have cases_row : ∀ row ∈ after.invites, row = mark invite ∨ (row ∈ db.invites ∧ row.id ≠ invite.id) := by
    intro row member
    rw [rows] at member
    exact marked_from stored member
  refine ⟨?_, ?_, ?_⟩
  · intro e member
    rw [events] at member
    have target : ∃ row ∈ db.invites, row.id = e.invite_id := by
      rcases List.mem_append.mp member with old | new
      · exact agrees.owned e old
      · rw [List.mem_singleton.mp new, about]
        exact ⟨invite, stored, rfl⟩
    obtain ⟨row, rowStored, rowId⟩ := target
    refine ⟨if row.id = invite.id then mark row else row, ?_, ?_⟩
    · rw [rows]
      exact List.mem_map.mpr ⟨row, rowStored, rfl⟩
    · by_cases hit : row.id = invite.id <;> simp [hit, sameId, ← rowId]
  · intro row member
    rcases cases_row row member with rfl | ⟨old, _⟩
    · exact ok
    · exact agrees.rows row old
  · intro row member
    rcases cases_row row member with rfl | ⟨old, other⟩
    · obtain ⟨created_by, told⟩ := agrees.told invite stored
      refine ⟨created_by, ?_⟩
      rw [sameId, history_append events, if_pos about, List.map_append, told, unended, ended, sameStart]
      rfl
    · obtain ⟨created_by, told⟩ := agrees.told row old
      refine ⟨created_by, ?_⟩
      rw [history_append events, if_neg (by rw [about]; exact Ne.symm other), List.append_nil, told]

private theorem agrees_created {db after : Database} (agrees : Agrees db)
    {id token_hash groups_json created_at expires_at : String} {created_by : Option String}
    (freshId : id ∉ db.invites.map InviteRecord.id)
    (rows : after.invites = db.invites ++ [⟨id, token_hash, groups_json, created_at, expires_at, none, none, none⟩])
    (events : after.invite_events = db.invite_events ++
      [⟨db.sqlite_sequence + 1, id, "created", created_at, created_by, none⟩]) : Agrees after := by
  refine ⟨?_, ?_, ?_⟩
  · intro event member
    rw [rows]
    rw [events] at member
    rcases List.mem_append.mp member with old | new
    · obtain ⟨row, stored, rowId⟩ := agrees.owned event old
      exact ⟨row, List.mem_append_left _ stored, rowId⟩
    · rw [List.mem_singleton.mp new]
      exact ⟨_, List.mem_append_right _ (List.mem_singleton.mpr rfl), rfl⟩
  · intro row member
    rw [rows] at member
    rcases List.mem_append.mp member with old | new
    · exact agrees.rows row old
    · rw [List.mem_singleton.mp new]
      exact ⟨.inl rfl, rfl, by simp⟩
  · intro row member
    rw [rows] at member
    rcases List.mem_append.mp member with old | new
    · obtain ⟨by_whom, told⟩ := agrees.told row old
      have other : ¬ id = row.id := fun same => freshId (same ▸ List.mem_map_of_mem old)
      refine ⟨by_whom, ?_⟩
      rw [history_append events, if_neg other, List.append_nil, told]
    · rw [List.mem_singleton.mp new]
      refine ⟨created_by, ?_⟩
      rw [history_append events, if_pos rfl, history_unstored agrees freshId]
      rfl

/-- A surviving row keeps all its events, since no removed row shares its id. -/
theorem history_cleaned {db after : Database} {cutoff : String}
    (events : after.invite_events = db.invite_events.filter (fun event =>
      !db.invites.any (fun row => stale cutoff row && row.id == event.invite_id)))
    {row : InviteRecord} (stored : row ∈ db.invites) (kept : stale cutoff row = false) :
    history after row.id = history db row.id := by
  rw [history_eq, history_eq, events, List.filter_filter]
  apply List.filter_congr
  intro event _
  by_cases hit : event.invite_id = row.id
  · have none_stale : db.invites.any (fun r => stale cutoff r && r.id == event.invite_id) = false := by
      rw [List.any_eq_false]
      intro other otherStored both
      simp only [Bool.and_eq_true, beq_iff_eq] at both
      have same := row_of_id otherStored stored (both.2.trans hit)
      rw [same, kept] at both
      exact absurd both.1 (by simp)
    rw [none_stale]
    simp
  · simp [hit]

private theorem agrees_cleaned {db after : Database} (agrees : Agrees db) {cutoff : String}
    (rows : after.invites = db.invites.filter (fun row => !stale cutoff row))
    (events : after.invite_events = db.invite_events.filter (fun event =>
      !db.invites.any (fun row => stale cutoff row && row.id == event.invite_id))) : Agrees after := by
  refine ⟨?_, ?_, ?_⟩
  · intro event member
    rw [events] at member
    obtain ⟨old, notRemoved⟩ := List.mem_filter.mp member
    obtain ⟨row, stored, rowId⟩ := agrees.owned event old
    refine ⟨row, ?_, rowId⟩
    rw [rows, List.mem_filter]
    refine ⟨stored, ?_⟩
    by_contra removed
    have isStale : stale cutoff row = true := by simpa using removed
    have hit : db.invites.any (fun r => stale cutoff r && r.id == event.invite_id) = true :=
      List.any_eq_true.mpr ⟨row, stored, by simp [isStale, rowId]⟩
    rw [hit] at notRemoved
    cases notRemoved
  · intro row member
    rw [rows] at member
    exact agrees.rows row (List.mem_filter.mp member).1
  · intro row member
    rw [rows] at member
    obtain ⟨stored, notStale⟩ := List.mem_filter.mp member
    have kept : stale cutoff row = false := by simpa using notStale
    rw [history_cleaned events stored kept]
    exact agrees.told row stored

private theorem lifecycle_open {row : InviteRecord} (unconsumed : row.consumed_at = none)
    (unrevoked : row.revoked_at = none) : lifecycle row = [] := by
  rw [lifecycle, unconsumed, unrevoked]

/-- Step lemma: no call breaks the agreement. -/
theorem changed_agrees {db after : Database} {call : Call} {reply : Reply} (agrees : Agrees db)
    (changed : Changed db call reply after) : Agrees after := by
  cases changed with
  | created freshId _ rows events => exact agrees_created agrees freshId rows events
  | consumed stored selected rows events =>
    obtain ⟨_, unconsumed, unrevoked, inTime⟩ := redeemable_iff.mp selected
    refine agrees_marked agrees stored rows events rfl (fun _ => rfl) (fun _ => rfl) ?_
      (lifecycle_open unconsumed unrevoked) rfl
    exact ⟨.inr unrevoked, rfl, fun consumed_at same => by cases same; exact inTime⟩
  | @revoked _ _ _ invite stored selected rows events =>
    obtain ⟨_, unconsumed, unrevoked⟩ := revocable_iff.mp selected
    refine agrees_marked agrees stored rows events rfl (fun _ => rfl) (fun _ => rfl) ?_
      (lifecycle_open unconsumed unrevoked) (by simp [lifecycle, unconsumed, entry])
    have before := agrees.rows invite stored
    exact ⟨.inl unconsumed, before.consumer, before.inTime⟩
  | cleaned rows events => exact agrees_cleaned agrees rows events

theorem atomic_agrees {db after : Database} {label : Call × Option Reply} (agrees : Agrees db)
    (step : Atomic Call.code db label after) : Agrees after := by
  rcases atomic_cases step with ⟨rfl, _⟩ | ⟨_, changed, _⟩
  · exact agrees
  · exact changed_agrees agrees changed

theorem reachable_agrees {db : Database} (reachable : Reachable db) : Agrees db := by
  obtain ⟨foreign_keys, labels, run⟩ := reachable
  exact run.invariant (fun _ _ _ agrees step => atomic_agrees agrees step) (agrees_migrated foreign_keys)

/-- Record and log agree in every reachable store: events belong to stored
    invites, and the history of an invite is its creation followed by its
    consumption or its revocation where the row records one, and nothing else. -/
theorem record_and_log_agree (db : Database) (reachable : Reachable db) :
    (∀ event ∈ db.invite_events, ∃ row ∈ db.invites, row.id = event.invite_id) ∧
    ∀ row ∈ db.invites,
      (∃ created_by, (history db row.id).map entry = ("created", row.created_at, created_by) :: lifecycle row) ∧
      (row.consumed_at = none ∨ row.revoked_at = none) ∧
      row.consumed_by.isSome = row.consumed_at.isSome ∧
      ∀ consumed_at, row.consumed_at = some consumed_at → TextLt consumed_at row.expires_at := by
  have agrees := reachable_agrees reachable
  refine ⟨agrees.owned, ?_⟩
  intro row stored
  have ok := agrees.rows row stored
  exact ⟨agrees.told row stored, ok.exclusive, ok.consumer, ok.inTime⟩

/-- The agreement on a store with a consumed row, a revoked row and a refused creation. -/
theorem record_and_log_agree_sample :
    let db := afterCalls true [
      .create_invite "invite-1" "hash-1" "[]" "2026-09-12T10:00:00+00:00" "2026-09-14T10:00:00+00:00" none,
      .create_invite "invite-2" "hash-2" "[]" "2026-09-12T10:30:00+00:00" "2026-09-14T10:30:00+00:00" none,
      .create_invite "invite-3" "hash-1" "[]" "2026-09-12T10:45:00+00:00" "2026-09-14T10:45:00+00:00" none,
      .consume_invite "hash-1" "2026-09-12T11:00:00+00:00" "new-user",
      .revoke_invite "invite-2" "2026-09-12T11:30:00+00:00"]
    db.invites.map (fun row => (row.consumed_at, row.revoked_at)) =
      [(some "2026-09-12T11:00:00+00:00", none), (none, some "2026-09-12T11:30:00+00:00")] ∧
    (∀ event ∈ db.invite_events, ∃ row ∈ db.invites, row.id = event.invite_id) ∧
    ∀ row ∈ db.invites,
      (∃ created_by, (history db row.id).map entry = ("created", row.created_at, created_by) :: lifecycle row) ∧
      (row.consumed_at = none ∨ row.revoked_at = none) ∧
      row.consumed_by.isSome = row.consumed_at.isSome ∧
      ∀ consumed_at, row.consumed_at = some consumed_at → TextLt consumed_at row.expires_at :=
  ⟨by decide, record_and_log_agree _ (reachable_afterCalls true _)⟩

end InviteSystem.AuditLog
