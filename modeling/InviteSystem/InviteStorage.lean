import InviteSystem.Text
import InviteSystem.Transactions
import Mathlib.Data.List.Nodup

/-!
The invite store: the two tables of `migrations/0001_invites.sql`, the SQL
statements that `InviteRepository` sends to them, and its operations as
transactions of such statements. The keys that SQLite enforces are fields of
`Database`, so that no statement can break them.
-/
namespace InviteSystem.InviteStorage
open InviteSystem.Text InviteSystem.Runs InviteSystem.Transactions

structure InviteRecord where
  id : String
  token_hash : String
  groups_json : String
  created_at : String
  expires_at : String
  consumed_at : Option String
  consumed_by : Option String
  revoked_at : Option String
deriving DecidableEq, Repr

structure InviteEvent where
  id : Nat
  invite_id : String
  event_type : String
  occurred_at : String
  actor : Option String
  metadata_json : Option String
deriving DecidableEq, Repr

/-- The contents of the database file. Rows stand in insertion order, which for
    events is the order of their ids; `sqlite_sequence` is the largest event id
    ever given out. `foreign_keys` is the pragma of the connections: SQLite has
    it off by default, sqlx turns it on, and no result below depends on it. -/
structure Database where
  invites : List InviteRecord
  invite_events : List InviteEvent
  sqlite_sequence : Nat
  foreign_keys : Bool
  idsUnique : (invites.map InviteRecord.id).Nodup
  hashesUnique : (invites.map InviteRecord.token_hash).Nodup
  eventsOrdered : invite_events.Pairwise (·.id < ·.id)
  eventsNumbered : ∀ event ∈ invite_events, event.id ≤ sqlite_sequence
deriving DecidableEq

/-- The tables as the migration leaves them. -/
def migrated (foreign_keys : Bool) : Database where
  invites := []
  invite_events := []
  sqlite_sequence := 0
  foreign_keys := foreign_keys
  idsUnique := List.nodup_nil
  hashesUnique := List.nodup_nil
  eventsOrdered := List.Pairwise.nil
  eventsNumbered := by simp

/-! ### Statements -/

/-- `INSERT INTO invites`: rejected where the id or the token hash is taken. -/
def Database.insert_invite (db : Database) (id token_hash groups_json created_at expires_at : String) :
    Option Database :=
  if fresh : id ∉ db.invites.map InviteRecord.id ∧ token_hash ∉ db.invites.map InviteRecord.token_hash then
    some { db with
      invites := db.invites ++ [⟨id, token_hash, groups_json, created_at, expires_at, none, none, none⟩]
      idsUnique := by
        rw [List.map_append]
        exact List.Nodup.append db.idsUnique (List.nodup_singleton id) (by simpa using fresh.1)
      hashesUnique := by
        rw [List.map_append]
        exact List.Nodup.append db.hashesUnique (List.nodup_singleton token_hash) (by simpa using fresh.2) }
  else none

/-- `INSERT INTO invite_events` with the next id of the autoincrement column. -/
def Database.insert_event (db : Database) (invite_id event_type occurred_at : String)
    (actor metadata_json : Option String) : Option Database :=
  if db.foreign_keys = true ∧ invite_id ∉ db.invites.map InviteRecord.id then none
  else
    some { db with
      invite_events := db.invite_events ++
        [⟨db.sqlite_sequence + 1, invite_id, event_type, occurred_at, actor, metadata_json⟩]
      sqlite_sequence := db.sqlite_sequence + 1
      eventsOrdered := by
        refine List.pairwise_append.mpr ⟨db.eventsOrdered, List.pairwise_singleton _ _, ?_⟩
        intro old member new same
        have bound := db.eventsNumbered old member
        rw [List.mem_singleton.mp same]
        exact Nat.lt_succ_of_le bound
      eventsNumbered := by
        intro event member
        rcases List.mem_append.mp member with old | new
        · have bound := db.eventsNumbered event old
          omega
        · rw [List.mem_singleton.mp new] }

/-- `UPDATE invites SET .. WHERE id = ?` on columns that are no keys. -/
def Database.update_invite (db : Database) (id : String) (change : InviteRecord → InviteRecord)
    (keepsId : ∀ row, (change row).id = row.id) (keepsHash : ∀ row, (change row).token_hash = row.token_hash) :
    Database :=
  { db with
    invites := db.invites.map (fun row => if row.id = id then change row else row)
    idsUnique := by
      have same : InviteRecord.id ∘ (fun row => if row.id = id then change row else row) = InviteRecord.id := by
        funext row
        by_cases hit : row.id = id <;> simp [hit, keepsId]
      rw [List.map_map, same]
      exact db.idsUnique
    hashesUnique := by
      have same : InviteRecord.token_hash ∘ (fun row => if row.id = id then change row else row) =
          InviteRecord.token_hash := by
        funext row
        by_cases hit : row.id = id <;> simp [hit, keepsHash]
      rw [List.map_map, same]
      exact db.hashesUnique }

/-- `DELETE FROM invite_events WHERE ..`. -/
def Database.delete_events (db : Database) (condition : InviteEvent → Bool) : Database :=
  { db with
    invite_events := db.invite_events.filter (fun event => !condition event)
    eventsOrdered := db.eventsOrdered.filter _
    eventsNumbered := fun event member => db.eventsNumbered event (List.mem_filter.mp member).1 }

/-- `DELETE FROM invites WHERE ..`, with `ON DELETE CASCADE` where foreign keys
    are enforced. -/
def Database.delete_invites (db : Database) (condition : InviteRecord → Bool) : Database :=
  let remaining : Database :=
    { db with
      invites := db.invites.filter (fun row => !condition row)
      idsUnique := db.idsUnique.sublist (List.filter_sublist.map _)
      hashesUnique := db.hashesUnique.sublist (List.filter_sublist.map _) }
  if db.foreign_keys = true then
    remaining.delete_events (fun event => db.invites.any (fun row => condition row && row.id == event.invite_id))
  else remaining

/-! ### Operations

`consume_invite` and `revoke_invite` read before they write, and take the write
lock at once (`BEGIN IMMEDIATE`). The other two begin with a plain `BEGIN`, and
take it with their first statement, which writes. -/

def create_invite (id token_hash groups_json created_at expires_at : String) (created_by : Option String) :
    Transaction Database InviteRecord :=
  .statement (·.insert_invite id token_hash groups_json created_at expires_at) fun _ =>
  .statement (·.insert_event id "created" created_at created_by none) fun _ =>
  .fetchOne (fun db => db.invites.find? (fun row => row.id = id)) fun invite =>
  .commit invite

def find_by_token_hash (db : Database) (token_hash : String) : Option InviteRecord :=
  db.invites.find? (fun row => row.token_hash = token_hash)

/-- The row that `consume_invite` selects. -/
def redeemable (token_hash consumed_at : String) (row : InviteRecord) : Bool :=
  row.token_hash = token_hash ∧ row.consumed_at = none ∧ row.revoked_at = none ∧ TextLt consumed_at row.expires_at

def consume_invite (token_hash consumed_at consumed_by : String) : Transaction Database Bool :=
  .query (fun db => db.invites.find? (redeemable token_hash consumed_at)) fun invite =>
  match invite with
  | none => .rollback false
  | some invite =>
    .statement (fun db => some (db.update_invite invite.id
      (fun row => { row with consumed_at := some consumed_at, consumed_by := some consumed_by })
      (fun _ => rfl) (fun _ => rfl))) fun _ =>
    .statement (·.insert_event invite.id "consumed" consumed_at (some consumed_by) none) fun _ =>
    .commit true

def history (db : Database) (invite_id : String) : List InviteEvent :=
  (db.invite_events.filter (fun event => event.invite_id = invite_id)).mergeSort (fun a b => a.id ≤ b.id)

/-- `ORDER BY created_at DESC LIMIT ?`; a negative limit is none. Rows of one
    creation text keep the order in which they were inserted. -/
def list_recent (db : Database) (limit : Int) : List InviteRecord :=
  let rows := db.invites.mergeSort (fun a b => ¬ TextLt a.created_at b.created_at)
  if limit < 0 then rows else rows.take limit.toNat

/-- The row that `revoke_invite` selects. -/
def revocable (id : String) (row : InviteRecord) : Bool :=
  row.id = id ∧ row.consumed_at = none ∧ row.revoked_at = none

def revoke_invite (id revoked_at : String) : Transaction Database Bool :=
  .query (fun db => db.invites.find? (revocable id)) fun invite =>
  match invite with
  | none => .rollback false
  | some invite =>
    .statement (fun db => some (db.update_invite invite.id
      (fun row => { row with revoked_at := some revoked_at }) (fun _ => rfl) (fun _ => rfl))) fun _ =>
    .statement (·.insert_event invite.id "revoked" revoked_at none none) fun _ =>
    .commit true

/-- The condition that both statements of `cleanup_stale` spell out. -/
def stale (cutoff : String) (row : InviteRecord) : Bool :=
  (∃ revoked_at ∈ row.revoked_at, TextLt revoked_at cutoff) ∨
    (row.consumed_at = none ∧ row.revoked_at = none ∧ TextLt row.expires_at cutoff)

def cleanup_stale (cutoff : String) : Transaction Database Nat :=
  .statement (fun db => some (db.delete_events (fun event =>
    (db.invites.filter (stale cutoff)).any (fun row => row.id == event.invite_id)))) fun _ =>
  .query (fun db => db.invites.countP (stale cutoff)) fun rows_affected =>
  .statement (fun db => some (db.delete_invites (stale cutoff))) fun _ =>
  .commit rows_affected

/-! ### What the statements do -/

theorem insert_invite_taken {db : Database} {id token_hash groups_json created_at expires_at : String}
    (taken : id ∈ db.invites.map InviteRecord.id ∨ token_hash ∈ db.invites.map InviteRecord.token_hash) :
    db.insert_invite id token_hash groups_json created_at expires_at = none := by
  unfold Database.insert_invite
  rw [dif_neg]
  rintro ⟨freshId, freshHash⟩
  rcases taken with present | present
  · exact freshId present
  · exact freshHash present

theorem insert_invite_fresh {db : Database} {id token_hash : String} (groups_json created_at expires_at : String)
    (freshId : id ∉ db.invites.map InviteRecord.id) (freshHash : token_hash ∉ db.invites.map InviteRecord.token_hash) :
    ∃ after, db.insert_invite id token_hash groups_json created_at expires_at = some after ∧
      after.invites = db.invites ++ [⟨id, token_hash, groups_json, created_at, expires_at, none, none, none⟩] ∧
      after.invite_events = db.invite_events ∧ after.sqlite_sequence = db.sqlite_sequence := by
  unfold Database.insert_invite
  rw [dif_pos ⟨freshId, freshHash⟩]
  exact ⟨_, rfl, rfl, rfl, rfl⟩

/-- An event of a stored invite is always accepted, and gets the next id. -/
theorem insert_event_stored {db : Database} {invite_id : String} (event_type occurred_at : String)
    (actor metadata_json : Option String) (stored : invite_id ∈ db.invites.map InviteRecord.id) :
    ∃ after, db.insert_event invite_id event_type occurred_at actor metadata_json = some after ∧
      after.invites = db.invites ∧ after.sqlite_sequence = db.sqlite_sequence + 1 ∧
      after.invite_events = db.invite_events ++
        [⟨db.sqlite_sequence + 1, invite_id, event_type, occurred_at, actor, metadata_json⟩] := by
  unfold Database.insert_event
  rw [if_neg (fun refused => refused.2 stored)]
  exact ⟨_, rfl, rfl, rfl, rfl⟩

theorem update_invite_ids (db : Database) (id : String) (change : InviteRecord → InviteRecord)
    (keepsId : ∀ row, (change row).id = row.id) (keepsHash : ∀ row, (change row).token_hash = row.token_hash) :
    (db.update_invite id change keepsId keepsHash).invites.map InviteRecord.id = db.invites.map InviteRecord.id := by
  simp only [Database.update_invite, List.map_map]
  apply List.map_congr_left
  intro row _
  by_cases hit : row.id = id <;> simp [hit, keepsId]

/-- Two stored rows with one id, or with one token hash, are the same row. -/
theorem row_of_id {db : Database} {a b : InviteRecord} (ha : a ∈ db.invites) (hb : b ∈ db.invites)
    (same : a.id = b.id) : a = b := List.inj_on_of_nodup_map db.idsUnique ha hb same
theorem row_of_hash {db : Database} {a b : InviteRecord} (ha : a ∈ db.invites) (hb : b ∈ db.invites)
    (same : a.token_hash = b.token_hash) : a = b := List.inj_on_of_nodup_map db.hashesUnique ha hb same

/-- The rows after an update of one stored row. -/
theorem marked_from {db : Database} {invite : InviteRecord} (selectedStored : invite ∈ db.invites)
    {change : InviteRecord → InviteRecord} {row' : InviteRecord}
    (stored' : row' ∈ db.invites.map (fun row => if row.id = invite.id then change row else row)) :
    row' = change invite ∨ (row' ∈ db.invites ∧ row'.id ≠ invite.id) := by
  obtain ⟨row, stored, rfl⟩ := List.mem_map.mp stored'
  by_cases hit : row.id = invite.id
  · left
    rw [if_pos hit, row_of_id stored selectedStored hit]
  · right
    rw [if_neg hit]
    exact ⟨stored, hit⟩

theorem history_eq (db : Database) (invite_id : String) :
    history db invite_id = db.invite_events.filter (fun event => event.invite_id = invite_id) := by
  apply List.mergeSort_of_pairwise
  refine (db.eventsOrdered.filter _).imp ?_
  intro a b lt
  simpa using Nat.le_of_lt lt

theorem find_by_token_hash_eq_some {db : Database} {token_hash : String} {row : InviteRecord} :
    find_by_token_hash db token_hash = some row ↔ row ∈ db.invites ∧ row.token_hash = token_hash := by
  constructor
  · intro found
    exact ⟨List.mem_of_find?_eq_some found, by simpa using List.find?_some found⟩
  · rintro ⟨stored, rfl⟩
    cases found : find_by_token_hash db row.token_hash with
    | none => simpa using List.find?_eq_none.mp found row stored
    | some other =>
      have same : other.token_hash = row.token_hash := by simpa using List.find?_some found
      rw [row_of_hash (List.mem_of_find?_eq_some found) stored same]

theorem redeemable_iff {token_hash consumed_at : String} {row : InviteRecord} :
    redeemable token_hash consumed_at row = true ↔ row.token_hash = token_hash ∧ row.consumed_at = none ∧
      row.revoked_at = none ∧ TextLt consumed_at row.expires_at := by
  simp [redeemable]

theorem revocable_iff {id : String} {row : InviteRecord} :
    revocable id row = true ↔ row.id = id ∧ row.consumed_at = none ∧ row.revoked_at = none := by
  simp [revocable]

theorem stale_iff {cutoff : String} {row : InviteRecord} :
    stale cutoff row = true ↔ (∃ revoked_at, row.revoked_at = some revoked_at ∧ TextLt revoked_at cutoff) ∨
      (row.consumed_at = none ∧ row.revoked_at = none ∧ TextLt row.expires_at cutoff) := by
  simp [stale]

/-! ### What each operation does

One lemma for each operation says all it can do to a store, alone and without
faults; every later result about the store rests on these four. -/

/-- `create_invite` is refused where the id or the token hash is taken, and
    otherwise adds one row and its first event. -/
theorem create_invite_cases (db : Database) (id token_hash groups_json created_at expires_at : String)
    (created_by : Option String) :
    ((id ∈ db.invites.map InviteRecord.id ∨ token_hash ∈ db.invites.map InviteRecord.token_hash) ∧
      (create_invite id token_hash groups_json created_at expires_at created_by).run db db = (none, db)) ∨
    (id ∉ db.invites.map InviteRecord.id ∧ token_hash ∉ db.invites.map InviteRecord.token_hash ∧
      ∃ after, (create_invite id token_hash groups_json created_at expires_at created_by).run db db =
          (some ⟨id, token_hash, groups_json, created_at, expires_at, none, none, none⟩, after) ∧
        after.invites = db.invites ++ [⟨id, token_hash, groups_json, created_at, expires_at, none, none, none⟩] ∧
        after.invite_events = db.invite_events ++
          [⟨db.sqlite_sequence + 1, id, "created", created_at, created_by, none⟩]) := by
  by_cases taken : id ∈ db.invites.map InviteRecord.id ∨ token_hash ∈ db.invites.map InviteRecord.token_hash
  · left
    exact ⟨taken, by rw [create_invite, run_statement, insert_invite_taken taken]⟩
  · right
    push Not at taken
    obtain ⟨freshId, freshHash⟩ := taken
    obtain ⟨inserted, insertRan, rows, events, sequence⟩ :=
      insert_invite_fresh groups_json created_at expires_at freshId freshHash
    have stored : id ∈ inserted.invites.map InviteRecord.id := by simp [rows]
    obtain ⟨after, eventRan, rows', _, events'⟩ := insert_event_stored "created" created_at created_by none stored
    have noneBefore : db.invites.find? (fun row => row.id = id) = none := by
      apply List.find?_eq_none.mpr
      intro row member same
      exact freshId (List.mem_map.mpr ⟨row, member, by simpa using same⟩)
    have found : after.invites.find? (fun row => row.id = id) =
        some ⟨id, token_hash, groups_json, created_at, expires_at, none, none, none⟩ := by
      rw [rows', rows, List.find?_append, noneBefore]
      simp
    refine ⟨freshId, freshHash, after, ?_, by rw [rows', rows], by rw [events', events, sequence]⟩
    rw [create_invite, run_statement, insertRan]
    simp only [run_statement, eventRan, Transaction.fetchOne, run_query, found, run_commit]

/-- `consume_invite` answers `true` exactly where it finds a redeemable row; it
    then marks that row and appends one event. -/
theorem consume_invite_cases (db : Database) (token_hash consumed_at consumed_by : String) :
    ((∀ row ∈ db.invites, redeemable token_hash consumed_at row = false) ∧
      (consume_invite token_hash consumed_at consumed_by).run db db = (some false, db)) ∨
    (∃ invite ∈ db.invites, redeemable token_hash consumed_at invite = true ∧
      ∃ after, (consume_invite token_hash consumed_at consumed_by).run db db = (some true, after) ∧
        after.invites = db.invites.map (fun row => if row.id = invite.id then
          { row with consumed_at := some consumed_at, consumed_by := some consumed_by } else row) ∧
        after.invite_events = db.invite_events ++
          [⟨db.sqlite_sequence + 1, invite.id, "consumed", consumed_at, some consumed_by, none⟩]) := by
  cases found : db.invites.find? (redeemable token_hash consumed_at) with
  | none =>
    left
    refine ⟨fun row member => by simpa using List.find?_eq_none.mp found row member, ?_⟩
    simp only [consume_invite, run_query, found, run_rollback]
  | some invite =>
    right
    have member := List.mem_of_find?_eq_some found
    refine ⟨invite, member, List.find?_some found, ?_⟩
    set updated := db.update_invite invite.id
      (fun row => { row with consumed_at := some consumed_at, consumed_by := some consumed_by })
      (fun _ => rfl) (fun _ => rfl) with updatedIs
    have stored : invite.id ∈ updated.invites.map InviteRecord.id := by
      rw [updatedIs, update_invite_ids]
      exact List.mem_map_of_mem member
    obtain ⟨after, eventRan, rows, _, events⟩ :=
      insert_event_stored "consumed" consumed_at (some consumed_by) none stored
    refine ⟨after, ?_, rows, events⟩
    simp only [consume_invite, run_query, found, run_statement, ← updatedIs, eventRan, run_commit]

/-- `revoke_invite` answers `true` exactly where it finds a revocable row; it
    then marks that row and appends one event. -/
theorem revoke_invite_cases (db : Database) (id revoked_at : String) :
    ((∀ row ∈ db.invites, revocable id row = false) ∧
      (revoke_invite id revoked_at).run db db = (some false, db)) ∨
    (∃ invite ∈ db.invites, revocable id invite = true ∧
      ∃ after, (revoke_invite id revoked_at).run db db = (some true, after) ∧
        after.invites = db.invites.map (fun row => if row.id = invite.id then
          { row with revoked_at := some revoked_at } else row) ∧
        after.invite_events = db.invite_events ++
          [⟨db.sqlite_sequence + 1, invite.id, "revoked", revoked_at, none, none⟩]) := by
  cases found : db.invites.find? (revocable id) with
  | none =>
    left
    refine ⟨fun row member => by simpa using List.find?_eq_none.mp found row member, ?_⟩
    simp only [revoke_invite, run_query, found, run_rollback]
  | some invite =>
    right
    have member := List.mem_of_find?_eq_some found
    refine ⟨invite, member, List.find?_some found, ?_⟩
    set updated := db.update_invite invite.id (fun row => { row with revoked_at := some revoked_at })
      (fun _ => rfl) (fun _ => rfl) with updatedIs
    have stored : invite.id ∈ updated.invites.map InviteRecord.id := by
      rw [updatedIs, update_invite_ids]
      exact List.mem_map_of_mem member
    obtain ⟨after, eventRan, rows, _, events⟩ := insert_event_stored "revoked" revoked_at none none stored
    refine ⟨after, ?_, rows, events⟩
    simp only [revoke_invite, run_query, found, run_statement, ← updatedIs, eventRan, run_commit]

/-- `cleanup_stale` removes the stale rows and their events. The cascade of the
    second statement finds nothing more to delete: the first one, run on the
    same rows, has already removed those events. -/
theorem cleanup_stale_cases (db : Database) (cutoff : String) :
    ∃ after, (cleanup_stale cutoff).run db db = (some (db.invites.countP (stale cutoff)), after) ∧
      after.invites = db.invites.filter (fun row => !stale cutoff row) ∧
      after.invite_events = db.invite_events.filter (fun event =>
        !db.invites.any (fun row => stale cutoff row && row.id == event.invite_id)) := by
  refine ⟨_, rfl, ?_, ?_⟩
  · simp only [Database.delete_invites]
    split <;> rfl
  · have sameEvents : ∀ event : InviteEvent,
        (db.invites.filter (stale cutoff)).any (fun row => row.id == event.invite_id) =
          db.invites.any (fun row => stale cutoff row && row.id == event.invite_id) := by
      intro event
      rw [List.any_filter]
    simp only [Database.delete_invites]
    split
    · simp only [Database.delete_events, List.filter_filter, sameEvents, Bool.and_self]
    · simp only [Database.delete_events, sameEvents]

/-! ### Calls -/

/-- A call of one of the writing operations, with its arguments. -/
inductive Call
  | create_invite (id token_hash groups_json created_at expires_at : String) (created_by : Option String)
  | consume_invite (token_hash consumed_at consumed_by : String)
  | revoke_invite (id revoked_at : String)
  | cleanup_stale (cutoff : String)
deriving DecidableEq, Repr

/-- What a call returns where it returns `Ok`. -/
inductive Reply
  | invite (record : InviteRecord)
  | flag (value : Bool)
  | rows (count : Nat)
deriving DecidableEq, Repr

def Call.code : Call → Transaction Database Reply
  | .create_invite id token_hash groups_json created_at expires_at created_by =>
    (InviteStorage.create_invite id token_hash groups_json created_at expires_at created_by).map .invite
  | .consume_invite token_hash consumed_at consumed_by =>
    (InviteStorage.consume_invite token_hash consumed_at consumed_by).map .flag
  | .revoke_invite id revoked_at => (InviteStorage.revoke_invite id revoked_at).map .flag
  | .cleanup_stale cutoff => (InviteStorage.cleanup_stale cutoff).map .rows

/-- What a call that is not refused does to the store, and what it answers. -/
inductive Changed (db : Database) : Call → Reply → Database → Prop
  | created {after : Database} {id token_hash groups_json created_at expires_at : String} {created_by : Option String}
      (freshId : id ∉ db.invites.map InviteRecord.id)
      (freshHash : token_hash ∉ db.invites.map InviteRecord.token_hash)
      (rows : after.invites = db.invites ++ [⟨id, token_hash, groups_json, created_at, expires_at, none, none, none⟩])
      (events : after.invite_events = db.invite_events ++
        [⟨db.sqlite_sequence + 1, id, "created", created_at, created_by, none⟩]) :
      Changed db (.create_invite id token_hash groups_json created_at expires_at created_by)
        (.invite ⟨id, token_hash, groups_json, created_at, expires_at, none, none, none⟩) after
  | consumed {after : Database} {token_hash consumed_at consumed_by : String} {invite : InviteRecord}
      (stored : invite ∈ db.invites) (selected : redeemable token_hash consumed_at invite = true)
      (rows : after.invites = db.invites.map (fun row => if row.id = invite.id then
        { row with consumed_at := some consumed_at, consumed_by := some consumed_by } else row))
      (events : after.invite_events = db.invite_events ++
        [⟨db.sqlite_sequence + 1, invite.id, "consumed", consumed_at, some consumed_by, none⟩]) :
      Changed db (.consume_invite token_hash consumed_at consumed_by) (.flag true) after
  | revoked {after : Database} {id revoked_at : String} {invite : InviteRecord}
      (stored : invite ∈ db.invites) (selected : revocable id invite = true)
      (rows : after.invites = db.invites.map (fun row => if row.id = invite.id then
        { row with revoked_at := some revoked_at } else row))
      (events : after.invite_events = db.invite_events ++
        [⟨db.sqlite_sequence + 1, invite.id, "revoked", revoked_at, none, none⟩]) :
      Changed db (.revoke_invite id revoked_at) (.flag true) after
  | cleaned {after : Database} {cutoff : String}
      (rows : after.invites = db.invites.filter (fun row => !stale cutoff row))
      (events : after.invite_events = db.invite_events.filter (fun event =>
        !db.invites.any (fun row => stale cutoff row && row.id == event.invite_id))) :
      Changed db (.cleanup_stale cutoff) (.rows (db.invites.countP (stale cutoff))) after

/-- A call run alone either answers an error or `false` and leaves the store as
    it was, or changes it as `Changed` says. -/
theorem code_cases (db : Database) (call : Call) :
    (((call.code.run db db).1 = none ∨ (call.code.run db db).1 = some (.flag false)) ∧
      (call.code.run db db).2 = db) ∨
    ∃ reply, (call.code.run db db).1 = some reply ∧ Changed db call reply (call.code.run db db).2 := by
  cases call with
  | create_invite id token_hash groups_json created_at expires_at created_by =>
    rw [Call.code, run_map]
    rcases create_invite_cases db id token_hash groups_json created_at expires_at created_by with
      ⟨_, ran⟩ | ⟨freshId, freshHash, after, ran, rows, events⟩
    · left; rw [ran]; exact ⟨.inl rfl, rfl⟩
    · right; rw [ran]; exact ⟨_, rfl, .created freshId freshHash rows events⟩
  | consume_invite token_hash consumed_at consumed_by =>
    rw [Call.code, run_map]
    rcases consume_invite_cases db token_hash consumed_at consumed_by with
      ⟨_, ran⟩ | ⟨invite, stored, selected, after, ran, rows, events⟩
    · left; rw [ran]; exact ⟨.inr rfl, rfl⟩
    · right; rw [ran]; exact ⟨_, rfl, .consumed stored selected rows events⟩
  | revoke_invite id revoked_at =>
    rw [Call.code, run_map]
    rcases revoke_invite_cases db id revoked_at with ⟨_, ran⟩ | ⟨invite, stored, selected, after, ran, rows, events⟩
    · left; rw [ran]; exact ⟨.inr rfl, rfl⟩
    · right; rw [ran]; exact ⟨_, rfl, .revoked stored selected rows events⟩
  | cleanup_stale cutoff =>
    rw [Call.code, run_map]
    obtain ⟨after, ran, rows, events⟩ := cleanup_stale_cases db cutoff
    right; rw [ran]; exact ⟨_, rfl, .cleaned rows events⟩

/-- How a call meets the database: it runs, it fails before its commit, or its
    commit takes effect and is reported as an error. -/
inductive Fault
  | none
  | failed
  | unreported
deriving DecidableEq, Repr

def Fault.perform (fault : Fault) (call : Call) (db : Database) : Option Reply × Database :=
  match fault with
  | .none => call.code.run db db
  | .failed => (Option.none, db)
  | .unreported => (Option.none, (call.code.run db db).2)

theorem perform_atomic (fault : Fault) (call : Call) (db : Database) :
    Atomic Call.code db (call, (fault.perform call db).1) (fault.perform call db).2 := by
  cases fault with
  | none =>
    cases answer : (call.code.run db db).1 with
    | some reply =>
      simp only [Fault.perform, answer]
      exact .done answer
    | none =>
      rcases code_cases db call with ⟨_, same⟩ | ⟨reply, answer', _⟩
      · simp only [Fault.perform, answer, same]
        exact .failed
      · rw [answer] at answer'
        cases answer'
  | failed => exact .failed
  | unreported =>
    cases answer : (call.code.run db db).1 with
    | some reply => exact .unreported answer
    | none =>
      rcases code_cases db call with ⟨_, same⟩ | ⟨reply, answer', _⟩
      · simp only [Fault.perform, same]
        exact .failed
      · rw [answer] at answer'
        cases answer'

/-- The step lemma of the store: what one call of a serial run can do. -/
theorem atomic_cases {db after : Database} {call : Call} {result : Option Reply}
    (step : Atomic Call.code db (call, result) after) :
    (after = db ∧ (result = none ∨ result = some (.flag false))) ∨
    ∃ reply, Changed db call reply after ∧ (result = none ∨ result = some reply) := by
  cases step with
  | failed => exact .inl ⟨rfl, .inl rfl⟩
  | @done _ reply ran =>
    rcases code_cases db call with ⟨answer, same⟩ | ⟨reply', answer, changed⟩
    · left
      rw [ran] at answer
      exact ⟨same, answer⟩
    · right
      rw [ran] at answer
      exact ⟨reply', changed, .inr answer⟩
  | unreported =>
    rcases code_cases db call with ⟨_, same⟩ | ⟨reply', _, changed⟩
    · exact .inl ⟨same, .inl rfl⟩
    · exact .inr ⟨reply', changed, .inl rfl⟩

/-- The stores that some serial run of calls, failed ones included, leaves behind. -/
def Reachable (db : Database) : Prop :=
  ∃ foreign_keys labels, Run (Atomic Call.code) (migrated foreign_keys) labels db

theorem reachable_migrated (foreign_keys : Bool) : Reachable (migrated foreign_keys) := ⟨foreign_keys, [], .stay⟩

theorem reachable_step {db after : Database} {label : Call × Option Reply} (reachable : Reachable db)
    (step : Atomic Call.code db label after) : Reachable after := by
  obtain ⟨foreign_keys, labels, run⟩ := reachable
  exact ⟨foreign_keys, labels ++ [label], run.next step⟩

theorem reachable_code {db : Database} (reachable : Reachable db) (call : Call) :
    Reachable (call.code.run db db).2 := by
  rcases code_cases db call with ⟨_, same⟩ | ⟨reply, answer, _⟩
  · rw [same]; exact reachable
  · exact reachable_step reachable (.done answer)

/-- The store after the calls, one by one and without faults, on the empty tables. -/
def afterCalls (foreign_keys : Bool) (calls : List Call) : Database :=
  calls.foldl (fun db call => (call.code.run db db).2) (migrated foreign_keys)

theorem reachable_afterCalls (foreign_keys : Bool) (calls : List Call) : Reachable (afterCalls foreign_keys calls) := by
  induction calls using List.reverseRecOn with
  | nil => exact reachable_migrated foreign_keys
  | append_singleton calls call ih =>
    rw [afterCalls, List.foldl_append]
    exact reachable_code ih call

/-- What the calls answer behind the others, one by one and without faults. -/
def answers (foreign_keys : Bool) (before : List Call) : List Call → List (Call × Option Reply)
  | [] => []
  | call :: calls =>
    (call, (call.code.run (afterCalls foreign_keys before) (afterCalls foreign_keys before)).1) ::
      answers foreign_keys (before ++ [call]) calls

/-- They run as long as the stores that they leave are within bounds. -/
theorem answers_run {P : Database → Prop} (foreign_keys : Bool) (before calls : List Call)
    (kept : ∀ n < calls.length, P (afterCalls foreign_keys (before ++ calls.take (n + 1)))) :
    Run (Within P (Atomic Call.code)) (afterCalls foreign_keys before) (answers foreign_keys before calls)
      (afterCalls foreign_keys (before ++ calls)) := by
  induction calls generalizing before with
  | nil => simpa [answers] using Run.stay
  | cons call calls ih =>
    have after : afterCalls foreign_keys (before ++ [call]) =
        (call.code.run (afterCalls foreign_keys before) (afterCalls foreign_keys before)).2 := by
      simp [afterCalls, List.foldl_append]
    have first : Within P (Atomic Call.code) (afterCalls foreign_keys before)
        (call, (call.code.run (afterCalls foreign_keys before) (afterCalls foreign_keys before)).1)
        (afterCalls foreign_keys (before ++ [call])) := by
      refine ⟨?_, by simpa using kept 0 (by simp)⟩
      rw [after]
      exact perform_atomic .none call (afterCalls foreign_keys before)
    have later := ih (before ++ [call]) fun n shorter => by simpa using kept (n + 1) (by simpa using shorter)
    rw [List.append_assoc, List.singleton_append] at later
    exact (Run.single first).trans later

/-- The committed states of the server are the reachable stores. -/
theorem reachable_server {foreign_keys : Bool} {labels : List (Option (Call × Option Reply))}
    {srv : Server Database Call Reply} (run : Run (Step Call.code) ⟨migrated foreign_keys, none⟩ labels srv) :
    Reachable srv.committed := ⟨foreign_keys, _, serial_run (writerOk_idle _) run⟩

end InviteSystem.InviteStorage
