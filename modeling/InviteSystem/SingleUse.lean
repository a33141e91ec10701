import InviteSystem.InviteStorage

/-!
Single use. Whatever calls run side by side, a stored invite is ended once, by a
consumption or by a revocation; a token hash that has been consumed is spent for
good; and a revoked row is never consumed.
-/
namespace InviteSystem.SingleUse
open InviteSystem.Text InviteSystem.Runs InviteSystem.Transactions InviteSystem.InviteStorage

/-- The call is a `consume_invite` or `revoke_invite` aimed at the row. -/
def Aimed (row : InviteRecord) : Call → Prop
  | .consume_invite token_hash _ _ => token_hash = row.token_hash
  | .revoke_invite id _ => id = row.id
  | _ => False

instance (row : InviteRecord) (call : Call) : Decidable (Aimed row call) := by
  cases call <;> unfold Aimed <;> infer_instance

/-- A call aimed at the row that returns `Ok(true)`. -/
def hits (row : InviteRecord) (label : Call × Option Reply) : Bool :=
  Aimed row label.1 ∧ label.2 = some (.flag true)

/-- A row with this id is stored. -/
def Stored (id : String) (db : Database) : Prop := ∃ row ∈ db.invites, row.id = id

/-- The row is consumed or revoked. -/
def Ended (row : InviteRecord) : Prop := row.consumed_at ≠ none ∨ row.revoked_at ≠ none

/-- A consumed row with this token hash is stored. -/
def Spent (token_hash : String) (db : Database) : Prop :=
  ∃ row ∈ db.invites, row.token_hash = token_hash ∧ row.consumed_at ≠ none ∧ row.revoked_at = none

/-- What one change makes of a row that it does not remove: the keys stay, an
    ended row stays as it is, and a call that hits the row ends it. -/
theorem changed_row {db after : Database} {call : Call} {reply : Reply} (changed : Changed db call reply after)
    {row : InviteRecord} (stored : row ∈ db.invites) {row' : InviteRecord} (stored' : row' ∈ after.invites)
    (same : row'.id = row.id) :
    row'.token_hash = row.token_hash ∧ (Ended row → row' = row ∧ hits row (call, some reply) = false) ∧
      (hits row (call, some reply) = true → Ended row') := by
  cases changed with
  | created freshId _ rows _ =>
    have old : row' = row := by
      rw [rows] at stored'
      rcases List.mem_append.mp stored' with old | new
      · exact row_of_id old stored same
      · rw [List.mem_singleton.mp new] at same
        exact absurd (List.mem_map.mpr ⟨row, stored, same.symm⟩) freshId
    subst old
    exact ⟨rfl, fun _ => ⟨rfl, by simp [hits]⟩, by simp [hits]⟩
  | @consumed _ token_hash consumed_at consumed_by invite selectedStored selected rows _ =>
    obtain ⟨hash, unconsumed, unrevoked, _⟩ := redeemable_iff.mp selected
    rw [rows] at stored'
    rcases marked_from selectedStored stored' with rfl | ⟨old, other⟩
    · cases row_of_id selectedStored stored same
      refine ⟨rfl, ?_, fun _ => .inl (by simp)⟩
      rintro (ended | ended)
      · exact absurd unconsumed ended
      · exact absurd unrevoked ended
    · cases row_of_id old stored same
      have missed : ¬ Aimed row (.consume_invite token_hash consumed_at consumed_by) := fun aimed =>
        other (congrArg InviteRecord.id (row_of_hash old selectedStored (aimed.symm.trans hash.symm)))
      exact ⟨rfl, fun _ => ⟨rfl, by simp [hits, missed]⟩, by simp [hits, missed]⟩
  | @revoked _ id revoked_at invite selectedStored selected rows _ =>
    obtain ⟨sameId, unconsumed, unrevoked⟩ := revocable_iff.mp selected
    rw [rows] at stored'
    rcases marked_from selectedStored stored' with rfl | ⟨old, other⟩
    · cases row_of_id selectedStored stored same
      refine ⟨rfl, ?_, fun _ => .inr (by simp)⟩
      rintro (ended | ended)
      · exact absurd unconsumed ended
      · exact absurd unrevoked ended
    · cases row_of_id old stored same
      have missed : ¬ Aimed row (.revoke_invite id revoked_at) := fun aimed => other (aimed.symm.trans sameId.symm)
      exact ⟨rfl, fun _ => ⟨rfl, by simp [hits, missed]⟩, by simp [hits, missed]⟩
  | cleaned rows _ =>
    have old : row' = row := by
      rw [rows] at stored'
      exact row_of_id (List.mem_filter.mp stored').1 stored same
    subst old
    exact ⟨rfl, fun _ => ⟨rfl, by simp [hits, Aimed]⟩, by simp [hits, Aimed]⟩

/-- Every row after a change was there before, under the same keys and with the
    same groups, or has just been created. -/
theorem changed_from {db after : Database} {call : Call} {reply : Reply} (changed : Changed db call reply after)
    {row' : InviteRecord} (stored' : row' ∈ after.invites) :
    (∃ row ∈ db.invites, row.id = row'.id ∧ row.token_hash = row'.token_hash ∧ row.groups_json = row'.groups_json) ∨
      ∃ id created_at expires_at created_by,
        call = .create_invite id row'.token_hash row'.groups_json created_at expires_at created_by := by
  cases changed with
  | created _ _ rows _ =>
    rw [rows] at stored'
    rcases List.mem_append.mp stored' with old | new
    · exact .inl ⟨row', old, rfl, rfl, rfl⟩
    · rw [List.mem_singleton.mp new]
      exact .inr ⟨_, _, _, _, rfl⟩
  | @consumed _ _ _ _ invite selectedStored _ rows _ =>
    rw [rows] at stored'
    rcases marked_from selectedStored stored' with rfl | ⟨old, _⟩
    · exact .inl ⟨invite, selectedStored, rfl, rfl, rfl⟩
    · exact .inl ⟨row', old, rfl, rfl, rfl⟩
  | @revoked _ _ _ invite selectedStored _ rows _ =>
    rw [rows] at stored'
    rcases marked_from selectedStored stored' with rfl | ⟨old, _⟩
    · exact .inl ⟨invite, selectedStored, rfl, rfl, rfl⟩
    · exact .inl ⟨row', old, rfl, rfl, rfl⟩
  | cleaned rows _ =>
    rw [rows] at stored'
    exact .inl ⟨row', (List.mem_filter.mp stored').1, rfl, rfl, rfl⟩

/-- Step lemma for one row, over serial calls. -/
theorem atomic_row {db after : Database} {label : Call × Option Reply} (step : Atomic Call.code db label after)
    {row : InviteRecord} (stored : row ∈ db.invites) {row' : InviteRecord} (stored' : row' ∈ after.invites)
    (same : row'.id = row.id) :
    row'.token_hash = row.token_hash ∧ (Ended row → row' = row ∧ hits row label = false) ∧
      (hits row label = true → Ended row') := by
  obtain ⟨call, result⟩ := label
  rcases atomic_cases step with ⟨rfl, answer⟩ | ⟨reply, changed, answer⟩
  · have old := row_of_id stored' stored same
    subst old
    have missed : hits row' (call, result) = false := by
      rcases answer with rfl | rfl <;> simp [hits]
    exact ⟨rfl, fun _ => ⟨rfl, missed⟩, by simp [missed]⟩
  · obtain ⟨hash, ended, ends⟩ := changed_row changed stored stored' same
    rcases answer with rfl | rfl
    · have missed : hits row (call, none) = false := by simp [hits]
      exact ⟨hash, fun was => ⟨(ended was).1, missed⟩, by simp [missed]⟩
    · exact ⟨hash, ended, ends⟩

/-- Run lemma for one row: while it stays stored it keeps its keys, is hit at
    most once, and is ended once it has been hit. -/
theorem run_row {db after : Database} {labels : List (Call × Option Reply)} {row : InviteRecord}
    (stored : row ∈ db.invites) (run : Run (Within (Stored row.id) (Atomic Call.code)) db labels after) :
    ∀ row' ∈ after.invites, row'.id = row.id → row'.token_hash = row.token_hash ∧
      labels.countP (hits row) ≤ 1 ∧ (labels.countP (hits row) = 1 → Ended row') := by
  induction run with
  | stay =>
    intro row' stored' same
    rw [row_of_id stored' stored same]
    simp
  | @next labels m after label before taken ih =>
    intro row' stored' same
    have middle : Stored row.id m := by
      cases before with
      | stay => exact ⟨row, stored, rfl⟩
      | next _ last => exact last.2
    obtain ⟨mid, midStored, midId⟩ := middle
    obtain ⟨midHash, few, once⟩ := ih mid midStored midId
    obtain ⟨hash, keeps, ends⟩ := atomic_row taken.1 midStored stored' (same.trans midId.symm)
    -- The row keeps its keys, so that the same calls are aimed at it.
    have sameHits : hits mid label = hits row label := by
      have sameAim : Aimed mid label.1 ↔ Aimed row label.1 := by
        cases label.1 <;> simp [Aimed, midHash, midId]
      simp [hits, sameAim]
    rw [sameHits] at keeps ends
    refine ⟨hash.trans midHash, ?_⟩
    rw [List.countP_append, List.countP_singleton]
    by_cases hit : hits row label = true
    · have unended : ¬ Ended mid := fun was => by
        rw [(keeps was).2] at hit
        cases hit
      have zero : labels.countP (hits row) ≠ 1 := fun one => unended (once one)
      rw [if_pos hit]
      exact ⟨by omega, fun _ => ends hit⟩
    · rw [if_neg hit]
      refine ⟨by omega, fun one => ?_⟩
      have was := once (by omega)
      rw [(keeps was).1]
      exact was

/-- An ended row that stays stored stays as it is. -/
theorem run_ended {db after : Database} {labels : List (Call × Option Reply)} {row : InviteRecord}
    (stored : row ∈ db.invites) (ended : Ended row)
    (run : Run (Within (Stored row.id) (Atomic Call.code)) db labels after) : row ∈ after.invites := by
  induction run with
  | stay => exact stored
  | next before taken ih =>
    obtain ⟨row', stored', same⟩ := taken.2
    have kept := ((atomic_row taken.1 ih stored' same).2.1 ended).1
    rw [← kept]
    exact stored'

/-- A successful revocation leaves the row revoked and unconsumed. -/
theorem revoked_row {db after : Database} {id revoked_at : String}
    (step : Atomic Call.code db (.revoke_invite id revoked_at, some (.flag true)) after) :
    ∃ row ∈ after.invites, row.id = id ∧ row.revoked_at = some revoked_at ∧ row.consumed_at = none := by
  rcases atomic_cases step with ⟨_, answer | answer⟩ | ⟨reply, changed, _⟩
  · cases answer
  · cases answer
  · cases changed with
    | @revoked _ _ _ invite stored selected rows _ =>
      obtain ⟨sameId, unconsumed, _⟩ := revocable_iff.mp selected
      refine ⟨{ invite with revoked_at := some revoked_at }, ?_, sameId, rfl, unconsumed⟩
      rw [rows]
      exact List.mem_map.mpr ⟨invite, stored, by rw [if_pos rfl]⟩

/-- Run lemma for a revoked row: as long as it is stored it is never consumed. -/
theorem run_revoked {db after : Database} {labels : List (Call × Option Reply)} {id revoked_at : String}
    (run : Run (Within (Stored id) (Atomic Call.code)) db labels after)
    (revoked : (.revoke_invite id revoked_at, some (.flag true)) ∈ labels) :
    ∀ row ∈ after.invites, row.id = id → row.consumed_at = none := by
  obtain ⟨before, later, rfl⟩ := List.append_of_mem revoked
  rw [List.append_cons] at run
  obtain ⟨m, upTo, rest⟩ := run.split
  obtain ⟨_, _, revoke⟩ := upTo.snoc_inv
  obtain ⟨row, stored, rfl, ended, unconsumed⟩ := revoked_row revoke.1
  have kept := run_ended stored (.inr (by simp [ended])) rest
  intro row' stored' same
  rw [row_of_id stored' kept same, unconsumed]

/-! ### Spent token hashes -/

/-- A consumed row that is not revoked stays as it is, through every change. -/
theorem changed_keeps {db after : Database} {call : Call} {reply : Reply} (changed : Changed db call reply after)
    {row : InviteRecord} (stored : row ∈ db.invites) (consumed : row.consumed_at ≠ none)
    (unrevoked : row.revoked_at = none) : row ∈ after.invites := by
  cases changed with
  | created _ _ rows _ =>
    rw [rows]
    exact List.mem_append_left _ stored
  | @consumed _ _ _ _ invite selectedStored selected rows _ =>
    have other : row.id ≠ invite.id := fun same => by
      rw [row_of_id stored selectedStored same] at consumed
      exact consumed (redeemable_iff.mp selected).2.1
    rw [rows]
    exact List.mem_map.mpr ⟨row, stored, by rw [if_neg other]⟩
  | @revoked _ _ _ invite selectedStored selected rows _ =>
    have other : row.id ≠ invite.id := fun same => by
      rw [row_of_id stored selectedStored same] at consumed
      exact consumed (revocable_iff.mp selected).2.1
    rw [rows]
    exact List.mem_map.mpr ⟨row, stored, by rw [if_neg other]⟩
  | @cleaned _ cutoff rows _ =>
    have kept : stale cutoff row = false := by
      rw [Bool.eq_false_iff]
      intro isStale
      rcases stale_iff.mp isStale with ⟨_, revoked, _⟩ | ⟨unconsumed, _⟩
      · rw [unrevoked] at revoked
        cases revoked
      · exact consumed unconsumed
    rw [rows, List.mem_filter]
    exact ⟨stored, by simp [kept]⟩

theorem atomic_keeps {db after : Database} {label : Call × Option Reply} (step : Atomic Call.code db label after)
    {row : InviteRecord} (stored : row ∈ db.invites) (consumed : row.consumed_at ≠ none)
    (unrevoked : row.revoked_at = none) : row ∈ after.invites := by
  rcases atomic_cases step with ⟨rfl, _⟩ | ⟨_, changed, _⟩
  · exact stored
  · exact changed_keeps changed stored consumed unrevoked

theorem atomic_spent {db after : Database} {label : Call × Option Reply} {token_hash : String}
    (spent : Spent token_hash db) (step : Atomic Call.code db label after) : Spent token_hash after := by
  obtain ⟨row, stored, hash, consumed, unrevoked⟩ := spent
  exact ⟨row, atomic_keeps step stored consumed unrevoked, hash, consumed, unrevoked⟩

/-- The row that a successful consumption leaves behind. -/
theorem consumed_row {db after : Database} {token_hash consumed_at consumed_by : String}
    (step : Atomic Call.code db (.consume_invite token_hash consumed_at consumed_by, some (.flag true)) after) :
    ∃ row ∈ after.invites, row.token_hash = token_hash ∧ row.consumed_at = some consumed_at ∧
      row.consumed_by = some consumed_by ∧ row.revoked_at = none ∧ TextLt consumed_at row.expires_at := by
  rcases atomic_cases step with ⟨_, answer | answer⟩ | ⟨reply, changed, _⟩
  · cases answer
  · cases answer
  · cases changed with
    | @consumed _ _ _ _ invite stored selected rows _ =>
      obtain ⟨hash, _, unrevoked, early⟩ := redeemable_iff.mp selected
      refine ⟨{ invite with consumed_at := some consumed_at, consumed_by := some consumed_by }, ?_, hash, rfl, rfl,
        unrevoked, early⟩
      rw [rows]
      exact List.mem_map.mpr ⟨invite, stored, by rw [if_pos rfl]⟩

/-- A successful consumption spends the token hash. -/
theorem consumed_spent {db after : Database} {token_hash consumed_at consumed_by : String}
    (step : Atomic Call.code db (.consume_invite token_hash consumed_at consumed_by, some (.flag true)) after) :
    Spent token_hash after := by
  obtain ⟨row, stored, hash, consumed, _, unrevoked, _⟩ := consumed_row step
  exact ⟨row, stored, hash, by simp [consumed], unrevoked⟩

/-- On a spent token hash neither a consumption nor a creation succeeds. -/
theorem spent_refuses {db after : Database} {label : Call × Option Reply} {token_hash : String}
    (spent : Spent token_hash db) (step : Atomic Call.code db label after) :
    (∀ consumed_at consumed_by, label ≠ (.consume_invite token_hash consumed_at consumed_by, some (.flag true))) ∧
    ∀ id groups_json created_at expires_at created_by record,
      label ≠ (.create_invite id token_hash groups_json created_at expires_at created_by, some (.invite record)) := by
  obtain ⟨row, stored, hash, consumed, _⟩ := spent
  constructor
  · rintro consumed_at consumed_by rfl
    rcases atomic_cases step with ⟨_, answer | answer⟩ | ⟨reply, changed, _⟩
    · cases answer
    · cases answer
    · cases changed with
      | consumed selectedStored selected _ _ =>
        obtain ⟨sameHash, unconsumed, _⟩ := redeemable_iff.mp selected
        rw [row_of_hash stored selectedStored (hash.trans sameHash.symm)] at consumed
        exact consumed unconsumed
  · rintro id groups_json created_at expires_at created_by record rfl
    rcases atomic_cases step with ⟨_, answer | answer⟩ | ⟨reply, changed, _⟩
    · cases answer
    · cases answer
    · cases changed with
      | created _ freshHash _ _ => exact freshHash (List.mem_map.mpr ⟨row, stored, hash⟩)

/-- After a consumption that answered `Ok(true)`, no later one of the same token
    hash does, and no invite with that token hash is created. -/
def SpentForGood (token_hash : String) (labels : List (Call × Option Reply)) : Prop :=
  ∀ before later consumed_at consumed_by,
    labels = before ++ (.consume_invite token_hash consumed_at consumed_by, some (.flag true)) :: later →
    ∀ label ∈ later,
      (∀ consumed_at consumed_by, label ≠ (.consume_invite token_hash consumed_at consumed_by, some (.flag true))) ∧
      ∀ id groups_json created_at expires_at created_by record,
        label ≠ (.create_invite id token_hash groups_json created_at expires_at created_by, some (.invite record))

theorem run_spent {db after : Database} {labels : List (Call × Option Reply)} (token_hash : String)
    (run : Run (Atomic Call.code) db labels after) : SpentForGood token_hash labels := by
  rintro before later consumed_at consumed_by rfl label member
  rw [List.append_cons] at run
  obtain ⟨m, first, rest⟩ := run.split
  obtain ⟨_, _, consume⟩ := first.snoc_inv
  obtain ⟨early, late, rfl⟩ := List.append_of_mem member
  rw [List.append_cons] at rest
  obtain ⟨_, upTo, _⟩ := rest.split
  obtain ⟨m', toLabel, step⟩ := upTo.snoc_inv
  have spent : Spent token_hash m' :=
    toLabel.invariant (fun _ _ _ spent step => atomic_spent spent step) (consumed_spent consume)
  exact spent_refuses spent step

/-- Single use, for every interleaving of calls on the server: a consumed token
    hash is spent for good; and from any reachable state on, while a row stays
    stored, at most one of the calls aimed at it answers `Ok(true)`, and after a
    revocation that did, the row is never consumed. -/
theorem single_use {foreign_keys : Bool} {labels : List (Option (Call × Option Reply))}
    {srv : Server Database Call Reply} (reached : Run (Step Call.code) ⟨migrated foreign_keys, none⟩ labels srv) :
    (∀ token_hash, SpentForGood token_hash labels.reduceOption) ∧
    ∀ row ∈ srv.committed.invites, ∀ later srv',
      Run (Within (Stored row.id ·.committed) (Step Call.code)) srv later srv' →
        later.reduceOption.countP (hits row) ≤ 1 ∧
        ∀ revoked_at, (.revoke_invite row.id revoked_at, some (.flag true)) ∈ later.reduceOption →
          ∀ row' ∈ srv'.committed.invites, row'.id = row.id → row'.consumed_at = none := by
  have inv : WriterOk Call.code srv :=
    reached.invariant (fun _ _ _ inv step => step_writerOk inv step) (writerOk_idle _)
  refine ⟨fun token_hash => run_spent token_hash (serial_run (writerOk_idle _) reached), ?_⟩
  intro row stored later srv' run
  have serial := serial_run_within inv run
  have stillStored : Stored row.id srv'.committed := by
    cases run with
    | stay => exact ⟨row, stored, rfl⟩
    | next _ last => exact last.2
  obtain ⟨row', stored', same⟩ := stillStored
  exact ⟨(run_row stored serial row' stored' same).2.1, fun _ revoked => run_revoked serial revoked⟩

private def sampleRow : InviteRecord :=
  ⟨"invite-2", "hash-2", "[]", "2026-09-12T10:00:00+00:00", "2026-09-14T10:00:00+00:00", none, none, none⟩

private def create : Call :=
  .create_invite "invite-2" "hash-2" "[]" "2026-09-12T10:00:00+00:00" "2026-09-14T10:00:00+00:00" none
private def consume : Call := .consume_invite "hash-2" "2026-09-12T11:00:00+00:00" "new-user"
private def revoke : Call := .revoke_invite "invite-2" "2026-09-12T10:30:00+00:00"
private def cleanup : Call := .cleanup_stale "2026-10-01T00:00:00+00:00"

/-- An invite is revoked and cleaned up, and made again under the same keys; then
    it is consumed once, whatever comes after, or revoked, and not consumed. -/
theorem single_use_sample : ∃ (labels redeemed revoked : List (Option (Call × Option Reply)))
    (srv srv' srv'' : Server Database Call Reply),
    Run (Step Call.code) ⟨migrated true, none⟩ labels srv ∧ sampleRow ∈ srv.committed.invites ∧
    labels.reduceOption = [(create, some (.invite sampleRow)), (revoke, some (.flag true)), (cleanup, some (.rows 1)),
      (create, some (.invite sampleRow))] ∧
    Run (Within (Stored "invite-2" ·.committed) (Step Call.code)) srv redeemed srv' ∧
    redeemed.reduceOption = [(consume, some (.flag true)), (consume, some (.flag false)), (revoke, some (.flag false)),
      (create, none), (cleanup, some (.rows 0))] ∧
    Run (Within (Stored "invite-2" ·.committed) (Step Call.code)) srv revoked srv'' ∧
    revoked.reduceOption = [(revoke, some (.flag true)), (consume, some (.flag false))] ∧
    SpentForGood "hash-2" (labels ++ redeemed).reduceOption ∧ redeemed.reduceOption.countP (hits sampleRow) ≤ 1 ∧
    ∀ row' ∈ srv''.committed.invites, row'.id = "invite-2" → row'.consumed_at = none := by
  let made := [create, revoke, cleanup, create]
  have making := answers_run (P := fun _ => True) true [] made fun _ _ => trivial
  have redeeming := answers_run (P := Stored "invite-2") true made [consume, consume, revoke, create, cleanup]
    (by unfold Stored; decide)
  have revoking := answers_run (P := Stored "invite-2") true made [revoke, consume]
    (by unfold Stored; decide)
  have stored : Stored "invite-2" (afterCalls true made) := ⟨sampleRow, by decide, rfl⟩
  obtain ⟨labels, made', madeIs⟩ := serial_realized trivial making
  obtain ⟨redeemed, redeeming', redeemedIs⟩ := serial_realized stored redeeming
  obtain ⟨revoked, revoking', revokedIs⟩ := serial_realized stored revoking
  have reached := made'.mono fun _ _ _ step => step.1
  obtain ⟨_, rows⟩ := single_use reached
  obtain ⟨spent, _⟩ := single_use (reached.trans (redeeming'.mono fun _ _ _ step => step.1))
  refine ⟨labels, redeemed, revoked, _, _, _, reached, by decide, ?_, redeeming', ?_, revoking', ?_, spent "hash-2",
    (rows sampleRow (by decide) _ _ redeeming').1, ?_⟩
  · rw [madeIs]
    decide
  · rw [redeemedIs]
    decide
  · rw [revokedIs]
    decide
  · refine (rows sampleRow (by decide) _ _ revoking').2 "2026-09-12T10:30:00+00:00" ?_
    rw [revokedIs]
    decide

end InviteSystem.SingleUse
