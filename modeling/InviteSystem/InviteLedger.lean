import InviteSystem.AuditLog
import InviteSystem.Registers

/-!
The repository and what it is for: a register of single-use tickets. The ledger
of a store forgets the order of the rows and the columns that no other column
allows; the concurrent database has exactly the traces of the register.
-/
namespace InviteSystem.InviteLedger
open InviteSystem.Text InviteSystem.Runs InviteSystem.Transactions InviteSystem.InviteStorage InviteSystem.AuditLog
open InviteSystem.Registers

/-- Ids are the keys, token hashes the secrets; times are compared as texts. -/
abbrev Ledger := Register String String (String × String) String String
abbrev Invite := Ticket String (String × String) String String

def life (row : InviteRecord) : Life String String :=
  match row.revoked_at, row.consumed_at with
  | some revoked_at, _ => .withdrawn revoked_at
  | none, some consumed_at => .redeemed consumed_at (row.consumed_by.getD "")
  | none, none => .unused

def ticket (row : InviteRecord) : Invite := ⟨row.token_hash, (row.groups_json, row.created_at), row.expires_at, life row⟩

theorem life_unused {row : InviteRecord} : life row = .unused ↔ row.consumed_at = none ∧ row.revoked_at = none := by
  unfold life
  cases row.revoked_at <;> cases row.consumed_at <;> simp

theorem stale_ticket {cutoff : String} {row : InviteRecord} :
    Stale TextLt cutoff (ticket row) ↔ stale cutoff row = true := by
  rw [stale_iff]
  unfold Stale ticket life
  cases row.revoked_at <;> cases row.consumed_at <;> simp

/-- Row by row, by id. -/
def ledger (db : Database) : Ledger where
  ticket id := (db.invites.find? (fun row => row.id = id)).map ticket
  distinct := by
    intro id id' t t' held held' same
    obtain ⟨row, found, rfl⟩ := Option.map_eq_some_iff.mp held
    obtain ⟨row', found', rfl⟩ := Option.map_eq_some_iff.mp held'
    have own : row = row' := row_of_hash (List.mem_of_find?_eq_some found) (List.mem_of_find?_eq_some found') same
    have byId : row.id = id := by simpa using List.find?_some found
    have byId' : row'.id = id' := by simpa using List.find?_some found'
    rw [← byId, ← byId', own]

theorem ledger_eq_some {db : Database} {id : String} {t : Invite} :
    (ledger db).ticket id = some t ↔ ∃ row ∈ db.invites, row.id = id ∧ ticket row = t := by
  simp only [ledger, Option.map_eq_some_iff]
  constructor
  · rintro ⟨row, found, rfl⟩
    exact ⟨row, List.mem_of_find?_eq_some found, by simpa using List.find?_some found, rfl⟩
  · rintro ⟨row, stored, rfl, rfl⟩
    cases found : db.invites.find? (fun other => other.id = row.id) with
    | none => simpa using List.find?_eq_none.mp found row stored
    | some other =>
      have same : other.id = row.id := by simpa using List.find?_some found
      exact ⟨other, rfl, by rw [row_of_id (List.mem_of_find?_eq_some found) stored same]⟩

/-- A register with the same tickets is the ledger. -/
theorem ledger_eq {db : Database} {r : Ledger}
    (same : ∀ id t, (∃ row ∈ db.invites, row.id = id ∧ ticket row = t) ↔ r.ticket id = some t) : ledger db = r := by
  ext id t
  rw [ledger_eq_some]
  exact same id t

theorem ledger_none {db : Database} {id : String} :
    (ledger db).ticket id = none ↔ id ∉ db.invites.map InviteRecord.id := by
  rw [Option.eq_none_iff_forall_ne_some]
  simp only [ne_eq, ledger_eq_some, List.mem_map, not_exists, not_and]
  constructor
  · exact fun absent row stored same => absent _ row stored same rfl
  · exact fun absent t row stored same _ => absent row stored same

theorem ledger_migrated (foreign_keys : Bool) : ledger (migrated foreign_keys) = .empty :=
  ledger_eq fun id t => by simp [migrated, Register.empty]

/-! ### Each operation does what the register's does -/

def op : Call → Op String String (String × String) String String
  | .create_invite id token_hash groups_json created_at expires_at _ => .issue id token_hash (groups_json, created_at) expires_at
  | .consume_invite token_hash consumed_at consumed_by => .redeem token_hash consumed_at consumed_by
  | .revoke_invite id revoked_at => .withdraw id revoked_at
  | .cleanup_stale cutoff => .sweep cutoff

def answer : Reply → Answer String String (String × String) String String
  | .invite record => .ticket record.id (ticket record)
  | .flag value => .flag value
  | .rows n => .count n

/-- Marking one row is marking one ticket. -/
theorem ledger_marked {db after : Database} {invite : InviteRecord} {change : InviteRecord → InviteRecord}
    {ended : Life String String} (stored : invite ∈ db.invites)
    (rows : after.invites = db.invites.map (fun row => if row.id = invite.id then change row else row))
    (sameId : ∀ row, (change row).id = row.id) (changed : ticket (change invite) = { ticket invite with life := ended }) :
    ledger after = (ledger db).mark invite.id ended := by
  have held : (ledger db).ticket invite.id = some (ticket invite) := ledger_eq_some.mpr ⟨invite, stored, rfl, rfl⟩
  apply ledger_eq
  intro id t
  rw [rows]
  by_cases own : id = invite.id
  · subst own
    simp only [Register.mark, if_true, held, Option.map_some, Option.some.injEq]
    constructor
    · rintro ⟨row', stored', same, rfl⟩
      rcases marked_from stored stored' with rfl | ⟨_, other⟩
      · exact changed.symm
      · exact absurd same other
    · rintro rfl
      exact ⟨change invite, List.mem_map.mpr ⟨invite, stored, if_pos rfl⟩, sameId invite, changed⟩
  · simp only [Register.mark, own, if_false, ledger_eq_some]
    constructor
    · rintro ⟨row', stored', same, rfl⟩
      rcases marked_from stored stored' with rfl | ⟨old, _⟩
      · exact absurd (same.symm.trans (sameId invite)) own
      · exact ⟨row', old, same, rfl⟩
    · rintro ⟨row, old, rfl, rfl⟩
      exact ⟨row, List.mem_map.mpr ⟨row, old, if_neg own⟩, rfl, rfl⟩

/-- As many rows are stale as tickets. -/
theorem stale_count (db : Database) (cutoff : String) :
    {id | ∃ t, (ledger db).ticket id = some t ∧ Stale TextLt cutoff t}.ncard = db.invites.countP (stale cutoff) := by
  have same : {id | ∃ t, (ledger db).ticket id = some t ∧ Stale TextLt cutoff t} =
      (((db.invites.filter (stale cutoff)).map InviteRecord.id).toFinset : Set String) := by
    ext id
    simp only [Set.mem_ofPred_eq, ledger_eq_some, List.coe_toFinset, List.mem_map, List.mem_filter]
    constructor
    · rintro ⟨t, ⟨row, stored, rfl, rfl⟩, past⟩
      exact ⟨row, ⟨stored, stale_ticket.mp past⟩, rfl⟩
    · rintro ⟨row, ⟨stored, past⟩, rfl⟩
      exact ⟨_, ⟨row, stored, rfl, rfl⟩, stale_ticket.mpr past⟩
  have distinct : ((db.invites.filter (stale cutoff)).map InviteRecord.id).Nodup :=
    db.idsUnique.sublist (List.filter_sublist.map _)
  rw [same, Set.ncard_coe_finset, List.toFinset_card_of_nodup distinct, List.length_map, List.countP_eq_length_filter]

/-- The square of the refinement: whatever the store, a call of the repository
    does to its ledger what the operation of the register does, with its answer. -/
theorem code_does (db : Database) (call : Call) :
    Does TextLt (ledger db) (op call) ((call.code.run db db).1.map answer) (ledger (call.code.run db db).2) := by
  cases call with
  | create_invite id token_hash groups_json created_at expires_at created_by =>
    rw [Call.code, run_map]
    rcases create_invite_cases db id token_hash groups_json created_at expires_at created_by with
      ⟨taken, ran⟩ | ⟨freshId, freshHash, after, ran, rows, _⟩
    · rw [ran]
      refine .taken (taken.imp (fun present => ?_) fun present => ?_)
      · exact fun absent => ledger_none.mp absent present
      · obtain ⟨row, stored, same⟩ := List.mem_map.mp present
        exact ⟨row.id, ticket row, ledger_eq_some.mpr ⟨row, stored, rfl, rfl⟩, same⟩
    · rw [ran]
      have fresh : ∀ id' t', (ledger db).ticket id' = some t' → t'.secret ≠ token_hash := by
        intro id' t' held same
        obtain ⟨row, stored, rfl, rfl⟩ := ledger_eq_some.mp held
        exact freshHash (List.mem_map.mpr ⟨row, stored, same⟩)
      have added : ledger after = (ledger db).add id ⟨token_hash, (groups_json, created_at), expires_at, .unused⟩ fresh := by
        apply ledger_eq
        intro id' t
        simp only [rows, List.mem_append, List.mem_singleton, or_and_right, exists_or, exists_eq_left, Register.add]
        by_cases own : id' = id
        · subst own
          rw [if_pos rfl]
          constructor
          · rintro (⟨row, stored, same, _⟩ | ⟨_, rfl⟩)
            · exact absurd (List.mem_map.mpr ⟨row, stored, same⟩) freshId
            · rfl
          · rintro ⟨rfl⟩
            exact .inr ⟨rfl, rfl⟩
        · simp [own, Ne.symm own, ledger_eq_some]
      change Does TextLt (ledger db) _ _ (ledger after)
      rw [added]
      exact .issued (ledger_none.mpr freshId) fresh
  | consume_invite token_hash consumed_at consumed_by =>
    rw [Call.code, run_map]
    rcases consume_invite_cases db token_hash consumed_at consumed_by with
      ⟨none, ran⟩ | ⟨invite, stored, selected, after, ran, rows, _⟩
    · rw [ran]
      refine .unredeemed ?_
      rintro id t held rfl ⟨unused, inTime⟩
      obtain ⟨row, stored, rfl, rfl⟩ := ledger_eq_some.mp held
      obtain ⟨unconsumed, unrevoked⟩ := life_unused.mp unused
      have refused : redeemable row.token_hash consumed_at row = false := none row stored
      rw [redeemable_iff.mpr ⟨rfl, unconsumed, unrevoked, inTime⟩] at refused
      cases refused
    · rw [ran]
      obtain ⟨rfl, unconsumed, unrevoked, inTime⟩ := redeemable_iff.mp selected
      have marked : ledger after = (ledger db).mark invite.id (.redeemed consumed_at consumed_by) :=
        ledger_marked stored rows (fun _ => rfl) (by simp [ticket, life, unrevoked])
      change Does TextLt (ledger db) _ _ (ledger after)
      rw [marked]
      exact .redeemed (t := ticket invite) (ledger_eq_some.mpr ⟨invite, stored, rfl, rfl⟩)
        (life_unused.mpr ⟨unconsumed, unrevoked⟩) inTime
  | revoke_invite id revoked_at =>
    rw [Call.code, run_map]
    rcases revoke_invite_cases db id revoked_at with ⟨none, ran⟩ | ⟨invite, stored, selected, after, ran, rows, _⟩
    · rw [ran]
      refine .unwithdrawn ?_
      intro t held unused
      obtain ⟨row, stored, rfl, rfl⟩ := ledger_eq_some.mp held
      have refused : revocable row.id row = false := none row stored
      rw [revocable_iff.mpr ⟨rfl, life_unused.mp unused⟩] at refused
      cases refused
    · rw [ran]
      obtain ⟨rfl, unconsumed, unrevoked⟩ := revocable_iff.mp selected
      have marked : ledger after = (ledger db).mark invite.id (.withdrawn revoked_at) :=
        ledger_marked stored rows (fun _ => rfl) (by simp [ticket, life])
      change Does TextLt (ledger db) _ _ (ledger after)
      rw [marked]
      exact .withdrawn (ledger_eq_some.mpr ⟨invite, stored, rfl, rfl⟩) (life_unused.mpr ⟨unconsumed, unrevoked⟩)
  | cleanup_stale cutoff =>
    obtain ⟨after, ran, rows, _⟩ := cleanup_stale_cases db cutoff
    rw [Call.code, run_map, ran]
    have kept : ledger after = (ledger db).keep fun t => ¬ Stale TextLt cutoff t := by
      apply ledger_eq
      intro id t
      simp only [rows, Register.keep, Option.filter_eq_some_iff, ledger_eq_some, List.mem_filter, decide_eq_true_eq]
      constructor
      · rintro ⟨row, ⟨stored, fresh⟩, rfl, rfl⟩
        exact ⟨⟨row, stored, rfl, rfl⟩, by simpa [stale_ticket] using fresh⟩
      · rintro ⟨⟨row, stored, rfl, rfl⟩, fresh⟩
        exact ⟨row, ⟨stored, by simpa [stale_ticket] using fresh⟩, rfl, rfl⟩
    change Does TextLt (ledger db) _ _ (ledger after)
    rw [kept, show some (db.invites.countP (stale cutoff)) = some _ from congrArg some (stale_count db cutoff).symm]
    exact .swept

/-! ### The concurrent database has the traces of the register -/

theorem op_surjective (o : Op String String (String × String) String String) : ∃ call, op call = o := by
  cases o with
  | issue k secret content expires => exact ⟨.create_invite k secret content.1 content.2 expires none, rfl⟩
  | redeem secret time holder => exact ⟨.consume_invite secret time holder, rfl⟩
  | withdraw k time => exact ⟨.revoke_invite k time, rfl⟩
  | sweep cutoff => exact ⟨.cleanup_stale cutoff, rfl⟩

/-- A returned call, as the register sees it. -/
def observed (label : Call × Option Reply) :
    Op String String (String × String) String String × Option (Answer String String (String × String) String String) :=
  (op label.1, label.2.map answer)

theorem atomic_step {db after : Database} {label : Call × Option Reply} (atomic : Atomic Call.code db label after) :
    Registers.Step TextLt (ledger db) (observed label) (ledger after) := by
  cases atomic with
  | @done call reply ran =>
    have does := code_does db call
    rw [ran] at does
    exact .done does
  | failed => exact .failed
  | @unreported call reply ran =>
    have does := code_does db call
    rw [ran] at does
    exact .unreported does

/-- Where the register answers, so does the call, and the ledger follows. -/
theorem code_answers {db : Database} {call : Call} {a : Answer String String (String × String) String String} {r : Ledger}
    (does : Does TextLt (ledger db) (op call) (some a) r) :
    ∃ reply, (call.code.run db db).1 = some reply ∧ answer reply = a ∧ ledger (call.code.run db db).2 = r := by
  obtain ⟨same, rfl⟩ := does_functional TextLt (code_does db call) does
  obtain ⟨reply, ran, answered⟩ := Option.map_eq_some_iff.mp same
  exact ⟨reply, ran, answered, rfl⟩

/-- Every step of the register is the end of a call. -/
theorem step_served {db : Database} {label : Op String String (String × String) String String ×
    Option (Answer String String (String × String) String String)} {r : Ledger}
    (step : Registers.Step TextLt (ledger db) label r) :
    ∃ served after, Atomic Call.code db served after ∧ observed served = label ∧ ledger after = r := by
  obtain ⟨call, own⟩ := op_surjective label.1
  cases step with
  | @done _ _ a does =>
    obtain rfl : op call = _ := own
    cases a with
    | none =>
      rw [does_none TextLt does]
      exact ⟨(call, none), db, .failed, rfl, rfl⟩
    | some a =>
      obtain ⟨reply, ran, rfl, rfl⟩ := code_answers does
      exact ⟨(call, some reply), _, .done ran, rfl, rfl⟩
  | failed =>
    obtain rfl : op call = _ := own
    exact ⟨(call, none), db, .failed, rfl, rfl⟩
  | unreported does =>
    obtain rfl : op call = _ := own
    obtain ⟨reply, ran, -, rfl⟩ := code_answers does
    exact ⟨(call, none), _, .unreported ran, rfl, rfl⟩

/-- Whatever the interleaving of the calls and wherever they fail, what they
    return is a trace of the register, and every trace of the register is the
    trace of a run of the database; the register ends as the ledger of the store. -/
theorem server_ledger (foreign_keys : Bool)
    (trace : List (Op String String (String × String) String String ×
      Option (Answer String String (String × String) String String))) (r : Ledger) :
    Run (Registers.Step TextLt) .empty trace r ↔
      ∃ labels srv, Run (Transactions.Step Call.code) ⟨migrated foreign_keys, none⟩ labels srv ∧
        labels.reduceOption.map observed = trace ∧ ledger srv.committed = r := by
  constructor
  · intro run
    suffices serial : ∃ labels db, Run (Within (fun _ => True) (Atomic Call.code)) (migrated foreign_keys) labels db ∧
        labels.map observed = trace ∧ ledger db = r by
      obtain ⟨labels, db, served, traced, shown⟩ := serial
      obtain ⟨labels', realized, visible⟩ := serial_realized trivial served
      exact ⟨labels', ⟨db, none⟩, realized.mono fun _ _ _ step => step.1, by rw [visible, traced], shown⟩
    induction run with
    | stay => exact ⟨[], migrated foreign_keys, .stay, rfl, ledger_migrated foreign_keys⟩
    | next before taken ih =>
      obtain ⟨labels, db, served, rfl, rfl⟩ := ih
      obtain ⟨label, after, atomic, rfl, shown⟩ := step_served taken
      exact ⟨labels ++ [label], after, served.next ⟨atomic, trivial⟩, List.map_append, shown⟩
  · rintro ⟨labels, srv, served, rfl, rfl⟩
    have serial := serial_run (writerOk_idle (migrated foreign_keys)) served
    rw [← ledger_migrated foreign_keys]
    exact serial.image ledger observed fun _ _ _ atomic => atomic_step atomic

end InviteSystem.InviteLedger
