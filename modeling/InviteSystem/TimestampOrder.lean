import InviteSystem.Chrono
import InviteSystem.StoreFrame

/-!
The order of the stored times. They are compared as texts, and the texts of the
clock are ordered as its instants; so are the listing of the invites and the
choice of the revoked ones that a cleanup removes.
-/
namespace InviteSystem.TimestampOrder
open InviteSystem.Text InviteSystem.Calendar InviteSystem.Chrono InviteSystem.Transactions InviteSystem.InviteStorage
open InviteSystem.StoreFrame

def STALE_INVITE_RETENTION_DAYS : Int := 120

/-- The cutoff that the cleanup task of `main.rs` takes from the clock. -/
def cleanup_cutoff (now : Reading) : Option DateTime := now.time.add (-(STALE_INVITE_RETENTION_DAYS * 86400))

/-- The answers that the query of `list_recent` allows: rows of one time come in any order. -/
def Recent (db : Database) (limit : Int) (rows : List InviteRecord) : Prop :=
  ∃ ordered : List InviteRecord, ordered.Perm db.invites ∧
    ordered.Pairwise (fun a b => ¬ TextLt a.created_at b.created_at) ∧
    rows = if limit < 0 then ordered else ordered.take limit.toNat

/-- The times of a store, with the instants they were written from. -/
structure Clocked (db : Database) (created revoked : InviteRecord → DateTime) : Prop where
  created : ∀ row ∈ db.invites, (created row).FourDigitYear ∧ row.created_at = to_rfc3339 (created row)
  revoked : ∀ row ∈ db.invites, ∀ revoked_at, row.revoked_at = some revoked_at →
    (revoked row).FourDigitYear ∧ revoked_at = to_rfc3339 (revoked row)

/-- The latest of the invites, `limit` of them at most, in descending order of their creation. -/
structure Latest (db : Database) (created : InviteRecord → DateTime) (limit : Int) (rows : List InviteRecord) : Prop where
  length : rows.length = min limit.toNat db.invites.length
  distinct : (rows.map InviteRecord.id).Nodup
  stored : ∀ row ∈ rows, row ∈ db.invites
  descending : rows.Pairwise (fun a b => created b ≤ created a)
  omitted : ∀ row ∈ db.invites, row ∉ rows → ∀ listed ∈ rows, ¬ created listed < created row

/-! ### The listing -/

theorem list_recent_recent (db : Database) (limit : Int) : Recent db limit (list_recent db limit) := by
  refine ⟨_, List.mergeSort_perm .., ?_, rfl⟩
  have transitive : ∀ a b c : InviteRecord, decide (¬ TextLt a.created_at b.created_at) = true →
      decide (¬ TextLt b.created_at c.created_at) = true → decide (¬ TextLt a.created_at c.created_at) = true := by
    simp only [decide_eq_true_eq]
    exact fun a b c notAB notBC ac => notAB (ac.trans_not_lt notBC)
  have total : ∀ a b : InviteRecord, (decide (¬ TextLt a.created_at b.created_at) ||
      decide (¬ TextLt b.created_at a.created_at)) = true := by
    intro a b
    simp only [Bool.or_eq_true, decide_eq_true_eq]
    exact not_and_or.mp fun both => both.1.asymm both.2
  have sorted := List.pairwise_mergeSort transitive total db.invites
  exact sorted.imp fun ordered => of_decide_eq_true ordered

/-- Of a sorted list, what is cut off comes after what is kept. -/
theorem kept_before_cut {α : Type} {R : α → α → Prop} {rows : List α} (sorted : rows.Pairwise R) (n : Nat) {kept cut : α}
    (inside : kept ∈ rows.take n) (member : cut ∈ rows) (outside : cut ∉ rows.take n) : R kept cut := by
  rw [← List.take_append_drop n rows] at sorted member
  rcases List.mem_append.mp member with within | beyond
  · exact absurd within outside
  · exact (List.pairwise_append.mp sorted).2.2 kept inside cut beyond

section
variable {db : Database} {created revoked : InviteRecord → DateTime}

theorem created_lt_iff (clocked : Clocked db created revoked) {a b : InviteRecord} (storedA : a ∈ db.invites)
    (storedB : b ∈ db.invites) : TextLt a.created_at b.created_at ↔ created a < created b := by
  obtain ⟨plainA, writtenA⟩ := clocked.created a storedA
  obtain ⟨plainB, writtenB⟩ := clocked.created b storedB
  rw [writtenA, writtenB, rfc3339_lt_iff plainA plainB]

theorem latest_of_recent (clocked : Clocked db created revoked) {limit : Int} (nonneg : 0 ≤ limit) {rows : List InviteRecord}
    (recent : Recent db limit rows) : Latest db created limit rows := by
  obtain ⟨ordered, perm, sorted, rfl⟩ := recent
  rw [if_neg (Int.not_lt.mpr nonneg)]
  have stored : ∀ row ∈ ordered.take limit.toNat, row ∈ db.invites :=
    fun row member => perm.mem_iff.mp (List.mem_of_mem_take member)
  refine ⟨?_, ?_, stored, ?_, ?_⟩
  · rw [List.length_take, perm.length_eq]
  · have distinct : (ordered.map InviteRecord.id).Nodup := (perm.map InviteRecord.id).nodup_iff.mpr db.idsUnique
    exact distinct.sublist ((List.take_sublist ..).map _)
  · refine List.Pairwise.imp_of_mem ?_ (sorted.sublist (List.take_sublist ..))
    intro a b memberA memberB order
    rw [created_lt_iff clocked (stored a memberA) (stored b memberB)] at order
    exact DateTime.not_lt.mp order
  · intro row within absent listed member later
    have order := kept_before_cut sorted limit.toNat member (perm.mem_iff.mpr within) absent
    exact order ((created_lt_iff clocked (stored listed member) within).mpr later)

/-! ### The cleanup -/

theorem revoked_stale_iff (clocked : Clocked db created revoked) {cutoff : DateTime} (plain : cutoff.FourDigitYear)
    {row : InviteRecord} (stored : row ∈ db.invites) (isRevoked : row.revoked_at ≠ none) :
    stale (to_rfc3339 cutoff) row = true ↔ revoked row < cutoff := by
  obtain ⟨revoked_at, found⟩ := Option.ne_none_iff_exists'.mp isRevoked
  obtain ⟨plainRow, rfl⟩ := clocked.revoked row stored revoked_at found
  rw [stale_iff, ← rfc3339_lt_iff plainRow plain]
  constructor
  · rintro (⟨revoked_at, same, early⟩ | ⟨_, unrevoked, _⟩)
    · rw [found] at same
      cases same
      exact early
    · exact absurd unrevoked isRevoked
  · exact fun early => .inl ⟨_, found, early⟩

/-- The cutoff of the cleanup task is written as the times of the store are. -/
theorem cleanup_cutoff_plain {now : Reading} (plain : now.time.FourDigitYear) : ∃ cutoff,
    cleanup_cutoff now = some cutoff ∧ cutoff.FourDigitYear ∧ cutoff.nanos = now.time.nanos - 10368000000000000 := by
  have shifted : now.time.nanos + -(STALE_INVITE_RETENTION_DAYS * 86400) * 1000000000 =
      now.time.nanos - 10368000000000000 := by
    unfold STALE_INVITE_RETENTION_DAYS
    omega
  have since := now.sinceEpoch
  have low : (0 : Int) ≤ yearOf (dayNumber (now.time.nanos - 10368000000000000)) := by
    have first : (0 : Int) ≤ yearOf (dayNumber (-10368000000000000)) := by decide
    exact first.trans (yearOf_mono (dayNumber_mono (by omega)))
  have high : yearOf (dayNumber (now.time.nanos - 10368000000000000)) ≤ 9999 :=
    (yearOf_mono (dayNumber_mono (by omega))).trans plain.2
  have fits : Representable (now.time.nanos - 10368000000000000) := by
    unfold Representable MIN_YEAR MAX_YEAR
    omega
  refine ⟨⟨_, fits⟩, ?_, ⟨low, high⟩, rfl⟩
  unfold cleanup_cutoff DateTime.add
  simp only [shifted]
  rw [dif_pos fits]

end

/-- The texts of the clock are ordered as its instants. So a store that holds no
    others lists the latest invites first, and a cleanup removes those of the
    revoked that were revoked before its cutoff. -/
theorem timestamp_order (db : Database) (created revoked : InviteRecord → DateTime) (clocked : Clocked db created revoked) :
    (∀ a b : DateTime, a.FourDigitYear → b.FourDigitYear → (TextLt (to_rfc3339 a) (to_rfc3339 b) ↔ a < b)) ∧
    (∀ limit, Recent db limit (list_recent db limit)) ∧
    (∀ limit rows, 0 ≤ limit → Recent db limit rows → Latest db created limit rows) ∧
    (∀ cutoff : DateTime, cutoff.FourDigitYear → ∃ count after,
      (cleanup_stale (to_rfc3339 cutoff)).Ends db db (some count) after ∧
      (∀ result after', (cleanup_stale (to_rfc3339 cutoff)).Ends db db result after' →
        (result = none ∧ after' = db) ∨ (result = some count ∧ after' = after)) ∧
      ∀ row ∈ db.invites, row.revoked_at ≠ none → (row ∉ after.invites ↔ revoked row < cutoff)) ∧
    ∀ now : Reading, now.time.FourDigitYear → ∃ cutoff, cleanup_cutoff now = some cutoff ∧ cutoff.FourDigitYear ∧
      cutoff.nanos = now.time.nanos - 10368000000000000 := by
  refine ⟨fun a b => rfc3339_lt_iff, list_recent_recent db, fun _ _ nonneg => latest_of_recent clocked nonneg, ?_,
    fun now => cleanup_cutoff_plain⟩
  intro cutoff plain
  obtain ⟨after, ends, only, rows, _⟩ := cleanup_ends db (to_rfc3339 cutoff)
  refine ⟨_, after, ends, only, fun row stored isRevoked => ?_⟩
  have gone : row ∉ after.invites ↔ stale (to_rfc3339 cutoff) row = true := by simp [rows, stored]
  rw [gone, revoked_stale_iff clocked plain stored isRevoked]

/-- 09:45 on 1 March 2026, one nanosecond later, and half a second later. -/
def whole : DateTime := ⟨1772358300000000000, by decide⟩
def tick : DateTime := ⟨1772358300000000001, by decide⟩
def half : DateTime := ⟨1772358300500000000, by decide⟩

def createdWhen (row : InviteRecord) : DateTime :=
  if row.id = "invite-1" then tick else if row.id = "invite-2" then half else whole
def revokedWhen (row : InviteRecord) : DateTime := if row.id = "invite-1" then tick else half

/-- Three invites, whose times have texts of three lengths: the two latest are
    listed, and of the two that are revoked a cleanup removes one. -/
theorem timestamp_order_sample :
    let db := afterCalls true [
      .create_invite "invite-1" "hash-1" "[]" (to_rfc3339 tick) (to_rfc3339 half) none,
      .create_invite "invite-2" "hash-2" "[]" (to_rfc3339 half) (to_rfc3339 half) none,
      .create_invite "invite-3" "hash-3" "[]" (to_rfc3339 whole) (to_rfc3339 half) none,
      .revoke_invite "invite-1" (to_rfc3339 tick), .revoke_invite "invite-3" (to_rfc3339 half)]
    Clocked db createdWhen revokedWhen ∧ Latest db createdWhen 2 (list_recent db 2) ∧
      (list_recent db 2).map InviteRecord.id = ["invite-2", "invite-1"] ∧
      ∃ after, (cleanup_stale (to_rfc3339 half)).Ends db db (some 1) after ∧
        after.invites.map InviteRecord.id = ["invite-2", "invite-3"] ∧
        ∀ row ∈ db.invites, row.revoked_at ≠ none → (row ∉ after.invites ↔ revokedWhen row < half) := by
  intro db
  have rows : db.invites = [
      ⟨"invite-1", "hash-1", "[]", to_rfc3339 tick, to_rfc3339 half, none, none, some (to_rfc3339 tick)⟩,
      ⟨"invite-2", "hash-2", "[]", to_rfc3339 half, to_rfc3339 half, none, none, none⟩,
      ⟨"invite-3", "hash-3", "[]", to_rfc3339 whole, to_rfc3339 half, none, none, some (to_rfc3339 half)⟩] := by rfl
  have clocked : Clocked db createdWhen revokedWhen := by
    constructor
    · rw [rows]
      exact List.forall_mem_cons.mpr ⟨⟨by decide, rfl⟩, List.forall_mem_cons.mpr ⟨⟨by decide, rfl⟩,
        List.forall_mem_singleton.mpr ⟨by decide, rfl⟩⟩⟩
    · rw [rows]
      refine List.forall_mem_cons.mpr ⟨?_, List.forall_mem_cons.mpr ⟨nofun, List.forall_mem_singleton.mpr ?_⟩⟩
      · rintro revoked_at ⟨⟩
        exact ⟨by decide, rfl⟩
      · rintro revoked_at ⟨⟩
        exact ⟨by decide, rfl⟩
  obtain ⟨_, recent, latest, cleaned, _⟩ := timestamp_order db _ _ clocked
  obtain ⟨count, after, ends, only, exactly⟩ := cleaned half (by decide)
  have ran : ((cleanup_stale (to_rfc3339 half)).run db db).1 = some 1 := by decide
  obtain ⟨failed, _⟩ | ⟨one, same⟩ := only _ _ (run_ends (Prod.ext ran rfl))
  · cases failed
  cases one
  subst same
  have listed : (list_recent db 2).map InviteRecord.id = ["invite-2", "invite-1"] := by
    have order : ¬ TextLt (to_rfc3339 tick) (to_rfc3339 whole) ∧ TextLt (to_rfc3339 tick) (to_rfc3339 half) ∧
        ¬ TextLt (to_rfc3339 half) (to_rfc3339 whole) := by decide
    simp [list_recent, rows, List.mergeSort, List.MergeSort.Internal.splitInTwo, order]
  exact ⟨clocked, latest 2 _ (by decide) (recent 2), listed, _, ends, by decide, exactly⟩

end InviteSystem.TimestampOrder
