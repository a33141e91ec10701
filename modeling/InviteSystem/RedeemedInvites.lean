import InviteSystem.RedemptionSystem
import InviteSystem.SingleUse

/-!
The invites that requests have redeemed: as long as the service runs, whatever
else happens to the store, a request that was told that it consumed its invite
has its row, and only such a request has one.
-/
namespace InviteSystem.RedeemedInvites
open InviteSystem.Text InviteSystem.Runs InviteSystem.Chrono InviteSystem.Transactions InviteSystem.Libraries
open InviteSystem.Tokens InviteSystem.InviteStorage InviteSystem.SingleUse InviteSystem.Programs InviteSystem.Lldap
open InviteSystem.SubmitInvite InviteSystem.Redemption InviteSystem.Effects InviteSystem.RedemptionSystem

section
variable {ι : Type} {crates : Crates} {config : SubmitConfig} {submissions : ι → Submission}

/-- The row was consumed by the request: under the hash of its code, in its
    name, before the expiry of the row, and by one of the calls of the run. -/
structure Redeemed (crates : Crates) (submission : Submission) (i : ι) (labels : List (Label ι Lldap.Call Reply))
    (row : InviteRecord) : Prop where
  code : ∃ code, submission.code = some code ∧ row.token_hash = hash_token crates code
  consumed_by : row.consumed_by = some submission.form.username
  unrevoked : row.revoked_at = none
  consumption : ∃ now : Reading, row.consumed_at = some (to_rfc3339 now.time) ∧
    TextLt (to_rfc3339 now.time) row.expires_at ∧
    .call i (.consume_invite row.token_hash (to_rfc3339 now.time) submission.form.username) (some true) ∈ labels

theorem Redeemed.snoc {i : ι} {submission : Submission} {labels : List (Label ι Lldap.Call Reply)} {row : InviteRecord}
    (redeemed : Redeemed crates submission i labels row) (l : Label ι Lldap.Call Reply) :
    Redeemed crates submission i (labels ++ [l]) row := by
  obtain ⟨now, consumed, early, member⟩ := redeemed.consumption
  exact { redeemed with consumption := ⟨now, consumed, early, List.mem_append_left _ member⟩ }

theorem Redeemed.consumed {i : ι} {submission : Submission} {labels : List (Label ι Lldap.Call Reply)}
    {row : InviteRecord} (redeemed : Redeemed crates submission i labels row) : row.consumed_at ≠ none := by
  obtain ⟨now, consumed, _⟩ := redeemed.consumption
  simp [consumed]

/-- By a clock whose year has four digits, that was before the expiry as an instant. -/
theorem Redeemed.in_time {i : ι} {submission : Submission} {labels : List (Label ι Lldap.Call Reply)}
    {row : InviteRecord} (redeemed : Redeemed crates submission i labels row) :
    ∃ now : Reading, row.consumed_at = some (to_rfc3339 now.time) ∧ ∀ expires, now.time.FourDigitYear →
      row.expires_at = to_rfc3339 expires → now.time < expires := by
  obtain ⟨now, consumed, early, _⟩ := redeemed.consumption
  refine ⟨now, consumed, ?_⟩
  intro expires plain text
  rw [text] at early
  exact rfc3339_early plain early

variable {labels : List (Label ι Lldap.Call Reply)} {P : ι → Progress} {w w' : World ι}

/-- Every request that has redeemed its invite has its row. -/
def HaveRows (crates : Crates) (submissions : ι → Submission) (labels : List (Label ι Lldap.Call Reply))
    (P : ι → Progress) (w : World ι) : Prop :=
  ∀ i, (P i).stage.isRedeemed = true → ∃ row ∈ w.store.invites, Redeemed crates (submissions i) i labels row

/-- Every request that was told that it consumed its invite has redeemed it. -/
def Told (crates : Crates) (submissions : ι → Submission) (labels : List (Label ι Lldap.Call Reply))
    (P : ι → Progress) : Prop :=
  ∀ i c reply, .call i c reply ∈ labels → consumes c reply = true → (P i).stage.isRedeemed = true ∧
    ∃ code now, (submissions i).code = some code ∧
      c = .consume_invite (hash_token crates code) (to_rfc3339 (now : Reading).time) (submissions i).form.username

theorem haveRows_same (rows : HaveRows crates submissions labels P w) (l : Label ι Lldap.Call Reply)
    (same : w'.store = w.store) : HaveRows crates submissions (labels ++ [l]) P w' := by
  intro i redeemed
  obtain ⟨row, stored, its⟩ := rows i redeemed
  exact ⟨row, by rw [same]; exact stored, its.snoc l⟩

theorem haveRows_atomic (rows : HaveRows crates submissions labels P w) (l : Label ι Lldap.Call Reply)
    {label : InviteStorage.Call × Option InviteStorage.Reply}
    (step : Atomic InviteStorage.Call.code w.store label w'.store) :
    HaveRows crates submissions (labels ++ [l]) P w' := by
  intro i redeemed
  obtain ⟨row, stored, its⟩ := rows i redeemed
  exact ⟨row, atomic_keeps step stored its.consumed its.unrevoked, its.snoc l⟩

theorem haveRows_perform (rows : HaveRows crates submissions labels P w) {i : ι} {c : Lldap.Call} {reply : Reply c}
    (performed : Perform i w c reply w') (l : Label ι Lldap.Call Reply) :
    HaveRows crates submissions (labels ++ [l]) P w' := by
  rcases perform_store performed with ⟨same, _⟩ | ⟨_, _, _, _, _, step, _⟩
  · exact haveRows_same rows l same
  · exact haveRows_atomic rows l step

theorem haveRows_outside (rows : HaveRows crates submissions labels P w) {may : InviteStorage.Call → Prop}
    (changed : Outside may w w') (l : Label ι Lldap.Call Reply) : HaveRows crates submissions (labels ++ [l]) P w' := by
  cases changed with
  | repository _ step => exact haveRows_atomic rows l step
  | directory _ _ => exact haveRows_same rows l rfl

/-- A label that is no consumption of a request makes no other one redeem. -/
theorem told_snoc (told : Told crates submissions labels P) {l : Label ι Lldap.Call Reply}
    (silent : ∀ i c reply, l = .call i c reply → consumes c reply = false) :
    Told crates submissions (labels ++ [l]) P := by
  intro i c reply member consumed
  rcases List.mem_append.mp member with before | last
  · exact told i c reply before consumed
  · rw [silent i c reply (List.mem_singleton.mp last).symm] at consumed
    cases consumed

/-- The consumption that a request is told of is its own: of the hash of its
    code, at a reading of the clock, in its name. -/
theorem consumption_own {submission : Submission} {g : Progress} {c : Lldap.Call} {reply : Reply c}
    (allowed : Allowed crates config submission g c) (consumed : consumes c reply = true) :
    ∃ code now, submission.code = some code ∧
      c = .consume_invite (hash_token crates code) (to_rfc3339 (now : Reading).time) submission.form.username ∧
      HEq reply (some true) := by
  cases c with
  | consume_invite token_hash consumed_at consumed_by =>
    obtain ⟨_, ⟨code, given, rfl⟩, ⟨now, rfl⟩, rfl⟩ := allowed
    refine ⟨code, now, given, rfl, ?_⟩
    cases reply with
    | none => cases consumed
    | some flag =>
      cases flag with
      | false => cases consumed
      | true => exact HEq.rfl
  | _ => cases consumed

variable [DecidableEq ι]

theorem haveRows_call (rows : HaveRows crates submissions labels P w) {i : ι} {c : Lldap.Call} {reply : Reply c}
    (allowed : Allowed crates config (submissions i) (P i) c) (performed : Perform i w c reply w') :
    HaveRows crates submissions (labels ++ [.call i c reply]) (Function.update P i ((P i).after c reply)) w' := by
  have kept := haveRows_perform rows performed (.call i c reply)
  intro j redeemed
  by_cases same : j = i
  · subst same
    rw [Function.update_self, after_redeemed allowed, Bool.or_eq_true] at redeemed
    rcases redeemed with before | consumed
    · exact kept j before
    · obtain ⟨code, now, given, rfl, answer⟩ := consumption_own allowed consumed
      cases answer
      rcases perform_store performed with ⟨_, silent⟩ | ⟨_, _, _, _, sameCall, step, answered⟩
      · rw [silent] at consumed
        cases consumed
      · cases sameCall
        rw [answered.mp consumed] at step
        obtain ⟨row, stored, hash, at_, by_, unrevoked, early⟩ := consumed_row step
        refine ⟨row, stored, ⟨code, given, hash⟩, by_, unrevoked, now, at_, early, ?_⟩
        rw [hash]
        exact List.mem_append_right _ List.mem_cons_self
  · rw [Function.update_of_ne same] at redeemed
    exact kept j redeemed

theorem told_call (told : Told crates submissions labels P) {i : ι} {c : Lldap.Call} {reply : Reply c}
    (allowed : Allowed crates config (submissions i) (P i) c) :
    Told crates submissions (labels ++ [.call i c reply]) (Function.update P i ((P i).after c reply)) := by
  intro j c' reply' member consumed
  rcases List.mem_append.mp member with before | last
  · obtain ⟨redeemed, own⟩ := told j c' reply' before consumed
    refine ⟨?_, own⟩
    by_cases same : j = i
    · subst same
      rw [Function.update_self, after_redeemed allowed, redeemed, Bool.true_or]
    · rwa [Function.update_of_ne same]
  · cases List.mem_singleton.mp last
    obtain ⟨code, now, given, sameCall, _⟩ := consumption_own allowed consumed
    refine ⟨?_, code, now, given, sameCall⟩
    rw [Function.update_self, after_redeemed allowed, consumed, Bool.or_true]

variable {start : World ι} {s : System (World ι) ι Lldap.Call Reply (Outcome FormPage)}

/-- Run lemma: a request that has redeemed its invite has its row. -/
theorem run_haveRows (run : Run (Redemptions crates config submissions) (.initial start) labels s) :
    HaveRows crates submissions labels
      (progress (fun i => discipline crates config (submissions i)) .start labels) s.world := by
  refine run_invariant (fun i => obeys_submit_invite crates config (submissions i)) ?_ ?_ ?_ ?_ run
  · exact fun i labels P w rows => haveRows_same rows _ rfl
  · exact fun i labels P w c reply w' rows allowed performed => haveRows_call rows allowed performed
  · exact fun s labels P w' _ rows changed => haveRows_outside rows changed _
  · rintro i ⟨⟩

/-- Run lemma: a request that was told that it consumed its invite has redeemed
    it, for good. -/
theorem run_told (run : Run (Redemptions crates config submissions) (.initial start) labels s) :
    Told crates submissions labels (progress (fun i => discipline crates config (submissions i)) .start labels) := by
  have calls : ∀ (i : ι) labels P (w : World ι) c reply (w' : World ι), Told crates submissions labels P →
      Allowed crates config (submissions i) (P i) c → Perform i w c reply w' →
      Told crates submissions (labels ++ [.call i c reply]) (Function.update P i ((P i).after c reply)) :=
    fun _ _ _ _ _ _ _ told allowed _ => told_call told allowed
  refine run_invariant (fun i => obeys_submit_invite crates config (submissions i)) ?_ calls ?_ ?_ run
  · exact fun i labels P w told => told_snoc told (by rintro _ _ _ ⟨⟩)
  · exact fun s labels P w' _ told _ => told_snoc told (by rintro _ _ _ ⟨⟩)
  · rintro i c reply ⟨⟩

end
end InviteSystem.RedeemedInvites
