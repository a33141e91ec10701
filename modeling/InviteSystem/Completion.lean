import InviteSystem.SignIns

/-!
No request waits for another: whatever the others have done or left undone, a
request can be brought to its answer by its own steps and the end of its own
verification.
-/
namespace InviteSystem.Completion
open InviteSystem.Runs InviteSystem.Text InviteSystem.Libraries InviteSystem.Transactions InviteSystem.Authentication
open InviteSystem.InviteStorage (Database)
open InviteSystem.Programs InviteSystem.Traces InviteSystem.Accounts InviteSystem.DirectoryServer
open InviteSystem.Application InviteSystem.SignIns

section
variable {ι : Type} [DecidableEq ι] {crates : Crates} {config : AppConfig} {arrivals : ι → Arrival}

/-! ### A verification is not lost -/

/-- The label awaits a verification of this request. -/
def Awaits (i : ι) (l : Label ι Call Reply) : Prop := ∃ outcome, l = .call i (.admin .join_verification) outcome

/-- A verification that was spawned and not awaited runs, or its outcome is there. -/
def Pending (labels : List (Label ι Call Reply)) (w : World ι) : Prop :=
  ∀ i stored_hash password, spawned i stored_hash password ∈ labels → (∀ l ∈ labels, ¬ Awaits i l) →
    w.outcomes i ≠ none ∨ ∃ task, (i, task) ∈ w.tasks

variable {labels : List (Label ι Call Reply)} {w w' : World ι}

omit [DecidableEq ι] in
theorem Pending.snoc {l : Label ι Call Reply} (pending : Pending labels w)
    (unspawned : ∀ i stored_hash password, l ≠ spawned i stored_hash password)
    (idle : w'.permits = w.permits ∧ w'.tasks = w.tasks ∧ w'.outcomes = w.outcomes) : Pending (labels ++ [l]) w' := by
  obtain ⟨_, tasks, outcomes⟩ := idle
  intro i stored_hash password member unawaited
  rw [List.forall_mem_append] at unawaited
  rw [tasks, outcomes]
  rcases List.mem_append.mp member with earlier | new
  · exact pending i stored_hash password earlier unawaited.1
  · exact absurd (List.mem_singleton.mp new).symm (unspawned i stored_hash password)

theorem pending_call {i : ι} {c : Call} {reply : Reply c} (pending : Pending labels w)
    (performed : Perform crates i w c reply w') : Pending (labels ++ [.call i c reply]) w' := by
  by_cases spawning : ∃ stored_hash password, c = .admin (.spawn_verification stored_hash password)
  · obtain ⟨stored_hash, password, rfl⟩ := spawning
    rcases performed with ⟨_, rfl, rfl⟩ | ⟨free, rfl, rfl⟩
    · exact pending.snoc (by rintro j stored_hash' password' ⟨⟩) ⟨rfl, rfl, rfl⟩
    · intro j stored_hash' password' member unawaited
      rw [List.forall_mem_append] at unawaited
      rcases List.mem_append.mp member with earlier | new
      · refine (pending j stored_hash' password' earlier unawaited.1).imp_right ?_
        rintro ⟨task, running⟩
        exact ⟨task, List.mem_append_left _ running⟩
      · cases List.mem_singleton.mp new
        exact .inr ⟨_, List.mem_append_right _ (List.mem_singleton_self _)⟩
  have unspawned : ∀ j stored_hash password, (.call i c reply : Label ι Call Reply) ≠ spawned j stored_hash password := by
    rintro j stored_hash password ⟨⟩
    exact spawning ⟨stored_hash, password, rfl⟩
  by_cases joining : c = .admin .join_verification
  · subst joining
    obtain ⟨outcome, rfl⟩ := performed
    intro j stored_hash password member unawaited
    rw [List.forall_mem_append] at unawaited
    have earlier : spawned j stored_hash password ∈ labels := (List.mem_append.mp member).resolve_right fun new =>
      unspawned j stored_hash password (List.mem_singleton.mp new).symm
    have other : j ≠ i := by
      rintro rfl
      exact unawaited.2 _ (List.mem_singleton_self _) ⟨reply, rfl⟩
    simpa only [Function.update_of_ne other] using pending j stored_hash password earlier unawaited.1
  · exact pending.snoc unspawned
      (perform_verifier (fun stored_hash password same => spawning ⟨stored_hash, password, same⟩) joining performed)

theorem pending_outside (pending : Pending labels w) (changed : Outside crates w w') : Pending (labels ++ [.outside]) w' := by
  cases changed with
  | @ended before after j stored_hash password outcome running answer =>
    intro i stored_hash' password' member unawaited
    rw [List.forall_mem_append] at unawaited
    by_cases own : i = j
    · subst own
      exact .inl (by simp)
    · have earlier : spawned i stored_hash' password' ∈ labels := by simpa [spawned] using member
      rcases pending i stored_hash' password' earlier unawaited.1 with ready | ⟨task, busy⟩
      · exact .inl (by simpa only [Function.update_of_ne own] using ready)
      · rw [running] at busy
        refine .inr ⟨task, ?_⟩
        rcases List.mem_append.mp busy with first | rest
        · exact List.mem_append_left _ first
        · rcases List.mem_cons.mp rest with same | second
          · exact absurd (congrArg Prod.fst same) own
          · exact List.mem_append_right _ second
  | cleanup => exact pending.snoc (by rintro i stored_hash password ⟨⟩) ⟨rfl, rfl, rfl⟩
  | directory => exact pending.snoc (by rintro i stored_hash password ⟨⟩) ⟨rfl, rfl, rfl⟩

variable {started : Instant} {directory : Directory ι} {store : Database} {s : System (World ι) ι Call Reply Answer}

theorem run_pending
    (run : Run (Steps crates config arrivals) (.initial (World.initialized started directory store)) labels s) :
    Pending labels s.world := by
  refine run_traces Pending ?_ ?_ ?_ ?_ run
  · exact fun _ _ _ pending => pending.snoc (by rintro i stored_hash password ⟨⟩) ⟨rfl, rfl, rfl⟩
  · exact fun _ _ _ _ _ _ _ pending _ performed => pending_call pending performed
  · exact fun _ _ _ pending changed => pending_outside pending changed
  · rintro i stored_hash password ⟨⟩

/-- What a request awaits runs, or has ended. -/
theorem awaited_ready
    (run : Run (Steps crates config arrivals) (.initial (World.initialized started directory store)) labels s) {i : ι}
    {next : Reply (.admin .join_verification) → Program Call Reply Answer}
    (running : s.programs i = some (.call (.admin .join_verification) next)) :
    ∃ ready outcome, (ready = s.world ∨ Ends crates i s.world ready) ∧ ready.outcomes i = some outcome := by
  obtain ⟨request, own, next', _, calls, within⟩ := reaches_admin ((run_reaches run i).2 _ running)
  obtain ⟨form, next'', _, _, login⟩ := AdminTraces.reaches_signingIn rfl within
  obtain ⟨_, _, now, after, rfl, cases⟩ := AdminTraces.login_calls (by rintro ⟨⟩) (by rintro _ ⟨⟩) login
  obtain ⟨same, _⟩ | ⟨_, rfl⟩ | ⟨rest, _, _, issuing⟩ := cases
  · cases same
  · have spawning : spawned i config.admin.auth.password_hash form.password ∈ labels := (own_sublist calls).subset (by
      simp [spawned])
    have unawaited : ∀ l ∈ labels, ¬ Awaits i l := by
      rintro l member ⟨outcome, rfl⟩
      have made := mem_callsOf.mpr member
      rw [calls] at made
      simp [callAlong] at made
    rcases run_pending run i _ _ spawning unawaited with ended | ⟨task, busy⟩
    · obtain ⟨outcome, there⟩ := Option.ne_none_iff_exists'.mp ended
      exact ⟨s.world, outcome, .inl rfl, there⟩
    · obtain ⟨before, after, tasks⟩ := List.mem_iff_append.mp busy
      refine ⟨_, some (crates.verify_password task.1 (bytes task.2)), .inr ⟨before, after, task.1, task.2, _, tasks,
        .inr rfl, rfl⟩, Function.update_self ..⟩
  · have issues : Only (fun c => c ≠ .join_verification) AdminPrograms.issue_session :=
      ⟨by rintro ⟨⟩, fun _ => ⟨by rintro ⟨⟩, fun _ => ⟨by rintro ⟨⟩, fun _ => trivial⟩⟩⟩
    exact absurd rfl (only_call (P := fun c => c ≠ .join_verification) issues issuing)

/-- Every other call can be made at once. -/
theorem call_available (i : ι) (w : World ι) (c : Call) (other : c ≠ .admin .join_verification) :
    ∃ reply w', Perform crates i w c reply w' := by
  cases c with
  | redemption c =>
    exact ⟨_, _, _, serve_performs (servedConditions false) i c ⟨w.directory, w.store⟩, rfl⟩
  | admin c =>
    cases c with
    | join_verification => exact absurd rfl other
    | spawn_verification stored_hash password =>
      by_cases held : w.permits = 0
      · exact ⟨_, _, .inl ⟨held, rfl, rfl⟩⟩
      · exact ⟨_, _, .inr ⟨Nat.pos_of_ne_zero held, rfl, rfl⟩⟩
    | repository call => exact ⟨none, _, w.store, rfl, .failed⟩
    | list_recent limit => exact ⟨none, w, rfl, .inl rfl⟩
    | logout token => exact ⟨(), _, rfl⟩
    | reserve_attempt now => exact ⟨_, _, rfl, rfl⟩
    | issue_session drawn now => exact ⟨_, _, rfl, rfl⟩
    | csrf_token_at token now => exact ⟨_, _, rfl, rfl⟩
    | instant_now => exact ⟨(morningMeets 0).now, w, rfl⟩
    | utc_now => exact ⟨(morningMeets 0).utc, w, rfl⟩
    | draw_session => exact ⟨(morningMeets 0).session, w, rfl⟩
    | draw_challenge => exact ⟨(morningMeets 0).challenge, w, rfl⟩
    | draw_invite => exact ⟨(morningMeets 0).invite, w, rfl⟩
    | draw_uuid => exact ⟨(morningMeets 0).uuid, w, rfl⟩

/-- No request is ever stuck, nor waits for another: from every state that the
    application can reach, each request that has arrived can be brought to its
    answer with no step of another request, and nothing else has to happen than
    that its own verification ends. -/
theorem request_completes
    (run : Run (Steps crates config arrivals) (.initial (World.initialized started directory store)) labels s) {i : ι}
    {rest : Program Call Reply Answer} (running : s.programs i = some rest) :
    ∃ more s' answer, Run (Step (fun i => program crates config (arrivals i)) (Perform crates)
        (fun s => Ends crates i s.world)) s more s' ∧
      s'.programs i = some (.ret answer) ∧ ∀ l ∈ more, TakenBy i l := by
  refine run_completes (fun s => Ends crates i s.world) (fun s => ∃ labels, Run (Steps crates config arrivals)
    (.initial (World.initialized started directory store)) labels s) ?_ ?_ rest ⟨labels, run⟩ running
  · rintro s l s' ⟨labels, run⟩ taken
    exact ⟨labels ++ [l], run.next (taken.mono (fun _ _ _ _ _ performed => performed) fun _ _ ends => ends.outside)⟩
  · rintro s c next ⟨labels, run⟩ running
    by_cases awaits : c = .admin .join_verification
    · subst awaits
      obtain ⟨ready, outcome, waited, there⟩ := awaited_ready run running
      exact ⟨ready, outcome, _, waited, there, rfl⟩
    · obtain ⟨reply, w', performed⟩ := call_available i s.world c awaits
      exact ⟨s.world, reply, w', .inl rfl, performed⟩

end

/-- A login whose verification is running comes to its answer. -/
theorem request_completes_sample : ∃ s more s' answer,
    Run (Steps morningCrates morningConfig fun _ : Unit => .admin morningLogin)
      (.initial (World.initialized 0 (servedWorld Unit).directory (InviteStorage.migrated true))) knocking s ∧
    Run (Step (fun _ => program morningCrates morningConfig (.admin morningLogin)) (Perform morningCrates)
      (fun s => Ends morningCrates () s.world)) s more s' ∧
    s'.programs () = some (.ret answer) ∧ ∀ l ∈ more, TakenBy () l := by
  obtain ⟨s, rest, run, running⟩ := knocking_run
  obtain ⟨more, s', answer, completing, ended, own⟩ := request_completes run running
  exact ⟨s, more, s', answer, run, completing, ended, own⟩

end InviteSystem.Completion
