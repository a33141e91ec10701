import InviteSystem.AdminTraces
import InviteSystem.DirectoryServer

/-!
The whole application, from its handlers on: requests of the administrator and
redemptions over one state of authentication, one invite store and one
directory, each access one step, in any order. Beside them verifications end,
the cleanup runs and others change the directory. A request whose client has
gone away takes no more steps; its verification goes on.
-/
namespace InviteSystem.Application
open InviteSystem.Runs InviteSystem.Text InviteSystem.Chrono InviteSystem.Libraries InviteSystem.Tokens
open InviteSystem.Transactions InviteSystem.Authentication InviteSystem.AdminRoutes
open InviteSystem.InviteStorage (Database Fault)
open InviteSystem.Programs InviteSystem.Traces InviteSystem.Accounts InviteSystem.SubmitInvite InviteSystem.DirectoryServer

/-- The one permit of the verifier is in `permits`, or with a task. -/
@[ext] structure World (ι : Type) where
  auth : AuthState
  permits : Nat
  /-- The verifications that run: the request that spawned it, the stored hash, and the password. -/
  tasks : List (ι × String × String)
  /-- What became of the verification of a request that has not taken it yet: `none` where it was lost. -/
  outcomes : ι → Option (Option Bool)
  directory : Directory ι
  store : Database

/-- The state after `AppState::initialize`. -/
def World.initialized {ι : Type} (started : Instant) (directory : Directory ι) (store : Database) : World ι :=
  ⟨.initial started, 1, [], fun _ => none, directory, store⟩

inductive Call
  | admin (c : AdminPrograms.Call)
  | redemption (c : Lldap.Call)

@[reducible] def Reply : Call → Type
  | .admin c => AdminPrograms.Reply c
  | .redemption c => Lldap.Reply c

inductive Arrival
  | admin (request : Request)
  | redemption (submission : Submission)

inductive Answer
  | admin (response : Response)
  | redemption (page : Outcome FormPage)
deriving DecidableEq

structure AppConfig where
  admin : AdminConfig
  submit : SubmitConfig

def program (crates : Crates) (config : AppConfig) : Arrival → Program Call Reply Answer
  | .admin request => along Call.admin Answer.admin (AdminPrograms.handle crates config.admin request)
  | .redemption submission =>
    along (R := Reply) Call.redemption Answer.redemption (submit_invite crates config.submit submission)

section
variable {ι : Type} [DecidableEq ι]

/-- Readings of the clocks and random draws are arbitrary. -/
def PerformAdmin (crates : Crates) (i : ι) (w : World ι) : (c : AdminPrograms.Call) → AdminPrograms.Reply c → World ι → Prop
  | .reserve_attempt now, reply, w' =>
    reply = (reserve_attempt w.auth now).1 ∧ w' = { w with auth := (reserve_attempt w.auth now).2 }
  | .spawn_verification stored_hash password, acquired, w' =>
    (w.permits = 0 ∧ acquired = false ∧ w' = w) ∨
      (0 < w.permits ∧ acquired = true ∧
        w' = { w with permits := w.permits - 1, tasks := w.tasks ++ [(i, stored_hash, password)] })
  | .join_verification, outcome, w' =>
    w.outcomes i = some outcome ∧ w' = { w with outcomes := Function.update w.outcomes i none }
  | .issue_session drawn now, token, w' =>
    token = (issue_session crates drawn now w.auth).1 ∧ w' = { w with auth := (issue_session crates drawn now w.auth).2 }
  | .csrf_token_at token now, csrf, w' =>
    csrf = (csrf_token_at crates token now w.auth).1 ∧ w' = { w with auth := (csrf_token_at crates token now w.auth).2 }
  | .logout token, _, w' => w' = { w with auth := logout crates token w.auth }
  | .list_recent limit, invites, w' => w' = w ∧ (invites = none ∨ invites = some (InviteStorage.list_recent w.store limit))
  | .repository call, result, w' => ∃ store, w' = { w with store := store } ∧
      Atomic InviteStorage.Call.code w.store (call, result) store
  | _, _, w' => w' = w

def Perform (crates : Crates) (i : ι) (w : World ι) : (c : Call) → Reply c → World ι → Prop
  | .admin c, reply, w' => PerformAdmin crates i w c reply w'
  | .redemption c, reply, w' => ∃ after : RedemptionSystem.World ι,
      RedemptionSystem.Perform i ⟨w.directory, w.store⟩ c reply after ∧
        w' = { w with directory := after.directory, store := after.store }

/-- What happens beside the requests. -/
inductive Outside (crates : Crates) (w : World ι) : World ι → Prop
  /-- A verification ends, by its answer or by a panic, and the permit is free again. -/
  | ended {before after : List (ι × String × String)} {i : ι} {stored_hash password : String} {outcome : Option Bool}
      (running : w.tasks = before ++ (i, stored_hash, password) :: after)
      (answer : outcome = none ∨ outcome = some (crates.verify_password stored_hash (bytes password))) :
      Outside crates w { w with
        permits := w.permits + 1, tasks := before ++ after, outcomes := Function.update w.outcomes i (some outcome) }
  | cleanup {cutoff : String} {result : Option InviteStorage.Reply} {store : Database}
      (step : Atomic InviteStorage.Call.code w.store (.cleanup_stale cutoff, result) store) :
      Outside crates w { w with store := store }
  /-- Any change of the directory by others, whose accounts are known as theirs. -/
  | directory {directory : Directory ι}
      (others : ∀ id account, directory.account id = some account → account.origin ≠ .outside →
        ∃ before, w.directory.account id = some before ∧ before.origin = account.origin) :
      Outside crates w { w with directory := directory }

abbrev Steps (crates : Crates) (config : AppConfig) (arrivals : ι → Arrival) :=
  Step (fun i => program crates config (arrivals i)) (Perform crates) (fun s : System (World ι) ι Call Reply Answer =>
    Outside crates s.world)

/-- A verification of this request ends. -/
def Ends (crates : Crates) (i : ι) (w w' : World ι) : Prop :=
  ∃ before after stored_hash password outcome, w.tasks = before ++ (i, stored_hash, password) :: after ∧
    (outcome = none ∨ outcome = some (crates.verify_password stored_hash (bytes password))) ∧
    w' = { w with
      permits := w.permits + 1, tasks := before ++ after, outcomes := Function.update w.outcomes i (some outcome) }

theorem Ends.outside {crates : Crates} {i : ι} {w w' : World ι} (ends : Ends crates i w w') : Outside crates w w' := by
  obtain ⟨before, after, stored_hash, password, outcome, running, answer, rfl⟩ := ends
  exact .ended running answer

/-- The steps where nothing goes on beside the requests but that verifications end. -/
abbrev OwnSteps (crates : Crates) (config : AppConfig) (arrivals : ι → Arrival) :=
  Step (fun i => program crates config (arrivals i)) (Perform crates) (fun s : System (World ι) ι Call Reply Answer =>
    fun w' => ∃ i, Ends crates i s.world w')

theorem OwnSteps.steps {crates : Crates} {config : AppConfig} {arrivals : ι → Arrival}
    {s s' : System (World ι) ι Call Reply Answer} {labels : List (Label ι Call Reply)}
    (run : Run (OwnSteps crates config arrivals) s labels s') : Run (Steps crates config arrivals) s labels s' :=
  run.mono fun _ _ _ step => step.mono (fun _ _ _ _ _ performed => performed) fun _ _ ⟨_, ends⟩ => ends.outside

/-! ### A request that meets no other -/

/-- The calls of the request are answered as its surroundings and the application that it finds say. -/
def Met (crates : Crates) (i : ι) (meets : Surroundings) (app : App) (labels : List (Label ι Call Reply)) : Prop :=
  ∃ own left, callsOf i labels = own.map (callAlong (R := Reply) Call.admin) ∧
    AnsweredBy (AdminPrograms.respond crates meets) ⟨app, [meets.now, meets.later], none⟩ own left

/-- Those of a redemption are answered by a directory and a store without faults. -/
def Faultless (conditions : Conditions) (i : ι) (w : RedemptionSystem.World ι) (labels : List (Label ι Call Reply)) : Prop :=
  ∃ own left, callsOf i labels = own.map (callAlong (R := Reply) Call.redemption) ∧
    AnsweredBy (DirectoryServer.serve conditions i) w own left

/-- The world behind a request that alone takes steps from `base` on. -/
structure Follows (base : World ι) (i : ι) (running : Bool) (alone : AdminPrograms.Alone) (w : World ι) : Prop where
  auth : w.auth = alone.app.auth
  store : w.store = alone.app.store
  directory : w.directory = base.directory
  outcomes : w.outcomes = base.outcomes
  idle : running = false → w.permits = base.permits ∧ w.tasks = base.tasks
  busy : running = true → ∃ task, alone.task = some task ∧ w.permits + 1 = base.permits ∧
    w.tasks = base.tasks ++ [(i, task)]

variable {crates : Crates} {base : World ι} {i : ι} {meets : Surroundings}

/-- The world does what the surroundings of the request answer; before the
    verification is awaited, it ends. -/
theorem follows_answer (unspawned : base.outcomes i = none) (permit : meets.verifier.busy = true ↔ base.permits = 0)
    {running : Bool} {alone : AdminPrograms.Alone} {w : World ι} {c : AdminPrograms.Call}
    (follows : Follows base i running alone w) (allowed : AdminTraces.awaiting.allowed running c) :
    ∃ ready w', (ready = w ∨ Ends crates i w ready) ∧
      PerformAdmin crates i ready c (AdminPrograms.respond crates meets c alone).1 w' ∧
      Follows base i (AdminTraces.awaiting.after running c (AdminPrograms.respond crates meets c alone).1)
        (AdminPrograms.respond crates meets c alone).2 w' := by
  obtain ⟨auth, store, directory, outcomes, idle, busy⟩ := follows
  cases c with
  | spawn_verification stored_hash password =>
    cases allowed
    obtain ⟨permits, tasks⟩ := idle rfl
    refine ⟨w, ?_⟩
    cases held : meets.verifier.busy with
    | true =>
      refine ⟨w, .inl rfl, .inl ⟨?_, ?_, rfl⟩, ?_⟩
      · rw [permits]
        exact permit.mp held
      · simp [AdminPrograms.respond, held]
      · simp only [AdminPrograms.respond, held, if_true]
        exact ⟨auth, store, directory, outcomes, fun _ => ⟨permits, tasks⟩, by rintro ⟨⟩⟩
    | false =>
      have free : 0 < base.permits := Nat.pos_of_ne_zero fun none => by rw [permit.mpr none] at held; cases held
      refine ⟨_, .inl rfl, .inr ⟨by rw [permits]; exact free, ?_, rfl⟩, ?_⟩
      · simp [AdminPrograms.respond, held]
      · simp only [AdminPrograms.respond, held]
        refine ⟨auth, store, directory, outcomes, by rintro ⟨⟩, fun _ => ⟨_, rfl, ?_, by rw [tasks]⟩⟩
        show w.permits - 1 + 1 = base.permits
        omega
  | join_verification =>
    cases allowed
    obtain ⟨task, running, permits, tasks⟩ := busy rfl
    obtain ⟨outcome, awaited, answer⟩ : ∃ outcome,
        (AdminPrograms.respond crates meets .join_verification alone).1 = outcome ∧
          (outcome = none ∨ outcome = some (crates.verify_password task.1 (bytes task.2))) := by
      refine ⟨_, rfl, ?_⟩
      cases lost : meets.verifier.lost <;> simp [AdminPrograms.respond, lost, running]
    have ended : Ends crates i w { w with
        permits := w.permits + 1, tasks := base.tasks ++ [], outcomes := Function.update w.outcomes i (some outcome) } :=
      ⟨base.tasks, [], task.1, task.2, outcome, tasks, answer, rfl⟩
    refine ⟨_, _, .inr ended, ⟨?_, rfl⟩, ⟨auth, store, directory, ?_, fun _ => ⟨permits, List.append_nil _⟩, by rintro ⟨⟩⟩⟩
    · rw [awaited]
      exact Function.update_self ..
    · rw [outcomes]
      show Function.update (Function.update base.outcomes i (some outcome)) i none = base.outcomes
      rw [Function.update_idem, ← unspawned, Function.update_eq_self]
  | reserve_attempt now =>
    exact ⟨w, _, .inl rfl, ⟨by rw [auth]; rfl, rfl⟩, ⟨by rw [auth]; rfl, store, directory, outcomes, idle, busy⟩⟩
  | issue_session drawn now =>
    exact ⟨w, _, .inl rfl, ⟨by rw [auth]; rfl, rfl⟩, ⟨by rw [auth]; rfl, store, directory, outcomes, idle, busy⟩⟩
  | csrf_token_at token now =>
    exact ⟨w, _, .inl rfl, ⟨by rw [auth]; rfl, rfl⟩, ⟨by rw [auth]; rfl, store, directory, outcomes, idle, busy⟩⟩
  | logout token =>
    exact ⟨w, _, .inl rfl, rfl, ⟨by rw [auth]; rfl, store, directory, outcomes, idle, busy⟩⟩
  | list_recent limit =>
    refine ⟨w, w, .inl rfl, ⟨rfl, ?_⟩, ⟨auth, store, directory, outcomes, idle, busy⟩⟩
    by_cases quiet : meets.fault = .none <;> simp [AdminPrograms.respond, quiet, store]
  | repository call =>
    have performed := InviteStorage.perform_atomic meets.fault call w.store
    refine ⟨w, { w with store := (meets.fault.perform call w.store).2 }, .inl rfl, ⟨_, rfl, ?_⟩,
      ⟨auth, ?_, directory, outcomes, idle, busy⟩⟩
    · simp only [AdminPrograms.respond, ← store]
      exact performed
    · simp only [AdminPrograms.respond, ← store]
  | _ => exact ⟨w, w, .inl rfl, rfl, ⟨auth, store, directory, outcomes, idle, busy⟩⟩

/-- A request that meets no other but these surroundings: its own steps, and the
    end of its verification, lead to the response of `handle` and to what
    `handle` leaves. -/
theorem handled_alone (crates : Crates) (config : AppConfig) (arrivals : ι → Arrival) {i : ι} {request : Request}
    (arrives : arrivals i = .admin request) (s : System (World ι) ι Call Reply Answer) (absent : s.programs i = none)
    (unspawned : s.world.outcomes i = none) (meets : Surroundings)
    (permit : meets.verifier.busy = true ↔ s.world.permits = 0) {response : Response} {app : App}
    (handled : handle crates config.admin request meets ⟨s.world.auth, s.world.store⟩ = (response, app)) :
    ∃ labels, Run (OwnSteps crates config arrivals) s labels
        ⟨{ s.world with auth := app.auth, store := app.store },
          Function.update s.programs i (some (.ret (.admin response)))⟩ ∧ (∀ l ∈ labels, TakenBy i l) ∧
      Met crates i meets ⟨s.world.auth, s.world.store⟩ labels := by
  obtain ⟨left, task, ended⟩ := AdminPrograms.eval_handle crates config.admin request meets
    ⟨s.world.auth, s.world.store⟩
  rw [handled] at ended
  have arrived : OwnSteps crates config arrivals s (.arrival i)
      ⟨s.world, Function.update s.programs i (some (program crates config (arrivals i)))⟩ := .arrival absent
  have present : (⟨s.world, Function.update s.programs i (some (program crates config (arrivals i)))⟩ :
      System (World ι) ι Call Reply Answer).programs i =
        some (along Call.admin Answer.admin (AdminPrograms.handle crates config.admin request)) := by
    simp [arrives, program]
  have begins : Follows s.world i false ⟨⟨s.world.auth, s.world.store⟩, [meets.now, meets.later], none⟩ s.world :=
    ⟨rfl, rfl, rfl, rfl, fun _ => ⟨rfl, rfl⟩, by rintro ⟨⟩⟩
  have followed : ∀ running c alone w, Follows s.world i running alone w → AdminTraces.awaiting.allowed running c →
      ∃ ready w', (ready = w ∨ ∀ programs, ∃ j, Ends crates j
          (⟨w, programs⟩ : System (World ι) ι Call Reply Answer).world ready) ∧
        Perform crates i ready (.admin c) (AdminPrograms.respond crates meets c alone).1 w' ∧
        Follows s.world i (AdminTraces.awaiting.after running c (AdminPrograms.respond crates meets c alone).1)
          (AdminPrograms.respond crates meets c alone).2 w' := by
    intro running c alone w follows allowed
    obtain ⟨ready, w', waited, performed, follows'⟩ := follows_answer unspawned permit follows allowed
    exact ⟨ready, w', waited.imp_right fun changed _ => ⟨i, changed⟩, performed, follows'⟩
  obtain ⟨labels, _, world, rfl, follows, own, ⟨made, calls, answered⟩, run⟩ := answered_run
    (fun i => program crates config (arrivals i)) (Perform crates) (fun s w' => ∃ j, Ends crates j s.world w') Call.admin
    Answer.admin AdminTraces.awaiting (AdminPrograms.respond crates meets) (Follows s.world i) followed _
    (AdminTraces.obeys_handle crates config.admin request) _ present begins
  rw [ended] at follows run
  rw [Function.update_idem] at run
  obtain ⟨permits, tasks⟩ := follows.idle rfl
  have left : world = { s.world with auth := app.auth, store := app.store } :=
    World.ext follows.auth permits tasks follows.outcomes follows.directory follows.store
  subst left
  have arrival : TakenBy (R := Reply) i (.arrival i) := rfl
  exact ⟨[.arrival i] ++ labels, (Run.single arrived).trans run,
    List.forall_mem_append.mpr ⟨List.forall_mem_singleton.mpr arrival, own⟩, made, _, by simpa [callsOf] using calls, answered⟩

/-- A redemption that meets no other, and a directory and a store without faults. -/
theorem redeemed_alone (crates : Crates) (config : AppConfig) (arrivals : ι → Arrival) {i : ι} {submission : Submission}
    (arrives : arrivals i = .redemption submission) (s : System (World ι) ι Call Reply Answer)
    (absent : s.programs i = none) (conditions : Conditions) {page : Outcome FormPage} {after : RedemptionSystem.World ι}
    (served : (submit_invite crates config.submit submission).eval (serve conditions i)
      ⟨s.world.directory, s.world.store⟩ = (page, after)) :
    ∃ labels, Run (OwnSteps crates config arrivals) s labels
        ⟨{ s.world with directory := after.directory, store := after.store },
          Function.update s.programs i (some (.ret (.redemption page)))⟩ ∧ (∀ l ∈ labels, TakenBy i l) ∧
      Faultless conditions i ⟨s.world.directory, s.world.store⟩ labels := by
  have arrived : OwnSteps crates config arrivals s (.arrival i)
      ⟨s.world, Function.update s.programs i (some (program crates config (arrivals i)))⟩ := .arrival absent
  have present : (⟨s.world, Function.update s.programs i (some (program crates config (arrivals i)))⟩ :
      System (World ι) ι Call Reply Answer).programs i =
        some (along Call.redemption Answer.redemption (submit_invite crates config.submit submission)) := by
    simp [arrives, program]
  let free : Discipline Lldap.Call (fun c => Reply (.redemption c)) Unit := ⟨fun _ _ => True, fun _ _ _ => ()⟩
  have obeys : Obeys free (fun _ _ => True) () (submit_invite crates config.submit submission) :=
    obeys_mono (obeys_only (fun _ _ => ⟨trivial, fun _ => rfl⟩) (only_true _)) fun _ _ _ => trivial
  have followed : ∀ (g : Unit) (c : Lldap.Call) (state : RedemptionSystem.World ι) (w : World ι),
      w = { s.world with directory := state.directory, store := state.store } → free.allowed g c → ∃ ready w',
        (ready = w ∨ ∀ programs, ∃ j, Ends crates j (⟨w, programs⟩ : System (World ι) ι Call Reply Answer).world ready) ∧
        Perform crates i ready (.redemption c) (serve conditions i c state).1 w' ∧
        w' = { s.world with
          directory := (serve conditions i c state).2.directory, store := (serve conditions i c state).2.store } := by
    rintro g c state w rfl _
    exact ⟨_, _, .inl rfl, ⟨_, serve_performs conditions i c state, rfl⟩, rfl⟩
  obtain ⟨labels, _, world, _, left, own, ⟨made, calls, answered⟩, run⟩ := answered_run
    (fun i => program crates config (arrivals i)) (Perform crates) (fun s w' => ∃ j, Ends crates j s.world w')
    Call.redemption Answer.redemption free (serve conditions i)
    (fun _ state w => w = { s.world with directory := state.directory, store := state.store }) followed _ obeys
    ⟨s.world.directory, s.world.store⟩ present rfl
  rw [served] at left run
  rw [Function.update_idem] at run
  subst left
  have arrival : TakenBy (R := Reply) i (.arrival i) := rfl
  exact ⟨[.arrival i] ++ labels, (Run.single arrived).trans run,
    List.forall_mem_append.mpr ⟨List.forall_mem_singleton.mpr arrival, own⟩, made, _, by simpa [callsOf] using calls, answered⟩

end

/-! ### One after the other -/

/-- What comes to the application while nothing else goes on, with all that it meets. -/
inductive Turn
  | admin (request : Request) (meets : Surroundings)
  | redemption (submission : Submission) (conditions : Conditions)
  | cleanup (cutoff : String) (fault : Fault)

def Turn.arrival : Turn → Option Arrival
  | .admin request _ => some (.admin request)
  | .redemption submission _ => some (.redemption submission)
  | .cleanup _ _ => none

/-- The turn served as a whole. -/
def Turn.serve {ι : Type} (crates : Crates) (config : AppConfig) (i : ι) (w : World ι) : Turn → Option Answer × World ι
  | .admin request meets =>
    let handled := handle crates config.admin request meets ⟨w.auth, w.store⟩
    (some (.admin handled.1), { w with auth := handled.2.auth, store := handled.2.store })
  | .redemption submission conditions =>
    let served := (submit_invite crates config.submit submission).eval (DirectoryServer.serve conditions i)
      ⟨w.directory, w.store⟩
    (some (.redemption served.1), { w with directory := served.2.directory, store := served.2.store })
  | .cleanup cutoff fault => (none, { w with store := (fault.perform (.cleanup_stale cutoff) w.store).2 })

/-- The turns one after the other, each under its number: their answers, and the world after them. -/
def serveAll (crates : Crates) (config : AppConfig) (w : World Nat) (turns : List Turn) : List (Option Answer) × World Nat :=
  turns.foldl (fun done turn =>
    let served := turn.serve crates config done.1.length done.2
    (done.1 ++ [served.1], served.2)) ([], w)

section
variable {crates : Crates} {config : AppConfig} {w : World Nat} {turns : List Turn}

theorem serveAll_snoc (turn : Turn) : serveAll crates config w (turns ++ [turn]) =
    ((serveAll crates config w turns).1 ++
        [(turn.serve crates config (serveAll crates config w turns).1.length (serveAll crates config w turns).2).1],
      (turn.serve crates config (serveAll crates config w turns).1.length (serveAll crates config w turns).2).2) := by
  simp [serveAll, List.foldl_append]

theorem length_serveAll : (serveAll crates config w turns).1.length = turns.length := by
  induction turns using List.reverseRecOn with
  | nil => rfl
  | append_singleton turns turn ih => simp [serveAll_snoc, ih]

/-- No turn leaves a verification behind. -/
theorem serveAll_idle : (serveAll crates config w turns).2.permits = w.permits ∧
    (serveAll crates config w turns).2.outcomes = w.outcomes := by
  induction turns using List.reverseRecOn with
  | nil => exact ⟨rfl, rfl⟩
  | append_singleton turns turn ih =>
    rw [serveAll_snoc]
    cases turn <;> exact ih

/-- The step: a turn prolongs a run that has left the verifier alone. -/
theorem turn_run {crates : Crates} {config : AppConfig} {arrivals : Nat → Arrival}
    {start s : System (World Nat) Nat Call Reply Answer} {labels : List (Label Nat Call Reply)}
    (before : Run (Steps crates config arrivals) start labels s) (turn : Turn) (i : Nat) (absent : s.programs i = none)
    (unspawned : s.world.outcomes i = none) (permit : s.world.permits ≠ 0)
    (numbered : ∀ arrival, turn.arrival = some arrival → arrivals i = arrival)
    (free : ∀ request meets, turn = .admin request meets → meets.verifier.busy = false) :
    ∃ labels, Run (Steps crates config arrivals) start labels ⟨(turn.serve crates config i s.world).2,
      Function.update s.programs i ((turn.serve crates config i s.world).1.map .ret)⟩ := by
  cases turn with
  | admin request meets =>
    have held : meets.verifier.busy = true ↔ s.world.permits = 0 := by simp [free request meets rfl, permit]
    obtain ⟨later, run, _⟩ := handled_alone crates config arrivals (numbered _ rfl) s absent unspawned meets held
      Prod.mk.eta.symm
    exact ⟨_, before.trans (OwnSteps.steps run)⟩
  | redemption submission conditions =>
    obtain ⟨later, run, _⟩ := redeemed_alone crates config arrivals (numbered _ rfl) s absent conditions
      Prod.mk.eta.symm
    exact ⟨_, before.trans (OwnSteps.steps run)⟩
  | cleanup cutoff fault =>
    have cleaned : Outside crates s.world
        { s.world with store := (fault.perform (.cleanup_stale cutoff) s.world.store).2 } :=
      .cleanup (InviteStorage.perform_atomic fault (.cleanup_stale cutoff) s.world.store)
    refine ⟨labels ++ [.outside], ?_⟩
    rw [show Function.update s.programs i (Option.map Program.ret (Turn.serve crates config i s.world
      (.cleanup cutoff fault)).1) = s.programs from by rw [Turn.serve, Option.map_none, ← absent, Function.update_eq_self]]
    exact before.next (.outside cleaned)

end

/-- The routes served one after the other are one way the application can go:
    requests of the administrator that find the verifier free, redemptions that
    a faultless directory answers, and cleanups get the answers, and leave the
    sessions, the invites and the accounts, that they do when each is served whole. -/
theorem served_in_turn (crates : Crates) (config : AppConfig) (arrivals : Nat → Arrival) (started : Instant)
    (directory : Directory Nat) (store : Database) (turns : List Turn)
    (numbered : ∀ k turn arrival, turns[k]? = some turn → turn.arrival = some arrival → arrivals k = arrival)
    (free : ∀ request meets, .admin request meets ∈ turns → meets.verifier.busy = false)
    {served : List (Option Answer) × World Nat}
    (result : serveAll crates config (World.initialized started directory store) turns = served) :
    ∃ labels programs, Run (Steps crates config arrivals) (.initial (World.initialized started directory store)) labels
      ⟨served.2, programs⟩ ∧ ∀ k, programs k = (served.1[k]?).join.map .ret := by
  subst result
  induction turns using List.reverseRecOn with
  | nil => exact ⟨[], fun _ => none, .stay, by simp [serveAll]⟩
  | append_singleton turns turn ih =>
    have earlier : ∀ k turn' arrival, turns[k]? = some turn' → turn'.arrival = some arrival → arrivals k = arrival := by
      intro k turn' arrival present arrives
      refine numbered k turn' arrival ?_ arrives
      rw [List.getElem?_append_left (List.getElem?_eq_some_iff.mp present).1, present]
    obtain ⟨labels, programs, run, answered⟩ := ih earlier fun request meets member =>
      free request meets (List.mem_append_left _ member)
    obtain ⟨permits, outcomes⟩ : (serveAll crates config (World.initialized started directory store) turns).2.permits = 1 ∧
        (serveAll crates config (World.initialized started directory store) turns).2.outcomes = fun _ => none :=
      serveAll_idle
    set before := serveAll crates config (World.initialized started directory store) turns with beforeEq
    have many : before.1.length = turns.length := length_serveAll
    have absent : programs before.1.length = none := by simp [answered]
    obtain ⟨later, ran⟩ := turn_run run turn before.1.length absent (by simp [outcomes]) (by simp [permits])
      (fun arrival arrives => numbered _ turn arrival (by simp [many]) arrives)
      (fun request meets same => free request meets (by simp [same]))
    rw [serveAll_snoc, ← beforeEq]
    refine ⟨later, _, ran, ?_⟩
    intro k
    by_cases last : k = before.1.length
    · subst last
      simp
    · rw [Function.update_of_ne last]
      dsimp only
      rw [answered k]
      by_cases inside : k < before.1.length
      · rw [List.getElem?_append_left inside]
      · have beyond : before.1.length < k := by omega
        rw [List.getElem?_eq_none (Nat.le_of_lt beyond), List.getElem?_eq_none (by simpa using beyond)]

/-! ### From the login to the account -/

def morningSession : SessionTokens where
  token := ⟨"u7Hq2ZxMvT9cRb4NwKyE1sLfJ6pGdA8oVi3XtYmQkBrWhCnSjFzUlPgOeIa5D0Tx".toList, by decide, List.all_eq_true.mp (by decide)⟩
  csrf := ⟨"zB4LnXq8RvT1cMwK6yHd3sJfP9uGeA2oVi7YtQmEkSrWhCxNjFzUlZgObIa5D0Tp".toList, by decide, List.all_eq_true.mp (by decide)⟩

def morningCode : Token 32 := ⟨"Wt5KzR8mXq1LcVb7NyHd2JsGf9PuE4Ao".toList, by decide, List.all_eq_true.mp (by decide)⟩

def morningConfig : AppConfig where
  admin := ⟨⟨"operator",
    "$argon2id$v=19$m=19456,t=2,p=1$T03eA4poqCz9APm0+Lk2+A$oVFDns8m9MWCQ27wQTMH4KtltT+6dpnDd5NqdG8cV2k"⟩,
    "https://invite.example.com"⟩
  submit := servedConfig

/-- The libraries on what the sample hands to them. -/
def morningCrates : Crates := { servedCrates with
  sha256 := fun input =>
    if input = bytes morningSession.token.text then
      #v[183, 149, 219, 56, 89, 120, 90, 11, 124, 202, 50, 97, 117, 42, 81, 237, 163, 46, 244, 232, 32, 219, 44, 28, 58,
        254, 35, 250, 130, 106, 117, 206]
    else if input = bytes morningCode.text then
      #v[247, 103, 11, 171, 200, 216, 173, 251, 106, 73, 73, 37, 110, 158, 254, 91, 147, 7, 134, 40, 209, 187, 164, 247,
        35, 1, 84, 136, 59, 79, 183, 81]
    else Vector.replicate 32 0
  parse_datetime := fun text =>
    if text = "2026-03-02T12:00:00+00:00" then some ⟨1772452800000000000, by decide⟩ else none
  groups_to_json := fun groups => if groups = ["staff"] then "[\"staff\"]" else "[]"
  groups_from_json := fun text => if text = "[\"staff\"]" then some ["staff"] else none
  verify_password := fun hash password =>
    hash = morningConfig.admin.auth.password_hash ∧ password = bytes "test-only admin password" }

def morningMeets (second : Nat) : Surroundings where
  now := from_secs second
  later := from_secs second
  utc := (servedConditions true).now
  session := morningSession
  challenge := morningSession.csrf
  invite := morningCode
  uuid := "41d3a1e0-7c55-4b0f-9d0e-3a6f2b8c9e17"
  verifier := ⟨false, false⟩
  fault := .none

def morningRequest (cookie value : String) (endpoint : Endpoint) : Request where
  headers := [("origin", bytes "https://invite.example.com"), ("sec-fetch-site", bytes "same-origin")]
  cookies := fun name => if name = cookie then some value else none
  endpoint := endpoint

def morningLogin : Request :=
  morningRequest LOGIN_COOKIE morningSession.csrf.text (.login ⟨"operator", "test-only admin password", morningSession.csrf.text⟩)

def morningGenerate : Request :=
  morningRequest SESSION_COOKIE morningSession.token.text (.generate_invite ⟨morningSession.csrf.text, "staff", 24⟩)

/-- The administrator signs in and generates an invite, which `bob` redeems, all of it at noon. -/
def morning : List Turn :=
  [.admin morningLogin (morningMeets 10), .admin morningGenerate (morningMeets 70),
    .redemption (applicant morningCode.text "bob") (servedConditions true)]

def morningArrivals : Nat → Arrival
  | 0 => .admin morningLogin
  | 1 => .admin morningGenerate
  | _ => .redemption (applicant morningCode.text "bob")

theorem served_in_turn_sample : ∃ labels s, Run (Steps morningCrates morningConfig morningArrivals)
      (.initial (World.initialized 0 (servedWorld Nat).directory (InviteStorage.migrated true))) labels s ∧
    s.programs 2 = some (.ret (.redemption accountCreated)) ∧
    s.world.directory.accounts.map Account.id = ["bob"] := by
  have answers : (serveAll morningCrates morningConfig (World.initialized 0 (servedWorld Nat).directory
      (InviteStorage.migrated true)) morning).1[2]? = some (some (.redemption accountCreated)) := by decide
  have accounts : (serveAll morningCrates morningConfig (World.initialized 0 (servedWorld Nat).directory
      (InviteStorage.migrated true)) morning).2.directory.accounts.map Account.id = ["bob"] := by decide
  have numbered : ∀ k turn arrival, morning[k]? = some turn → turn.arrival = some arrival → morningArrivals k = arrival := by
    rintro (_ | _ | _ | k) turn arrival present arrives
    · cases present
      cases arrives
      rfl
    · cases present
      cases arrives
      rfl
    · cases present
      cases arrives
      rfl
    · cases present
  have free : ∀ request meets, .admin request meets ∈ morning → meets.verifier.busy = false := by
    intro request meets member
    simp only [morning, List.mem_cons, Turn.admin.injEq, reduceCtorEq, List.not_mem_nil, or_false] at member
    rcases member with ⟨_, rfl⟩ | ⟨_, rfl⟩ <;> rfl
  obtain ⟨labels, programs, run, answered⟩ := served_in_turn morningCrates morningConfig morningArrivals 0
    (servedWorld Nat).directory (InviteStorage.migrated true) morning numbered free rfl
  exact ⟨labels, _, run, by simp [answered, answers], accounts⟩

/-- The morning is a run. -/
theorem morning_run : ∃ labels programs, Run (Steps morningCrates morningConfig morningArrivals)
    (.initial (World.initialized 0 (servedWorld Nat).directory (InviteStorage.migrated true))) labels
    ⟨(serveAll morningCrates morningConfig (World.initialized 0 (servedWorld Nat).directory
      (InviteStorage.migrated true)) morning).2, programs⟩ := by
  have start : Run (Steps morningCrates morningConfig morningArrivals)
      (.initial (World.initialized 0 (servedWorld Nat).directory (InviteStorage.migrated true))) []
      (.initial (World.initialized 0 (servedWorld Nat).directory (InviteStorage.migrated true))) := .stay
  obtain ⟨_, login⟩ := turn_run start
    (.admin morningLogin (morningMeets 10)) 0 rfl rfl Nat.one_ne_zero (by rintro _ ⟨⟩; rfl) (by rintro _ _ ⟨⟩; rfl)
  obtain ⟨_, generate⟩ := turn_run login (.admin morningGenerate (morningMeets 70)) 1 rfl rfl Nat.one_ne_zero
    (by rintro _ ⟨⟩; rfl) (by rintro _ _ ⟨⟩; rfl)
  obtain ⟨_, redeem⟩ := turn_run generate (.redemption (applicant morningCode.text "bob") (servedConditions true)) 2 rfl
    rfl Nat.one_ne_zero (by rintro _ ⟨⟩; rfl) (by rintro _ _ ⟨⟩)
  exact ⟨_, _, redeem⟩

end InviteSystem.Application
