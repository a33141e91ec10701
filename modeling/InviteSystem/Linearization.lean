import InviteSystem.SignIns

/-!
Every answer that the concurrent application gives to the administrator is the
answer of the sequential handler: the guard of the request saw the state of
authentication of one moment between its arrival and its answer, its access to
the store took effect as a whole at one later moment, and nothing else that ran
beside it made any difference.
-/
namespace InviteSystem.Linearization
open InviteSystem.Runs InviteSystem.Text InviteSystem.Chrono InviteSystem.Libraries InviteSystem.Tokens
open InviteSystem.Transactions InviteSystem.Authentication InviteSystem.InviteRoutes InviteSystem.AdminRoutes
open InviteSystem.InviteStorage (Database Fault)
open InviteSystem.Programs InviteSystem.Traces InviteSystem.AdminPrograms
open InviteSystem.AdminTraces (Made Privileged)
open InviteSystem.Application (World AppConfig Arrival Answer PerformAdmin Steps Met)
open InviteSystem.SignIns

/-! ### What the calls of a request look like -/

/-- The replies are those of the surroundings. -/
abbrev Answers (crates : Crates) (meets : Surroundings) : Alone → List Made → Alone → Prop :=
  AnsweredBy (respond crates meets)

section
variable {crates : Crates} {config : AdminConfig} {request : Request} {calls : List Made}

/-- Where the replies of a request are those of its surroundings, its response
    is that of the handler. -/
theorem handle_of_answers {meets : Surroundings} {app : App} {alone : Alone} {response : Response}
    (reached : Reaches (AdminPrograms.handle crates config request) calls (.ret response))
    (answered : Answers crates meets ⟨app, [meets.now, meets.later], none⟩ calls alone) :
    handle crates config request meets app = (response, alone.app) := by
  obtain ⟨left, task, ended⟩ := eval_handle crates config request meets app
  have same := ended.symm.trans (eval_reaches reached answered)
  obtain ⟨sameResponse, sameAlone⟩ := Prod.mk.inj same
  exact Prod.ext sameResponse (congrArg Alone.app sameAlone)

/-- A guard refuses at once, or reads the clock and the session. -/
def Guards {α : Type} (guard : Prog (Except Refusal α)) : Prop :=
  ∀ calls passed, Reaches guard calls (.ret passed) → (calls = [] ∧ ∃ refusal, passed = .error refusal) ∨
    ∃ token now csrf, calls = [⟨.instant_now, now⟩, ⟨.csrf_token_at token now, csrf⟩]

theorem require_admin_guards : Guards (AdminPrograms.require_admin request) := by
  intro calls passed reached
  unfold AdminPrograms.require_admin at reached
  cases cookie : request.cookies SESSION_COOKIE with
  | none =>
    rw [cookie] at reached
    obtain ⟨rfl, same⟩ := reaches_ret.mp reached
    exact .inl ⟨rfl, .unauthorized, Program.ret.inj same⟩
  | some token =>
    rw [cookie] at reached
    obtain ⟨first, second, csrf, rfl, before, after⟩ := reaches_bind_ret reached
    obtain ⟨now, rfl⟩ := AdminTraces.csrf_token_calls before
    refine .inr ⟨token, now, csrf, ?_⟩
    cases csrf <;> rw [(reaches_ret.mp after).1] <;> rfl

theorem require_admin_mutation_guards {csrf : String} :
    Guards (AdminPrograms.require_admin_mutation config request csrf) := by
  intro calls passed reached
  rcases reaches_andThen_ret reached with ⟨error, before, rfl⟩ | ⟨first, second, expected, rfl, before, after⟩
  · exact (require_admin_guards _ _ before).imp_left fun silent => ⟨silent.1, error, rfl⟩
  · have silent : second = [] := by
      cases origin : require_origin config request with
      | some refusal =>
        rw [origin] at after
        exact (reaches_ret.mp after).1
      | none =>
        rw [origin] at after
        by_cases same : tokens_match expected csrf = true
        · simp only [same, if_true] at after
          exact (reaches_ret.mp after).1
        · simp only [same] at after
          exact (reaches_ret.mp after).1
    rw [silent, List.append_nil]
    rcases require_admin_guards _ _ before with ⟨_, _, failed⟩ | read
    · cases failed
    · exact .inr read

/-- The calls of a login behind the throttle: it is refused at once, finds the
    verifier busy, is refused after its verification, or gets a session. -/
def Signing (stored_hash password : String) (rest : List Made) : Prop :=
  rest = [] ∨ rest = [⟨.spawn_verification stored_hash password, false⟩] ∨
    (∃ joined, rest = [⟨.spawn_verification stored_hash password, true⟩, ⟨.join_verification, joined⟩]) ∨
    ∃ later drawn token, rest = [⟨.spawn_verification stored_hash password, true⟩, ⟨.join_verification, some true⟩,
      ⟨.instant_now, later⟩, ⟨.draw_session, drawn⟩, ⟨.issue_session drawn later, token⟩]

theorem login_calls {auth : AdminAuth} {username password : String} {outcome : Except LoginError String}
    (reached : Reaches (AdminPrograms.login auth username password) calls (.ret outcome)) :
    ∃ now reserved rest, calls = ⟨.instant_now, now⟩ :: ⟨.reserve_attempt now, reserved⟩ :: rest ∧
      Signing auth.password_hash password rest := by
  rcases reaches_call.mp reached with ⟨_, ended⟩ | ⟨now, later, rfl, begun⟩
  · cases ended
  rcases reaches_call.mp begun with ⟨_, ended⟩ | ⟨reserved, rest, rfl, counted⟩
  · cases ended
  refine ⟨now, reserved, rest, rfl, ?_⟩
  rcases reserved with _ | error
  case some => exact .inl (reaches_ret.mp counted).1
  dsimp only at counted
  by_cases unusable : auth.password_hash.isEmpty ∨ 1024 < len password
  · rw [if_pos unusable] at counted
    exact .inl (reaches_ret.mp counted).1
  rw [if_neg unusable] at counted
  rcases reaches_call.mp counted with ⟨_, ended⟩ | ⟨acquired, rest, rfl, running⟩
  · cases ended
  cases acquired with
  | false =>
    obtain ⟨rfl, _⟩ := reaches_ret.mp running
    exact .inr (.inl rfl)
  | true =>
    rcases reaches_call.mp running with ⟨_, ended⟩ | ⟨joined, rest, rfl, verified⟩
    · cases ended
    rcases joined with _ | valid
    · obtain ⟨rfl, _⟩ := reaches_ret.mp verified
      exact .inr (.inr (.inl ⟨none, rfl⟩))
    · dsimp only at verified
      by_cases wrong : (!valid || username != auth.username) = true
      · rw [if_pos wrong] at verified
        obtain ⟨rfl, _⟩ := reaches_ret.mp verified
        exact .inr (.inr (.inl ⟨some valid, rfl⟩))
      · rw [if_neg wrong] at verified
        obtain ⟨rfl, _⟩ : valid = true ∧ username = auth.username := by simpa using wrong
        rcases reaches_call.mp verified with ⟨_, ended⟩ | ⟨later, rest, rfl, read⟩
        · cases ended
        rcases reaches_call.mp read with ⟨_, ended⟩ | ⟨drawn, rest, rfl, drew⟩
        · cases ended
        obtain ⟨token, rfl, _⟩ := reaches_single drew
        exact .inr (.inr (.inr ⟨later, drawn, token, rfl⟩))

theorem login_handler_calls {form : LoginForm} {response : Response}
    (reached : Reaches (AdminPrograms.login_handler config request form) calls (.ret response)) :
    calls = [] ∨ ∃ signing challenge outcome, calls = signing ++ [⟨.draw_challenge, challenge⟩] ∧
      Reaches (AdminPrograms.login config.auth form.username form.password) signing (.ret outcome) := by
  unfold AdminPrograms.login_handler at reached
  cases origin : require_origin config request with
  | some refusal =>
    rw [origin] at reached
    exact .inl (reaches_ret.mp reached).1
  | none =>
    rw [origin] at reached
    cases cookie : request.cookies LOGIN_COOKIE with
    | none =>
      rw [cookie] at reached
      exact .inl (reaches_ret.mp reached).1
    | some challenge =>
      rw [cookie] at reached
      dsimp only at reached
      by_cases same : tokens_match challenge form.csrf = true
      · rw [if_pos same] at reached
        obtain ⟨signing, shown, outcome, rfl, before, after⟩ := reaches_bind_ret reached
        have drawn : ∃ challenge, shown = [⟨.draw_challenge, challenge⟩] := by
          cases outcome with
          | ok token =>
            obtain ⟨challenge, rfl, _⟩ := reaches_single after
            exact ⟨challenge, rfl⟩
          | error error =>
            cases error <;>
            · obtain ⟨challenge, rfl, _⟩ := reaches_single after
              exact ⟨challenge, rfl⟩
        obtain ⟨challenge, rfl⟩ := drawn
        exact .inr ⟨signing, challenge, outcome, rfl, before⟩
      · rw [if_neg same] at reached
        exact .inl (reaches_ret.mp reached).1

/-- What a request draws for an invite. -/
def inviteDraws (utc : Reading) (invite : Token 32) (uuid : String) : List Made :=
  [⟨.draw_invite, invite⟩, ⟨.utc_now, utc⟩, ⟨.draw_uuid, uuid⟩]

/-- The calls behind a guard: what is drawn, and then the one access that the
    guard is there for. -/
def Behind (second : List Made) : Prop :=
  ∃ utc invite uuid draws access, second = draws ++ access ∧ draws ⊆ inviteDraws utc invite uuid ∧
    (access = [] ∨ ∃ c reply, access = [⟨c, reply⟩] ∧ Privileged c = true)

theorem behind_access (any : Surroundings) {access : List Made}
    (last : access = [] ∨ ∃ c reply, access = [⟨c, reply⟩] ∧ Privileged c = true) : Behind access :=
  ⟨any.utc, any.invite, any.uuid, [], access, rfl, List.nil_subset _, last⟩

theorem store_invite_behind {form : GenerateInviteForm} {response : Response}
    (reached : Reaches (AdminPrograms.store_invite crates form) calls (.ret response)) : Behind calls := by
  rcases reaches_call.mp reached with ⟨_, ended⟩ | ⟨invite, _, rfl, drawn⟩
  · cases ended
  rcases reaches_call.mp drawn with ⟨_, ended⟩ | ⟨utc, _, rfl, read⟩
  · cases ended
  rcases reaches_call.mp read with ⟨_, ended⟩ | ⟨uuid, access, rfl, ready⟩
  · cases ended
  refine ⟨utc, invite, uuid, inviteDraws utc invite uuid, access, rfl, List.Subset.refl _, ?_⟩
  cases generated : InviteRoutes.generate_invite crates form invite uuid utc with
  | answer page =>
    simp only [generated] at ready
    exact .inl (reaches_ret.mp ready).1
  | panic =>
    simp only [generated] at ready
    exact .inl (reaches_ret.mp ready).1
  | create id token_hash groups_json created_at expires_at page =>
    simp only [generated] at ready
    rcases reaches_call.mp ready with ⟨_, ended⟩ | ⟨created, rest, rfl, answered⟩
    · cases ended
    have last : rest = [] := by
      rcases created with _ | record | flag | rows <;> exact (reaches_ret.mp answered).1
    exact .inr ⟨_, created, by rw [last], rfl⟩

/-- The calls of a request that is no login: none, the draw of the login page,
    or those of a guard and what lies behind it. -/
def Plain (calls : List Made) : Prop :=
  calls = [] ∨ (∃ challenge, calls = [⟨.draw_challenge, challenge⟩]) ∨
    ∃ token now csrf second, calls = ⟨.instant_now, now⟩ :: ⟨.csrf_token_at token now, csrf⟩ :: second ∧ Behind second

theorem guarded_plain (any : Surroundings) {α : Type} {guard : Prog (Except Refusal α)} {handler : α → Prog Response}
    {response : Response} (guards : Guards guard)
    (handles : ∀ value second, Reaches (handler value) second (.ret response) → Behind second)
    (reached : Reaches (guarded guard handler) calls (.ret response)) : Plain calls := by
  obtain ⟨first, second, passed, rfl, before, after⟩ := reaches_bind_ret reached
  rcases guards first passed before with ⟨rfl, refusal, rfl⟩ | ⟨token, now, csrf, rfl⟩
  · exact .inl (reaches_ret.mp after).1
  · refine .inr (.inr ⟨token, now, csrf, second, rfl, ?_⟩)
    cases passed with
    | error refusal => exact behind_access any (.inl (reaches_ret.mp after).1)
    | ok value => exact handles value second after

theorem handle_plain (any : Surroundings) {response : Response} (elsewhere : ∀ form, request.endpoint ≠ .login form)
    (reached : Reaches (AdminPrograms.handle crates config request) calls (.ret response)) : Plain calls := by
  unfold AdminPrograms.handle at reached
  cases endpoint : request.endpoint with
  | login form => exact absurd endpoint (elsewhere form)
  | login_page =>
    rw [endpoint] at reached
    obtain ⟨challenge, rfl, _⟩ := reaches_single reached
    exact .inr (.inl ⟨challenge, rfl⟩)
  | admin =>
    rw [endpoint] at reached
    refine guarded_plain any require_admin_guards ?_ reached
    intro csrf second after
    obtain ⟨invites, rfl, _⟩ := reaches_single after
    exact behind_access any (.inr ⟨_, invites, rfl, rfl⟩)
  | logout csrf =>
    rw [endpoint] at reached
    refine guarded_plain any require_admin_mutation_guards ?_ reached
    intro _ second after
    cases cookie : request.cookies SESSION_COOKIE with
    | none =>
      simp only [cookie] at after
      exact behind_access any (.inl (reaches_ret.mp after).1)
    | some token =>
      simp only [cookie] at after
      obtain ⟨left, rfl, _⟩ := reaches_single after
      exact behind_access any (.inr ⟨_, left, rfl, rfl⟩)
  | generate_invite form =>
    rw [endpoint] at reached
    exact guarded_plain any require_admin_mutation_guards (fun _ _ => store_invite_behind) reached
  | revoke_invite form =>
    rw [endpoint] at reached
    refine guarded_plain any require_admin_mutation_guards ?_ reached
    intro _ second after
    rcases reaches_call.mp after with ⟨_, ended⟩ | ⟨utc, rest, rfl, read⟩
    · cases ended
    obtain ⟨revoked, rfl, _⟩ := reaches_single read
    exact ⟨utc, any.invite, any.uuid, [⟨.utc_now, utc⟩], [⟨_, revoked⟩], rfl, by simp [inviteDraws],
      .inr ⟨_, revoked, rfl, rfl⟩⟩

/-- What is drawn is what the surroundings have it to be. -/
theorem answers_drawn {meets : Surroundings} {draws access : List Made} {alone alone' : Alone}
    (subset : draws ⊆ inviteDraws meets.utc meets.invite meets.uuid) (later : Answers crates meets alone access alone') :
    Answers crates meets alone (draws ++ access) alone' := by
  induction draws with
  | nil => exact later
  | cons made draws ih =>
    obtain ⟨member, others⟩ := List.cons_subset.mp subset
    simp only [inviteDraws, List.mem_cons, List.not_mem_nil, or_false] at member
    rcases member with rfl | rfl | rfl <;> exact .call rfl (ih others)

/-- The surroundings of a guarded request, for an access that goes with one of the faults. -/
theorem answers_guarded (any : Surroundings) (draws access : List Made) {app : App} {store : Database} {token : String}
    {now : Instant} {csrf : Option String} {utc : Reading} {invite : Token 32} {uuid : String}
    (read : csrf = (csrf_token_at crates token now app.auth).1) (subset : draws ⊆ inviteDraws utc invite uuid)
    (last : ∃ fault, ∀ meets : Surroundings, ∀ alone : Alone, meets.fault = fault → alone.app.store = app.store →
      ∃ alone', Answers crates meets alone access alone' ∧ alone'.app.store = store) :
    ∃ meets alone', meets.verifier.busy = false ∧ alone'.app.store = store ∧
      Answers crates meets ⟨app, [meets.now, meets.later], none⟩
        (⟨.instant_now, now⟩ :: ⟨.csrf_token_at token now, csrf⟩ :: (draws ++ access)) alone' := by
  obtain ⟨fault, last⟩ := last
  subst read
  obtain ⟨alone', accessed, left⟩ := last { any with
    now := now, utc := utc, invite := invite, uuid := uuid, verifier := ⟨false, false⟩, fault := fault }
    ⟨⟨(csrf_token_at crates token now app.auth).2, app.store⟩, [any.later], none⟩ rfl rfl
  exact ⟨_, alone', rfl, left, .call rfl (.call rfl (answers_drawn subset accessed))⟩

/-- The surroundings of a login. -/
theorem answers_login (any : Surroundings) (challenge : Token 64) {app : App} {now : Instant}
    {reserved : Option LoginError} {stored_hash password : String} {rest : List Made}
    (counted : reserved = (reserve_attempt app.auth now).1)
    (verified : ∀ valid, (⟨.join_verification, some valid⟩ : Made) ∈ rest →
      crates.verify_password stored_hash (bytes password) = valid)
    (issued : ∀ drawn later token, (⟨.issue_session drawn later, token⟩ : Made) ∈ rest → token = drawn.token.text)
    (shape : Signing stored_hash password rest) :
    ∃ meets alone', (meets.verifier.busy = true → rest = [⟨.spawn_verification stored_hash password, false⟩]) ∧
      alone'.app.store = app.store ∧ Answers crates meets ⟨app, [meets.now, meets.later], none⟩
        (⟨.instant_now, now⟩ :: ⟨.reserve_attempt now, reserved⟩ :: (rest ++ [⟨.draw_challenge, challenge⟩])) alone' := by
  subst counted
  rcases shape with rfl | rfl | ⟨joined, rfl⟩ | ⟨later, drawn, token, rfl⟩
  · exact ⟨{ any with now := now, challenge := challenge, verifier := ⟨false, false⟩ }, _, by rintro ⟨⟩, rfl,
      .call rfl (.call rfl (.call rfl .stay))⟩
  · exact ⟨{ any with now := now, challenge := challenge, verifier := ⟨true, false⟩ }, _, fun _ => rfl, rfl,
      .call rfl (.call rfl (.call rfl (.call rfl .stay)))⟩
  · cases joined with
    | none =>
      exact ⟨{ any with now := now, challenge := challenge, verifier := ⟨false, true⟩ }, _, by rintro ⟨⟩, rfl,
        .call rfl (.call rfl (.call rfl (.call rfl (.call rfl .stay))))⟩
    | some valid =>
      obtain rfl := verified valid (by simp)
      exact ⟨{ any with now := now, challenge := challenge, verifier := ⟨false, false⟩ }, _, by rintro ⟨⟩, rfl,
        .call rfl (.call rfl (.call rfl (.call rfl (.call rfl .stay))))⟩
  · obtain rfl := issued drawn later token (by simp)
    have accepted := congrArg some (verified true (by simp))
    exact ⟨{ any with now := now, later := later, session := drawn, challenge := challenge, verifier := ⟨false, false⟩ }, _,
      by rintro ⟨⟩, rfl, .call rfl (.call rfl (.call rfl (.call (Prod.ext accepted rfl)
        (.call rfl (.call rfl (.call rfl (.call rfl .stay)))))))⟩

/-- An access of the store takes effect as under one of the faults. -/
theorem fault_of_atomic {call : InviteStorage.Call} {store store' : Database} {result : Option InviteStorage.Reply}
    (taken : Atomic InviteStorage.Call.code store (call, result) store') :
    ∃ fault : Fault, fault.perform call store = (result, store') := by
  cases taken with
  | done ran => exact ⟨.none, Prod.ext ran rfl⟩
  | failed => exact ⟨.failed, rfl⟩
  | unreported ran => exact ⟨.unreported, rfl⟩

end

section
variable {ι : Type} [DecidableEq ι] {crates : Crates} {config : AppConfig} {arrivals : ι → Arrival}
  {start s : System (World ι) ι Application.Call Application.Reply Answer}
  {labels : List (Label ι Application.Call Application.Reply)} {i : ι}

/-! ### Where they stand in a run -/

variable (i) in
/-- The state behind the labels is one between arrival and answer: the request
    has just arrived, or has a call to make. -/
def Unanswered (before : List (Label ι Application.Call Application.Reply))
    (m : System (World ι) ι Application.Call Application.Reply Answer) : Prop :=
  (∃ earlier, before = earlier ++ [.arrival i]) ∨ ∃ c next, m.programs i = some (.call c next)

/-- A call of the request, with the state of the application before and after. -/
theorem call_at (first : List Made) {second : List Made} (run : Run (Steps crates config arrivals) start labels s)
    {c : AdminPrograms.Call} {reply : AdminPrograms.Reply c}
    (calls : callsOf i labels =
      (first ++ ⟨c, reply⟩ :: second).map (callAlong (R := Application.Reply) Application.Call.admin)) :
    ∃ before after m m', labels = before ++ .call i (.admin c) reply :: after ∧
      Run (Steps crates config arrivals) start before m ∧
      Steps crates config arrivals m (.call i (.admin c) reply) m' ∧ Run (Steps crates config arrivals) m' after s ∧
      PerformAdmin crates i m.world c reply m'.world ∧ (∃ c next, m.programs i = some (.call c next)) ∧
      callsOf i before = first.map (callAlong (R := Application.Reply) Application.Call.admin) ∧
      callsOf i after = second.map (callAlong (R := Application.Reply) Application.Call.admin) := by
  rw [List.map_append, List.map_cons] at calls
  obtain ⟨before, after, rfl, own, others⟩ := callsOf_split calls
  obtain ⟨m, m', prior, taken, later⟩ := run.at
  refine ⟨before, after, m, m', rfl, prior, taken, later, ?_⟩
  cases taken with
  | call running performed => exact ⟨performed, ⟨_, _, running⟩, own, others⟩

/-- The state behind the arrival of a request. -/
theorem arrived_at {world : World ι} (run : Run (Steps crates config arrivals) (.initial world) labels s)
    (present : s.programs i ≠ none) :
    ∃ before after m, labels = before ++ after ∧ Run (Steps crates config arrivals) (.initial world) before m ∧
      Run (Steps crates config arrivals) m after s ∧ Unanswered i before m := by
  obtain ⟨earlier, after, rfl⟩ := List.append_of_mem (run_arrived run present)
  obtain ⟨m, m', prior, taken, later⟩ := run.at
  exact ⟨earlier ++ [.arrival i], after, m', by simp, prior.trans (Run.single taken), later, .inl ⟨earlier, rfl⟩⟩

/-- The step is an access of the request to the store. -/
def Stores (i : ι) (l : Label ι Application.Call Application.Reply) : Prop :=
  ∃ call reply, l = .call i (.admin (.repository call)) reply

theorem none_stores {own : List Made}
    (calls : callsOf i labels = own.map (callAlong (R := Application.Reply) Application.Call.admin))
    (elsewhere : ∀ made ∈ own, ∀ call, made.1 ≠ .repository call) : ∀ l ∈ labels, ¬ Stores i l := by
  rintro l member ⟨call, reply, rfl⟩
  have made := mem_callsOf.mpr member
  rw [calls] at made
  obtain ⟨⟨c, _⟩, there, same⟩ := List.mem_map.mp made
  cases same
  exact elsewhere _ there call rfl

/-- What the application answers to an access behind a guard goes with a fault. -/
theorem access_answers {w w' : World ι} {c : AdminPrograms.Call} {reply : AdminPrograms.Reply c}
    (privileged : Privileged c = true) (performed : PerformAdmin crates i w c reply w') :
    ∃ fault, ∀ meets : Surroundings, ∀ alone : Alone, meets.fault = fault → alone.app.store = w.store →
      ∃ alone', Answers crates meets alone [⟨c, reply⟩] alone' ∧ alone'.app.store = w'.store := by
  cases c with
  | list_recent limit =>
    obtain ⟨rfl, rfl | rfl⟩ := performed
    · exact ⟨.failed, fun meets alone fault store => ⟨alone, .call (by simp [respond, fault]) .stay, store⟩⟩
    · exact ⟨.none, fun meets alone fault store => ⟨alone, .call (by simp [respond, fault, store]) .stay, store⟩⟩
  | logout token =>
    cases performed
    exact ⟨.none, fun meets alone _ store => ⟨_, .call rfl .stay, store⟩⟩
  | repository call =>
    obtain ⟨store', rfl, taken⟩ := performed
    obtain ⟨fault, effect⟩ := fault_of_atomic taken
    refine ⟨fault, fun meets alone same store => ⟨{ alone with app := ⟨alone.app.auth, store'⟩ }, .call ?_ .stay, rfl⟩⟩
    simp only [respond, same, store, effect]
  | _ => cases privileged

/-! ### The answers -/

variable (crates config arrivals start labels s i) in
/-- The response is the sequential handler's: for the sessions and the throttle
    of one moment between arrival and answer, and for the store of a later one
    before the answer, where the request's one access to the store, if it makes
    one, takes effect.
    What it meets besides, by the clocks, the draws, the verifier and the
    store's faults, is what its own calls were answered; where that is a busy
    verifier, another request held the permit at the call. -/
def Sequential (request : Request) (response : Response) : Prop :=
  ∃ before between access after m₁ m₂ m₃ meets auth, labels = before ++ between ++ access ++ after ∧
    Run (Steps crates config arrivals) start before m₁ ∧ Run (Steps crates config arrivals) m₁ between m₂ ∧
    Run (Steps crates config arrivals) m₂ access m₃ ∧ Run (Steps crates config arrivals) m₃ after s ∧
    Unanswered i before m₁ ∧ Unanswered i (before ++ between) m₂ ∧ (access = [] ∨ ∃ l, access = [l] ∧ Stores i l) ∧
    (∀ l ∈ before ++ between ++ after, ¬ Stores i l) ∧
    Met crates i meets ⟨m₁.world.auth, m₂.world.store⟩ labels ∧
    (meets.verifier.busy = true → ∃ stored_hash password first second m,
      labels = first ++ .call i (.admin (.spawn_verification stored_hash password)) false :: second ∧
      Run (Steps crates config arrivals) start first m ∧ m.world.permits = 0) ∧
    AdminRoutes.handle crates config.admin request meets ⟨m₁.world.auth, m₂.world.store⟩ =
      (response, ⟨auth, m₃.world.store⟩)

variable {request : Request} {response : Response}

/-- A request that does not change the store. -/
theorem sequential_silent {before : List (Label ι Application.Call Application.Reply)}
    (between : List (Label ι Application.Call Application.Reply))
    {after : List (Label ι Application.Call Application.Reply)}
    {m₁ m₂ : System (World ι) ι Application.Call Application.Reply Answer} {own : List Made} {meets : Surroundings}
    {alone : Alone} (parts : labels = before ++ between ++ after)
    (prior : Run (Steps crates config arrivals) start before m₁)
    (middle : Run (Steps crates config arrivals) m₁ between m₂) (later : Run (Steps crates config arrivals) m₂ after s)
    (unanswered : Unanswered i before m₁) (unanswered' : Unanswered i (before ++ between) m₂)
    (silent : ∀ l ∈ labels, ¬ Stores i l)
    (busy : meets.verifier.busy = true → ∃ stored_hash password first second m,
      labels = first ++ .call i (.admin (.spawn_verification stored_hash password)) false :: second ∧
      Run (Steps crates config arrivals) start first m ∧ m.world.permits = 0)
    (calls : callsOf i labels = own.map (callAlong (R := Application.Reply) Application.Call.admin))
    (reached : Reaches (AdminPrograms.handle crates config.admin request) own (.ret response))
    (answered : Answers crates meets ⟨⟨m₁.world.auth, m₂.world.store⟩, [meets.now, meets.later], none⟩ own alone)
    (kept : alone.app.store = m₂.world.store) :
    Sequential crates config arrivals start s labels i request response := by
  refine ⟨before, between, [], after, m₁, m₂, m₂, meets, alone.app.auth, by simp [parts], prior, middle, .stay, later,
    unanswered, unanswered', .inl rfl, by rwa [← parts], ⟨own, alone, calls, answered⟩, busy, ?_⟩
  rw [handle_of_answers reached answered, ← kept]

theorem sequential_plain (any : Surroundings) {world : World ι}
    (run : Run (Steps crates config arrivals) (.initial world) labels s) (present : s.programs i ≠ none) {own : List Made}
    (calls : callsOf i labels = own.map (callAlong (R := Application.Reply) Application.Call.admin))
    (reached : Reaches (AdminPrograms.handle crates config.admin request) own (.ret response)) (plain : Plain own) :
    Sequential crates config arrivals (.initial world) s labels i request response := by
  -- where no reading of the state matters, the state behind the arrival serves
  obtain ⟨before, after, m, parts, prior, later, unanswered⟩ := arrived_at run present
  have unanswered' : Unanswered i (before ++ []) m := by rwa [List.append_nil]
  rcases plain with rfl | ⟨challenge, rfl⟩ | ⟨token, now, csrf, second, rfl, behind⟩
  · have answered : Answers crates { any with verifier := ⟨false, false⟩ }
        ⟨⟨m.world.auth, m.world.store⟩, [any.now, any.later], none⟩ [] _ := .stay
    exact sequential_silent [] (by simp [parts]) prior .stay later unanswered unanswered' (none_stores calls (by simp))
      (by rintro ⟨⟩) calls reached answered rfl
  · have answered : Answers crates { any with challenge := challenge, verifier := ⟨false, false⟩ }
        ⟨⟨m.world.auth, m.world.store⟩, [any.now, any.later], none⟩ [⟨.draw_challenge, challenge⟩] _ := .call rfl .stay
    exact sequential_silent [] (by simp [parts]) prior .stay later unanswered unanswered' (none_stores calls (by simp))
      (by rintro ⟨⟩) calls reached answered rfl
  · obtain ⟨utc, invite, uuid, draws, access, rfl, subset, last⟩ := behind
    have undrawn : ∀ made ∈ draws, ∀ call, made.1 ≠ .repository call := by
      intro made member call
      have there := subset member
      simp only [inviteDraws, List.mem_cons, List.not_mem_nil, or_false] at there
      rcases there with rfl | rfl | rfl <;> exact nofun
    obtain ⟨before, rest, m₁, m₁', rfl, prior, taken, later, read, running, own, others⟩ := call_at
      [⟨.instant_now, now⟩] run calls
    have early := none_stores own (by simp)
    rcases last with rfl | ⟨c, reply, rfl, privileged⟩
    · have csrfRead : csrf = (csrf_token_at crates token now (⟨m₁.world.auth, m₁.world.store⟩ : App).auth).1 := read.1
      obtain ⟨meets, alone, free, kept, answered⟩ := answers_guarded any draws [] csrfRead subset
        ⟨.none, fun meets alone _ store => ⟨alone, .stay, store⟩⟩
      refine sequential_silent [] (by simp) prior .stay ((Run.single taken).trans later) (.inr running) (.inr running)
        (none_stores calls ?_) (by simp [free]) calls reached answered kept
      rw [List.append_nil]
      exact List.forall_mem_cons.mpr ⟨nofun, List.forall_mem_cons.mpr ⟨nofun, undrawn⟩⟩
    · obtain ⟨between, after, m₂, m₃, rfl, middle, accessed, last, performed, running', drawn, ended⟩ := call_at draws
        later others
      have csrfRead : csrf = (csrf_token_at crates token now (⟨m₁.world.auth, m₂.world.store⟩ : App).auth).1 := read.1
      obtain ⟨meets, alone, free, kept, answered⟩ := answers_guarded any draws [⟨c, reply⟩] csrfRead subset
        (access_answers privileged performed)
      have reading := (Run.single taken).trans middle
      by_cases storing : ∃ call, c = .repository call
      · obtain ⟨call, rfl⟩ := storing
        refine ⟨before, _, [_], after, m₁, m₂, m₃, meets, alone.app.auth, by simp, prior, reading, Run.single accessed, last,
          .inr running, .inr running', .inr ⟨_, rfl, call, reply, rfl⟩, ?_, ⟨_, alone, calls, answered⟩, by simp [free], ?_⟩
        · simp only [List.forall_mem_append, List.forall_mem_singleton]
          exact ⟨⟨early, nofun, none_stores drawn undrawn⟩, none_stores ended (by simp)⟩
        · rw [handle_of_answers reached answered, ← kept]
      · have kept : alone.app.store = m₂.world.store := by
          rw [kept]
          cases c with
          | list_recent limit => rw [performed.1]
          | logout token => rw [performed]
          | repository call => exact absurd ⟨call, rfl⟩ storing
          | _ => cases privileged
        refine sequential_silent _ (by simp) prior reading ((Run.single accessed).trans last) (.inr running) (.inr running')
          (none_stores calls ?_) (by simp [free]) calls reached answered kept
        refine List.forall_mem_cons.mpr ⟨nofun, List.forall_mem_cons.mpr ⟨nofun, ?_⟩⟩
        exact List.forall_mem_append.mpr ⟨undrawn, List.forall_mem_singleton.mpr fun call same => storing ⟨call, same⟩⟩

variable {started : Instant} {directory : Accounts.Directory ι} {store : Database}

/-- A request is given the answer of the verification that it spawned. -/
theorem joined_valid
    (run : Run (Steps crates config arrivals) (.initial (World.initialized started directory store)) labels s)
    {first second : List Made} {valid : Bool} {stored_hash password : String}
    (calls : callsOf i labels = (first ++ ⟨.join_verification, some valid⟩ :: second).map
      (callAlong (R := Application.Reply) Application.Call.admin))
    (own : ∀ stored_hash' password', (⟨.spawn_verification stored_hash' password', true⟩ : Made) ∈ first →
      stored_hash' = stored_hash ∧ password' = password) :
    crates.verify_password stored_hash (bytes password) = valid := by
  obtain ⟨before, after, m, m', rfl, _, _, _, _, _, prior, _⟩ := call_at first run calls
  obtain ⟨stored_hash', password', member, answer⟩ := (run_verifying run).2 before _ after rfl i _ _ rfl
  have made := mem_callsOf.mpr member
  rw [prior] at made
  obtain ⟨⟨c, _⟩, there, same⟩ := List.mem_map.mp made
  cases same
  obtain ⟨rfl, rfl⟩ := own _ _ there
  exact answer

theorem sequential_login (any : Surroundings)
    (run : Run (Steps crates config arrivals) (.initial (World.initialized started directory store)) labels s)
    {own signing : List Made} {challenge : Token 64} {form : LoginForm} {outcome : Except LoginError String}
    (whole : own = signing ++ [⟨.draw_challenge, challenge⟩])
    (calls : callsOf i labels = own.map (callAlong (R := Application.Reply) Application.Call.admin))
    (reached : Reaches (AdminPrograms.handle crates config.admin request) own (.ret response))
    (signed : Reaches (AdminPrograms.login config.admin.auth form.username form.password) signing (.ret outcome)) :
    Sequential crates config arrivals (.initial (World.initialized started directory store)) s labels i request response := by
  obtain ⟨now, reserved, rest, rfl, shape⟩ := login_calls signed
  subst whole
  obtain ⟨before, after, m, m', parts, prior, taken, later, counted, running, _⟩ := call_at
    [⟨.instant_now, now⟩] run calls
  have reading : reserved = (reserve_attempt (⟨m.world.auth, m.world.store⟩ : App).auth now).1 := counted.1
  have verified : ∀ valid, (⟨.join_verification, some valid⟩ : Made) ∈ rest →
      crates.verify_password config.admin.auth.password_hash (bytes form.password) = valid := by
    intro valid member
    have own : ∀ stored_hash password, (⟨.spawn_verification stored_hash password, true⟩ : Made) ∈
        [⟨.instant_now, now⟩, ⟨.reserve_attempt now, reserved⟩,
          ⟨.spawn_verification config.admin.auth.password_hash form.password, true⟩] →
        stored_hash = config.admin.auth.password_hash ∧ password = form.password := by
      intro stored_hash password spawns
      simpa using spawns
    rcases shape with rfl | rfl | ⟨joined, rfl⟩ | ⟨later, drawn, token, rfl⟩
    · simp at member
    · simp at member
    · obtain rfl : some valid = joined := by simpa using member
      exact joined_valid run calls own
    · obtain rfl : valid = true := by simpa using member
      exact joined_valid run calls own
  have issued : ∀ drawn later token, (⟨.issue_session drawn later, token⟩ : Made) ∈ rest → token = drawn.token.text := by
    intro drawn later token member
    have made : (callAlong (R := Application.Reply) Application.Call.admin ⟨.issue_session drawn later, token⟩) ∈
        callsOf i labels := by
      rw [calls]
      exact List.mem_map_of_mem (by simp [member])
    obtain ⟨_, _, _, _, _, _, issues, _⟩ := run.label (mem_callsOf.mp made)
    cases issues with
    | call _ performed => exact performed.1
  obtain ⟨meets, alone, busy, kept, answered⟩ := answers_login any challenge reading verified issued shape
  refine sequential_silent [] (by simp [parts]) prior .stay ((Run.single taken).trans later) (.inr running)
    (.inr running) (none_stores calls ?_) ?_ calls reached answered kept
  · rcases shape with rfl | rfl | ⟨joined, rfl⟩ | ⟨later, drawn, token, rfl⟩ <;> simp
  · intro refused
    obtain rfl := busy refused
    obtain ⟨first, second, turned, _, parts, before, spawning, _, performed, _⟩ := call_at
      [⟨.instant_now, now⟩, ⟨.reserve_attempt now, reserved⟩] run calls
    rcases performed with ⟨none, _⟩ | ⟨_, acquired, _⟩
    · exact ⟨_, _, first, _, turned, parts, before, none⟩
    · cases acquired

/-- Whatever else goes on, the answer to a request of the administrator is that
    of the sequential handler. -/
theorem answered_sequentially
    (run : Run (Steps crates config arrivals) (.initial (World.initialized started directory store)) labels s)
    (arrives : arrivals i = .admin request) (ended : s.programs i = some (.ret (.admin response))) :
    Sequential crates config arrivals (.initial (World.initialized started directory store)) s labels i request
      response := by
  have any : Surroundings := Application.morningMeets 0
  have reached := (run_reaches run i).2 _ ended
  rw [arrives] at reached
  obtain ⟨own, unfinished, calls, same, within⟩ := reaches_along reached
  cases unfinished with
  | call c next => cases same
  | ret result =>
    cases same
    by_cases elsewhere : ∀ form, request.endpoint ≠ .login form
    · exact sequential_plain any run (by simp [ended]) calls within (handle_plain any elsewhere within)
    · push Not at elsewhere
      obtain ⟨form, endpoint⟩ := elsewhere
      have handled := within
      rw [AdminPrograms.handle, endpoint] at handled
      rcases login_handler_calls handled with rfl | ⟨signing, challenge, outcome, rfl, signed⟩
      · exact sequential_plain any run (by simp [ended]) calls within (.inl rfl)
      · exact sequential_login any run rfl calls within signed

end

/-- The answer to the login of the morning. -/
def morningAnswer : Response :=
  .login_view 303 "" [(SESSION_COOKIE, Application.morningSession.token.text, SESSION_SECONDS), (LOGIN_COOKIE, "", 0)]

theorem answered_sequentially_sample : ∃ labels s,
    Run (Steps Application.morningCrates Application.morningConfig Application.morningArrivals)
      (.initial (World.initialized 0 (DirectoryServer.servedWorld Nat).directory (InviteStorage.migrated true))) labels s ∧
    s.programs 0 = some (.ret (.admin morningAnswer)) ∧
    Sequential Application.morningCrates Application.morningConfig Application.morningArrivals
      (.initial (World.initialized 0 (DirectoryServer.servedWorld Nat).directory (InviteStorage.migrated true))) s labels 0
      Application.morningLogin morningAnswer := by
  have answer : (Application.Turn.serve Application.morningCrates Application.morningConfig 0
      (World.initialized 0 (DirectoryServer.servedWorld Nat).directory (InviteStorage.migrated true))
      (.admin Application.morningLogin (Application.morningMeets 10))).1 = some (.admin morningAnswer) := by decide
  obtain ⟨labels, s, run, ended⟩ : ∃ labels s,
      Run (Steps Application.morningCrates Application.morningConfig Application.morningArrivals)
        (.initial (World.initialized 0 (DirectoryServer.servedWorld Nat).directory (InviteStorage.migrated true))) labels s ∧
      s.programs 0 = some (.ret (.admin morningAnswer)) := by
    obtain ⟨labels, run⟩ := Application.turn_run (.stay : Run (Steps Application.morningCrates Application.morningConfig
        Application.morningArrivals) (.initial (World.initialized 0 (DirectoryServer.servedWorld Nat).directory
        (InviteStorage.migrated true))) [] _)
      (.admin Application.morningLogin (Application.morningMeets 10)) 0 rfl rfl Nat.one_ne_zero (by rintro _ ⟨⟩; rfl)
      (by rintro _ _ ⟨⟩; rfl)
    refine ⟨labels, _, run, ?_⟩
    dsimp only
    rw [Function.update_self]
    rw [System.initial, answer]
    rfl
  exact ⟨labels, s, run, ended, answered_sequentially run rfl ended⟩

end InviteSystem.Linearization
