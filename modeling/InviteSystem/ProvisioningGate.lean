import InviteSystem.DirectoryServer
import InviteSystem.Passages

/-!
The gate before provisioning. In every run of redemptions, a step of a request
that changes the directory or the store is one of a request that has passed
every check, in that run, before the step.
-/
namespace InviteSystem.ProvisioningGate
open InviteSystem.Runs InviteSystem.Text InviteSystem.Chrono InviteSystem.Libraries InviteSystem.Tokens
open InviteSystem.InviteStorage InviteSystem.InviteRoutes InviteSystem.Programs InviteSystem.Lldap
open InviteSystem.Validation InviteSystem.SubmitInvite InviteSystem.Effects InviteSystem.RedemptionSystem
open InviteSystem.DirectoryServer InviteSystem.Passages

section
variable {ι : Type}

/-- No other call changes the world. -/
theorem untouched_world {i : ι} {w w' : World ι} {c : Lldap.Call} {reply : Reply c} (untouching : Touches c = false)
    (performed : Perform i w c reply w') : w' = w := by
  cases perform_cases performed with
  | nothing => rfl
  | _ => cases untouching

theorem touches_of_mutates {c : Lldap.Call} (mutates : Mutates c = true) : Touches c = true := by
  cases c with
  | consume_invite token_hash consumed_at consumed_by => rfl
  | _ => exact mutates

variable [DecidableEq ι] {crates : Crates} {config : SubmitConfig} {submissions : ι → Submission}
  {start : World ι}

variable (crates config submissions start) in
/-- The request has looked up an invite that was stored under the hash of the
    code when it did, and that is active at the reading of the clock it took;
    the groups of the invite are a list of names. -/
def Invited (labels : List (Label ι Lldap.Call Reply)) (i : ι) (code : String) : Prop :=
  ∃ before after m invite, ∃ now : Reading, ∃ groups,
    labels = before ++ .call i (.find_by_token_hash (hash_token crates code)) (some (some invite)) :: after ∧
    Run (Redemptions crates config submissions) (.initial start) before m ∧
    invite ∈ m.world.store.invites ∧ invite.token_hash = hash_token crates code ∧
    .call i .utc_now now ∈ labels ∧ invite.revoked_at = none ∧ invite.consumed_at = none ∧
    (∃ expires_at, crates.parse_datetime invite.expires_at = some expires_at ∧ now.time < expires_at) ∧
    crates.groups_from_json invite.groups_json = some groups

variable (crates config submissions start) in
/-- What request `i` has passed after the steps `labels` from `start`. -/
structure Gate (labels : List (Label ι Lldap.Call Reply)) (i : ι) : Prop where
  username : validate_username (submissions i).form.username = .ok ()
  email : validate_email (submissions i).form.email = .ok ()
  password : validate_password crates (submissions i).form.password config.password_policy = .ok ()
  unmatched : ∀ url token field value reply, .call i (.post_graphql url token (.LookupUsers field value)) reply ∈ labels →
    ∀ users : List String, GraphqlReply.result reply = .ok users → users = []
  invited : ∃ code, (submissions i).code = some code ∧ (trim code).isEmpty = false ∧
    Invited crates config submissions start labels i code

/-- For every store and every behaviour of the directory: a step of a request is
    a mutation of the directory, or changes the directory or a table of the
    store, only if the request has passed the gate. -/
theorem provisioning_gate (crates : Crates) (config : SubmitConfig) (submissions : ι → Submission) (start : World ι)
    {s s' : System (World ι) ι Lldap.Call Reply (Outcome FormPage)} {labels : List (Label ι Lldap.Call Reply)} {i : ι}
    {c : Lldap.Call} {reply : Reply c} (run : Run (Redemptions crates config submissions) (.initial start) labels s)
    (step : Redemptions crates config submissions s (.call i c reply) s')
    (changes : Mutates c = true ∨ s'.world ≠ s.world) : Gate crates config submissions start labels i := by
  cases step with
  | @call _ _ next _ w' running performed =>
    have touches : Touches c = true := by
      rcases changes with mutates | changed
      · exact touches_of_mutates mutates
      · by_contra untouching
        exact changed (untouched_world (by simpa using untouching) performed)
    have reached : Reaches (submit_invite crates config (submissions i)) (callsOf i labels) (.call c next) :=
      (run_reaches run i).2 _ running
    obtain ⟨passage, tail, calls, later⟩ := reaches_touch touches reached
    have made {c : Lldap.Call} {reply : Reply c} (member : (⟨c, reply⟩ : Made) ∈ passage.calls) :
        .call i c reply ∈ labels := by
      rw [← mem_callsOf, calls]
      exact List.mem_append_left _ member
    obtain ⟨username, email, password⟩ := validation_errors_eq_nil.mp passage.valid
    refine ⟨username, email, password, ?_, passage.code, passage.given, passage.present, ?_⟩
    · intro url token field value reply member users answered
      have posted : (⟨.post_graphql url token (.LookupUsers field value), reply⟩ : Made) ∈ callsOf i labels :=
        mem_callsOf.mpr member
      rw [calls, List.mem_append] at posted
      rcases posted with early | late
      · exact passage.unmatched early answered
      · have quiet := (only_reaches later (only_redeem passage.code _ passage.invite)).1 _ late
        cases quiet.2
    · obtain ⟨unrevoked, unconsumed, unexpired⟩ := invite_is_active_iff.mp passage.active
      have looked : .call i (.find_by_token_hash (hash_token crates passage.code)) (some (some passage.invite)) ∈ labels :=
        made (by simp [Passage.calls])
      have clock : .call i .utc_now passage.now ∈ labels := made (by simp [Passage.calls])
      obtain ⟨before, after, m, m', parts, prior, taken, _⟩ := run.label looked
      cases taken with
      | call _ answered =>
        have finding : finds (.find_by_token_hash (hash_token crates passage.code)) (some (some passage.invite)) =
          some passage.invite := rfl
        obtain ⟨_, stored, same⟩ := perform_finds answered finding
        exact ⟨before, after, m, passage.invite, passage.now, passage.groups, parts, prior, stored,
          (Call.find_by_token_hash.inj same).symm, clock, unrevoked, unconsumed, unexpired, passage.decoded⟩

end

/-- The request of the sample comes to change the world, behind its gate. -/
theorem provisioning_gate_sample : ∃ (labels : List (Label Unit Lldap.Call Reply))
    (s s' : System (World Unit) Unit Lldap.Call Reply (Outcome FormPage)) (c : Lldap.Call) (reply : Reply c),
    Run (Redemptions servedCrates servedConfig fun _ => applicant servedCode "bob") (.initial (servedWorld Unit)) labels s ∧
    Redemptions servedCrates servedConfig (fun _ => applicant servedCode "bob") s (.call () c reply) s' ∧
    s'.world ≠ s.world ∧
    Gate servedCrates servedConfig (fun _ => applicant servedCode "bob") (servedWorld Unit) labels () := by
  let request : Unit → Submission := fun _ => applicant servedCode "bob"
  let Alone : System (World Unit) Unit Lldap.Call Reply (Outcome FormPage) → Label Unit Lldap.Call Reply →
      System (World Unit) Unit Lldap.Call Reply (Outcome FormPage) → Prop :=
    Step (fun i => submit_invite servedCrates servedConfig (request i)) Perform (fun _ _ => False)
  obtain ⟨page, world, served⟩ : ∃ page world, (submit_invite servedCrates servedConfig (request ())).eval
      (serve (servedConditions true) ()) (servedWorld Unit) = (page, world) := ⟨_, _, Prod.mk.eta.symm⟩
  obtain ⟨_, alone⟩ : ∃ labels, Run Alone (.initial (servedWorld Unit)) labels
      ⟨world, Function.update (fun _ => none) () (some (.ret page))⟩ :=
    ⟨_, alone_run (serve_performs (servedConditions true) ()) served⟩
  have created : world.directory.accounts.length = 1 :=
    (congrArg (fun ended => ended.2.directory.accounts.length) served).symm.trans (by decide)
  have changed : world ≠ servedWorld Unit := by
    rintro rfl
    cases created
  obtain ⟨labels, s, l, s', before, taken, moved⟩ := alone.changing (f := System.world) changed
  have redemption : ∀ s l s', Alone s l s' → Redemptions servedCrates servedConfig request s l s' :=
    fun s l s' step => step.mono (fun _ _ _ _ _ performed => performed) (fun _ _ never => never.elim)
  have run := before.mono redemption
  have step := redemption s l s' taken
  cases taken with
  | arrival absent => exact absurd rfl moved
  | outside never => exact never.elim
  | @call i c next reply world' running performed =>
    exact ⟨labels, s, _, c, reply, run, step, moved,
      provisioning_gate servedCrates servedConfig request (servedWorld Unit) run step (.inr moved)⟩

end InviteSystem.ProvisioningGate
