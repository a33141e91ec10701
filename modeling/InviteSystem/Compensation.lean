import InviteSystem.DirectoryServer

/-!
Compensation deletes nobody else's account. The directory may fail any call,
with or without its effect; all that is assumed of it is in `Perform`.
-/
namespace InviteSystem.Compensation
open InviteSystem.Runs InviteSystem.Libraries InviteSystem.Programs InviteSystem.Lldap InviteSystem.SubmitInvite
open InviteSystem.Redemption InviteSystem.Effects InviteSystem.Accounts InviteSystem.RedemptionSystem InviteSystem.DirectoryServer

section
variable {ι : Type}

/-- The label is a `create_user` call of the request that was reported to have
    created the id. -/
def Created (i : ι) (id : String) (labels : List (Label ι Lldap.Call Reply)) : Prop :=
  ∃ c reply, .call i c reply ∈ labels ∧ creates c reply = some (id, true)

theorem created_snoc {i : ι} {id : String} {labels : List (Label ι Lldap.Call Reply)} (l : Label ι Lldap.Call Reply)
    (created : Created i id labels) : Created i id (labels ++ [l]) := by
  obtain ⟨c, reply, member, creation⟩ := created
  exact ⟨c, reply, List.mem_append_left _ member, creation⟩

variable {crates : Crates} {config : SubmitConfig} {submission : Submission}

variable [DecidableEq ι] {submissions : ι → Submission}

/-- The label is a `delete_user` call of the request. -/
def deletes (i : ι) : Label ι Lldap.Call Reply → Bool
  | .call j c _ => j = i ∧ isDelete c = true
  | _ => false

/-- What holds after every step: a request holds its account by a creation of
    its own, the accounts of the start are still there, and a request has sent
    no deletion, or one, after which it holds nothing. -/
structure Compensated (submissions : ι → Submission) (start : World ι) (labels : List (Label ι Lldap.Call Reply))
    (P : ι → Progress) (w : World ι) : Prop where
  owned : Owned submissions P w
  created : ∀ i, (P i).stage.holds = true → Created i (submissions i).form.username labels
  untouched : ∀ id account, start.directory.account id = some account →
    ∃ account', w.directory.account id = some account' ∧ account'.origin = .outside
  counted : ∀ i, labels.countP (deletes i) = 0 ∨ (labels.countP (deletes i) = 1 ∧ (P i).stage = .deleted)

variable {start w w' : World ι} {labels : List (Label ι Lldap.Call Reply)} {P : ι → Progress}

theorem compensated_call (inv : Compensated submissions start labels P w) {i : ι} {c : Lldap.Call} {reply : Reply c}
    (allowed : Allowed crates config (submissions i) (P i) c) (performed : Perform i w c reply w') :
    Compensated submissions start (labels ++ [.call i c reply]) (Function.update P i ((P i).after c reply)) w' := by
  refine ⟨owned_call inv.owned allowed performed, ?_, ?_, ?_⟩
  · intro j holds
    by_cases same : j = i
    · subst same
      rw [Function.update_self, after_holds allowed] at holds
      rcases holds with ⟨held, _⟩ | created
      · exact created_snoc _ (inv.created j held)
      · exact ⟨c, reply, List.mem_append_right _ List.mem_cons_self, created⟩
    · rw [Function.update_of_ne same] at holds
      exact created_snoc _ (inv.created j holds)
  · intro id account present
    obtain ⟨account₁, present₁, origin₁⟩ := inv.untouched id account present
    rcases perform_kept performed id with kept | ⟨⟨url, token, rfl⟩, _⟩
    · obtain ⟨account₂, present₂, origin₂⟩ := kept account₁ present₁
      exact ⟨account₂, present₂, origin₂.trans origin₁⟩
    · obtain ⟨_, _, account₂, present₂, origin₂⟩ := inv.owned.delete allowed
      rw [present₁] at present₂
      cases present₂
      rw [origin₁] at origin₂
      cases origin₂
  · intro j
    rw [List.countP_append, List.countP_singleton]
    by_cases same : j = i
    · subst same
      rw [Function.update_self]
      cases deletion : isDelete c with
      | true =>
        obtain ⟨fresh, deleted⟩ := delete_once deletion reply allowed
        rcases inv.counted j with none | ⟨_, already⟩
        · exact .inr ⟨by simp [none, deletes, deletion], deleted⟩
        · exact absurd already fresh
      | false =>
        rcases inv.counted j with none | ⟨one, already⟩
        · exact .inl (by simp [none, deletes, deletion])
        · exact .inr ⟨by simp [one, deletes, deletion], deleted_stays allowed already⟩
    · rw [Function.update_of_ne same]
      simpa [deletes, Ne.symm same] using inv.counted j

/-- Steps of the outside and arrivals change no progress and are no deletions. -/
theorem compensated_other (inv : Compensated submissions start labels P w) {l : Label ι Lldap.Call Reply}
    (silent : ∀ i, deletes i l = false) (owned : Owned submissions P w')
    (kept : ∀ id, Kept w.directory w'.directory id) : Compensated submissions start (labels ++ [l]) P w' := by
  refine ⟨owned, fun i holds => created_snoc l (inv.created i holds), ?_, ?_⟩
  · intro id account present
    obtain ⟨account₁, present₁, origin₁⟩ := inv.untouched id account present
    obtain ⟨account₂, present₂, origin₂⟩ := kept id account₁ present₁
    exact ⟨account₂, present₂, origin₂.trans origin₁⟩
  · intro i
    simpa [List.countP_append, silent i] using inv.counted i

theorem run_compensated (others : ∀ id account, start.directory.account id = some account → account.origin = .outside)
    {s : System (World ι) ι Lldap.Call Reply (Outcome FormPage)}
    (run : Run (Redemptions crates config submissions) (.initial start) labels s) :
    Compensated submissions start labels
      (progress (fun i => discipline crates config (submissions i)) .start labels) s.world := by
  refine run_invariant (fun i => obeys_submit_invite crates config (submissions i)) ?_ ?_ ?_ ?_ run
  · intro i labels P w inv
    exact compensated_other inv (fun _ => rfl) inv.owned fun _ account present => ⟨account, present, rfl⟩
  · intro i labels P w c reply w' inv allowed performed
    exact compensated_call inv allowed performed
  · intro s labels P w' _ inv changed
    exact compensated_other inv (fun _ => rfl) (owned_outside inv.owned changed) (outside_kept changed)
  · refine ⟨?_, ?_, ?_, ?_⟩
    · rintro i ⟨⟩
    · rintro i ⟨⟩
    · exact fun id account present => ⟨account, present, others id account present⟩
    · exact fun i => .inl rfl

/-- In every run of redemptions, in which every call may fail and a failed call
    may have had its effect: a step leaves each account of the directory with
    the party that inserted it, or deletes it by a request whose own reported
    creation inserted it; the accounts of the start are all still there; and no
    request sends more than one deletion. -/
theorem compensation_deletes_own (crates : Crates) (config : SubmitConfig) (submissions : ι → Submission)
    (start : World ι) (others : ∀ id account, start.directory.account id = some account → account.origin = .outside)
    {s : System (World ι) ι Lldap.Call Reply (Outcome FormPage)} {labels : List (Label ι Lldap.Call Reply)}
    (run : Run (Redemptions crates config submissions) (.initial start) labels s) :
    (∀ l s', Redemptions crates config submissions s l s' → ∀ id,
      Kept s.world.directory s'.world.directory id ∨
        ∃ i url token reply account, l = .call i (.post_graphql url token (.DeleteUser id)) reply ∧
          s.world.directory.account id = some account ∧ account.origin = .request i true ∧ Created i id labels) ∧
    (∀ id account, start.directory.account id = some account →
      ∃ account', s.world.directory.account id = some account' ∧ account'.origin = .outside) ∧
    ∀ i, labels.countP (deletes i) ≤ 1 := by
  have inv := run_compensated others run
  refine ⟨?_, inv.untouched, ?_⟩
  · intro l s' step id
    cases step with
    | arrival absent => exact .inl fun account present => ⟨account, present, rfl⟩
    | @call i c next reply w' running performed =>
      rcases perform_kept performed id with kept | ⟨⟨url, token, rfl⟩, _⟩
      · exact .inl kept
      · have obeys := (run_obeys (fun i => obeys_submit_invite crates config (submissions i)) run i).2 _ running
        have allowed : Allowed crates config (submissions i) _ (.post_graphql url token (.DeleteUser id)) := obeys.1
        obtain ⟨rfl, holds, account, present, origin⟩ := inv.owned.delete allowed
        exact .inr ⟨i, url, token, reply, account, rfl, present, origin, inv.created i holds⟩
    | outside changed => exact .inl (outside_kept changed id)
  · intro i
    rcases inv.counted i with none | ⟨one, _⟩
    · omega
    · omega

end

/-- The LDAP server is down: the account is created, and deleted again. -/
theorem compensation_deletes_own_sample : ∃ s labels,
    Run (Redemptions servedCrates servedConfig (fun _ : Unit => applicant servedCode "bob"))
      (.initial (servedWorld Unit)) labels s ∧
    s.programs () = some (.ret ((applicant servedCode "bob").form.refused servedCode
      ["The account could not be created in the directory."])) ∧
    s.world.directory.accounts = [] ∧ Created () "bob" labels ∧ labels.countP (deletes ()) = 1 ∧
    labels.countP (deletes ()) ≤ 1 := by
  let request : Unit → Submission := fun _ => applicant servedCode "bob"
  obtain ⟨page, world, served⟩ : ∃ page world, (submit_invite servedCrates servedConfig (request ())).eval
      (serve (servedConditions false) ()) (servedWorld Unit) = (page, world) := ⟨_, _, Prod.mk.eta.symm⟩
  have run : Run (Redemptions servedCrates servedConfig request) (.initial (servedWorld Unit)) _ _ :=
    alone_run (serve_performs (servedConditions false) ()) served
  obtain ⟨_, _, once⟩ := compensation_deletes_own servedCrates servedConfig request (servedWorld Unit)
    (by rintro id account ⟨⟩) run
  have refused : page = (applicant servedCode "bob").form.refused servedCode
      ["The account could not be created in the directory."] :=
    (congrArg (fun ended => ended.1) served).symm.trans (by decide)
  have compensated : world.directory.accounts = [] :=
    (congrArg (fun ended => ended.2.directory.accounts) served).symm.trans (by decide)
  have creation : ((submit_invite servedCrates servedConfig (request ())).transcript (serve (servedConditions false) ())
      (servedWorld Unit)).any (fun made => creates made.1 made.2 = some ("bob", true)) = true := by decide
  have deletion : (((submit_invite servedCrates servedConfig (request ())).transcript (serve (servedConditions false) ())
      (servedWorld Unit)).map fun made => Label.call () made.1 made.2).countP (deletes ()) = 1 := by decide
  obtain ⟨made, member, created⟩ := List.any_eq_true.mp creation
  refine ⟨_, _, run, by simp [refused], compensated, ⟨made.1, made.2, ?_, by simpa using created⟩, ?_, once ()⟩
  · exact List.mem_cons_of_mem _ (List.mem_map_of_mem member)
  · rw [List.countP_cons_of_neg (by simp [deletes])]
    exact deletion

end InviteSystem.Compensation
