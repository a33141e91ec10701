import InviteSystem.Authentication
import InviteSystem.Runs
import Mathlib.Data.List.Count

/-!
The login throttle. `reserve_attempt` counts the attempts of one window at a
time, and a window starts with the first attempt after the one before it has
passed. A window accepts five attempts; a minute that reaches from one window
into the next can see ten.
-/
namespace InviteSystem.LoginThrottle
open InviteSystem.Runs InviteSystem.Libraries InviteSystem.Authentication

/-- An attempt: its time, whether a new window starts with it, and the answer. -/
structure Attempt where
  time : Nat
  opens : Bool
  accepted : Bool
deriving DecidableEq, Repr

def attempt (state : AuthState) (now : Instant) : Attempt :=
  ⟨now, LOGIN_WINDOW ≤ now - state.window_started, (reserve_attempt state now).1 = none⟩

/-- A step of the shared state: an attempt, or a change of the session. -/
inductive Step : AuthState → Option Attempt → AuthState → Prop
  | attempt (state : AuthState) (now : Instant) : Step state (some (attempt state now)) (reserve_attempt state now).2
  | session (state : AuthState) (session : Option Session) : Step state none { state with session := session }

/-! ### The operations -/

/-- A login reserves an attempt; without one it is throttled, whatever the
    password, and with one it changes the session at most. -/
theorem login_reserves (crates : Crates) (auth : AdminAuth) (username password : String) (verifier : Verifier)
    (now later : Instant) (drawn : SessionTokens) (state : AuthState) :
    ((attempt state now).accepted = false →
      (login crates auth username password verifier now later drawn state).1 = .error .Throttled) ∧
    ∃ session, (login crates auth username password verifier now later drawn state).2 =
      { (reserve_attempt state now).2 with session := session } := by
  have refusal : ∀ error, (reserve_attempt state now).1 = some error → error = .Throttled := by
    intro error
    unfold reserve_attempt
    dsimp only
    split <;> split <;> simp [eq_comm]
  unfold login attempt
  cases reserved : reserve_attempt state now with
  | mk answer after =>
    cases answer with
    | some error =>
      rw [refusal error (by rw [reserved])]
      exact ⟨fun _ => rfl, after.session, rfl⟩
    | none =>
      refine ⟨by simp, ?_⟩
      dsimp only
      split
      · exact ⟨after.session, rfl⟩
      · split
        · exact ⟨after.session, rfl⟩
        · split
          · exact ⟨after.session, rfl⟩
          · split
            · exact ⟨after.session, rfl⟩
            · exact ⟨_, rfl⟩

/-- Every operation takes such steps: a login makes one attempt, the others none. -/
theorem operation_steps (crates : Crates) (state : AuthState) :
    (∀ auth username password verifier now later drawn, ∃ labels, labels.reduceOption = [attempt state now] ∧
      Run Step state labels (login crates auth username password verifier now later drawn state).2) ∧
    (∀ token now, Step state none (csrf_token_at crates token now state).2) ∧
    ∀ token, Step state none (logout crates token state) := by
  have unchanged : Step state none state := .session state state.session
  refine ⟨?_, ?_, ?_⟩
  · intro auth username password verifier now later drawn
    obtain ⟨_, session, changed⟩ := login_reserves crates auth username password verifier now later drawn state
    rw [changed]
    exact ⟨[some (attempt state now), none], rfl, (Run.single (.attempt state now)).next (.session _ session)⟩
  · intro token now
    rcases csrf_token_at_state crates token now state with same | ⟨dropped, _⟩
    · rw [same]
      exact unchanged
    · rw [dropped]
      exact .session state none
  · intro token
    rcases logout_cases crates token state with ⟨same, _⟩ | ⟨dropped, _⟩
    · rw [same]
      exact unchanged
    · rw [dropped]
      exact .session state none

/-- What an attempt does: it opens a window, or counts in the present one, or is
    refused. -/
theorem reserve_attempt_cases (state : AuthState) (now : Nat) :
    (attempt state now = ⟨now, true, true⟩ ∧ LOGIN_WINDOW + state.window_started ≤ now ∧
      (reserve_attempt state now).2 = { state with window_started := now, attempts := 1 }) ∨
    (now < LOGIN_WINDOW + state.window_started ∧
      ((attempt state now = ⟨now, false, true⟩ ∧ state.attempts.toNat < 5 ∧
        (reserve_attempt state now).2 = { state with attempts := state.attempts + 1 }) ∨
      (attempt state now = ⟨now, false, false⟩ ∧ 5 ≤ state.attempts.toNat ∧ (reserve_attempt state now).2 = state))) := by
  have window : LOGIN_WINDOW = 60000000000 := rfl
  by_cases elapsed : LOGIN_WINDOW ≤ now - state.window_started
  · have reached : LOGIN_WINDOW + state.window_started ≤ now := by omega
    left
    refine ⟨?_, reached, ?_⟩
    · simp [attempt, reserve_attempt, elapsed, MAX_ATTEMPTS]
    · simp [reserve_attempt, elapsed, MAX_ATTEMPTS]
  · have before : now < LOGIN_WINDOW + state.window_started := by omega
    right
    refine ⟨before, ?_⟩
    by_cases full : MAX_ATTEMPTS ≤ state.attempts
    · right
      refine ⟨?_, UInt32.le_iff_toNat_le.mp full, ?_⟩
      · simp [attempt, reserve_attempt, elapsed, full]
      · simp [reserve_attempt, elapsed, full]
    · left
      have few : state.attempts.toNat < MAX_ATTEMPTS.toNat := UInt32.lt_iff_toNat_lt.mp (UInt32.not_le.mp full)
      refine ⟨?_, few, ?_⟩
      · simp [attempt, reserve_attempt, elapsed, full]
      · simp [reserve_attempt, elapsed, full]

/-! ### Counting -/

/-- The times of the accepted attempts. -/
def acceptedTimes (past : List Attempt) : List Nat := (past.filter (·.accepted)).map (·.time)

/-- How many of the times lie in the half-open interval. -/
def countIn (a b : Nat) (times : List Nat) : Nat := times.countP (fun time => a ≤ time ∧ time < b)

theorem acceptedTimes_snoc (past : List Attempt) (x : Attempt) :
    acceptedTimes (past ++ [x]) = acceptedTimes past ++ if x.accepted then [x.time] else [] := by
  unfold acceptedTimes
  cases accepted : x.accepted <;> simp [List.filter_append, accepted]

theorem countIn_snoc (a b : Nat) (times : List Nat) (time : Nat) :
    countIn a b (times ++ [time]) = countIn a b times + if a ≤ time ∧ time < b then 1 else 0 := by
  simp [countIn, List.countP_append, List.countP_singleton]

/-- An interval is counted by the two parts that cover it. -/
theorem countIn_cover {a b c d e f : Nat} {times : List Nat}
    (cover : ∀ time ∈ times, a ≤ time → time < b → (c ≤ time ∧ time < d) ∨ (e ≤ time ∧ time < f)) :
    countIn a b times ≤ countIn c d times + countIn e f times := by
  induction times with
  | nil => simp [countIn]
  | cons time times ih =>
    simp only [List.forall_mem_cons] at cover
    have rest := ih cover.2
    have here := cover.1
    simp only [countIn, List.countP_cons, decide_eq_true_eq] at rest ⊢
    split_ifs <;> omega

theorem countIn_none {a b : Nat} {times : List Nat} (none : ∀ time ∈ times, a ≤ time → b ≤ time) :
    countIn a b times = 0 := by
  rw [countIn, List.countP_eq_zero]
  intro time member inside
  have bounds : a ≤ time ∧ time < b := by simpa using inside
  have later := none time member bounds.1
  omega

theorem mem_acceptedTimes {past : List Attempt} {time : Nat} (member : time ∈ acceptedTimes past) :
    ∃ x ∈ past, x.time = time := by
  obtain ⟨x, kept, same⟩ := List.mem_map.mp member
  exact ⟨x, (List.mem_filter.mp kept).1, same⟩

/-! ### The windows -/

/-- No attempt opens a window within the minute, but at its beginning. -/
def NoneOpens (a : Nat) (past : List Attempt) : Prop :=
  ∀ x ∈ past, x.opens = true → a < x.time → a + from_secs 60 ≤ x.time

/-- What holds after every attempt: the present window covers all attempts since
    its start, and a minute that reaches back before it has seen five at most. -/
structure Throttled (start : Nat) (past : List Attempt) (opened attempts : Nat) : Prop where
  since : ∀ x ∈ past, start ≤ x.time
  begun : opened = start ∨ ∃ x ∈ past, x.opens = true ∧ x.time = opened
  within : ∀ x ∈ past, x.time < from_secs 60 + opened
  counted : countIn opened (from_secs 60 + opened) (acceptedTimes past) = attempts
  few : attempts ≤ 5
  earlier : ∀ a, opened < a + from_secs 60 → countIn a opened (acceptedTimes past) ≤ 5
  minute : ∀ a, countIn a (a + from_secs 60) (acceptedTimes past) ≤ 10 ∧
    (NoneOpens a past → countIn a (a + from_secs 60) (acceptedTimes past) ≤ 5)

theorem throttled_initial (start : Nat) : Throttled start [] start 0 := by
  refine ⟨?_, .inl rfl, ?_, ?_, ?_, ?_, ?_⟩ <;> simp [acceptedTimes, countIn]

section
variable {start : Nat} {past : List Attempt} {opened attempts : Nat}

theorem noneOpens_snoc {a : Nat} {x : Attempt} (none : NoneOpens a (past ++ [x])) : NoneOpens a past :=
  fun y member => none y (List.mem_append_left _ member)

/-- What was accepted lies between the construction and the end of the present window. -/
theorem Throttled.bounds (inv : Throttled start past opened attempts) {time : Nat}
    (member : time ∈ acceptedTimes past) : start ≤ time ∧ time < from_secs 60 + opened := by
  obtain ⟨x, stored, rfl⟩ := mem_acceptedTimes member
  exact ⟨inv.since x stored, inv.within x stored⟩

theorem Throttled.begun_snoc (inv : Throttled start past opened attempts) (x : Attempt) :
    opened = start ∨ ∃ y ∈ past ++ [x], y.opens = true ∧ y.time = opened := by
  rcases inv.begun with first | ⟨y, stored, opens, same⟩
  · exact .inl first
  · exact .inr ⟨y, List.mem_append_left _ stored, opens, same⟩

/-- An interval holds what came before the present window and the window's attempts at most. -/
theorem Throttled.count_le (inv : Throttled start past opened attempts) (a b : Nat) :
    countIn a b (acceptedTimes past) ≤ countIn a opened (acceptedTimes past) + attempts := by
  rw [← inv.counted]
  refine countIn_cover ?_
  intro time member low _
  have bound := (inv.bounds member).2
  by_cases early : time < opened
  · exact .inl ⟨low, early⟩
  · exact .inr ⟨by omega, bound⟩

/-- One that begins no earlier than the window holds none but those. -/
theorem Throttled.count_since (inv : Throttled start past opened attempts) {a : Nat} (since : opened ≤ a) (b : Nat) :
    countIn a b (acceptedTimes past) ≤ attempts := by
  have none : countIn a opened (acceptedTimes past) = 0 := countIn_none fun time _ low => le_trans since low
  have bound := inv.count_le a b
  omega

/-- The minutes, when an attempt opens a window. -/
theorem minute_opened (inv : Throttled start past opened attempts) {now : Nat} (passed : from_secs 60 + opened ≤ now)
    (a : Nat) : countIn a (a + from_secs 60) (acceptedTimes past ++ [now]) ≤ 10 ∧
      (NoneOpens a (past ++ [⟨now, true, true⟩]) → countIn a (a + from_secs 60) (acceptedTimes past ++ [now]) ≤ 5) := by
  obtain ⟨ten, five⟩ := inv.minute a
  have few := inv.few
  rw [countIn_snoc]
  by_cases inside : a ≤ now ∧ now < a + from_secs 60
  · -- no attempt of the minute came before the last window
    have before := inv.count_since (show opened ≤ a by omega) (a + from_secs 60)
    rw [if_pos inside]
    refine ⟨by omega, ?_⟩
    intro none
    have opens := none ⟨now, true, true⟩ (List.mem_append_right _ (List.mem_singleton_self _)) rfl
    have atStart : now = a := by
      by_contra other
      have later := opens (show a < now by omega)
      change a + from_secs 60 ≤ now at later
      omega
    rw [countIn_none (fun time member low => by have bound := (inv.bounds member).2; omega)]
    omega
  · rw [if_neg inside]
    exact ⟨by omega, fun none => five (noneOpens_snoc none)⟩

theorem throttled_opened (inv : Throttled start past opened attempts) {now : Nat} (since : start ≤ now)
    (passed : from_secs 60 + opened ≤ now) :
    Throttled start (past ++ [⟨now, true, true⟩]) now 1 := by
  have times : acceptedTimes (past ++ [⟨now, true, true⟩]) = acceptedTimes past ++ [now] := by
    rw [acceptedTimes_snoc]
    rfl
  have few := inv.few
  have ahead : now < from_secs 60 + now := by simp [from_secs]
  refine ⟨?_, ?_, ?_, ?_, by omega, ?_, ?_⟩
  · exact List.forall_mem_append.mpr ⟨inv.since, List.forall_mem_singleton.mpr since⟩
  · exact .inr ⟨_, List.mem_append_right _ (List.mem_singleton_self _), rfl, rfl⟩
  · refine List.forall_mem_append.mpr ⟨?_, List.forall_mem_singleton.mpr ahead⟩
    intro x member
    have bound := inv.within x member
    omega
  · rw [times, countIn_snoc, if_pos ⟨le_refl now, ahead⟩, countIn_none]
    intro time member low
    have bound := (inv.bounds member).2
    omega
  · intro a reaches
    have before := inv.count_since (show opened ≤ a by omega) now
    rw [times, countIn_snoc, if_neg (by omega)]
    omega
  · intro a
    rw [times]
    exact minute_opened inv passed a

/-- The minutes, when an attempt is counted in the present window. -/
theorem minute_counted (inv : Throttled start past opened attempts) {now : Nat} (begun : opened ≤ now)
    (room : attempts < 5) (a : Nat) : countIn a (a + from_secs 60) (acceptedTimes past ++ [now]) ≤ 10 ∧
      (NoneOpens a (past ++ [⟨now, false, true⟩]) → countIn a (a + from_secs 60) (acceptedTimes past ++ [now]) ≤ 5) := by
  obtain ⟨ten, five⟩ := inv.minute a
  rw [countIn_snoc]
  by_cases inside : a ≤ now ∧ now < a + from_secs 60
  · have cover := inv.count_le a (a + from_secs 60)
    rw [if_pos inside]
    constructor
    · by_cases reaches : opened < a + from_secs 60
      · have before := inv.earlier a reaches
        omega
      · omega
    · intro none
      -- no window opens in the minute, so that the present one began before it
      have noneBefore : countIn a opened (acceptedTimes past) = 0 := by
        refine countIn_none ?_
        intro time member low
        rcases inv.begun with first | ⟨y, stored, opens, same⟩
        · have since := (inv.bounds member).1
          omega
        · have outside := noneOpens_snoc none y stored opens
          omega
      omega
  · rw [if_neg inside]
    exact ⟨by omega, fun none => five (noneOpens_snoc none)⟩

theorem throttled_counted (inv : Throttled start past opened attempts) {now : Nat} (since : start ≤ now)
    (begun : opened ≤ now) (inWindow : now < from_secs 60 + opened) (room : attempts < 5) :
    Throttled start (past ++ [⟨now, false, true⟩]) opened (attempts + 1) := by
  have times : acceptedTimes (past ++ [⟨now, false, true⟩]) = acceptedTimes past ++ [now] := by
    rw [acceptedTimes_snoc]
    rfl
  refine ⟨?_, inv.begun_snoc _, ?_, ?_, by omega, ?_, ?_⟩
  · exact List.forall_mem_append.mpr ⟨inv.since, List.forall_mem_singleton.mpr since⟩
  · exact List.forall_mem_append.mpr ⟨inv.within, List.forall_mem_singleton.mpr inWindow⟩
  · rw [times, countIn_snoc, if_pos ⟨begun, inWindow⟩, inv.counted]
  · intro a reaches
    rw [times, countIn_snoc, if_neg (by omega)]
    exact inv.earlier a reaches
  · intro a
    rw [times]
    exact minute_counted inv begun room a

theorem throttled_refused (inv : Throttled start past opened attempts) {now : Nat} (since : start ≤ now)
    (inWindow : now < from_secs 60 + opened) :
    Throttled start (past ++ [⟨now, false, false⟩]) opened attempts := by
  have times : acceptedTimes (past ++ [⟨now, false, false⟩]) = acceptedTimes past := by
    rw [acceptedTimes_snoc]
    simp
  refine ⟨?_, inv.begun_snoc _, ?_, by rw [times]; exact inv.counted, inv.few, by rw [times]; exact inv.earlier, ?_⟩
  · exact List.forall_mem_append.mpr ⟨inv.since, List.forall_mem_singleton.mpr since⟩
  · exact List.forall_mem_append.mpr ⟨inv.within, List.forall_mem_singleton.mpr inWindow⟩
  · intro a
    rw [times]
    exact ⟨(inv.minute a).1, fun none => (inv.minute a).2 (noneOpens_snoc none)⟩

/-- Step lemma: an attempt that comes no earlier than those before it. -/
theorem throttled_attempt {state : AuthState} (inv : Throttled start past state.window_started state.attempts.toNat)
    {now : Nat} (since : start ≤ now) (later : ∀ x ∈ past, x.time ≤ now) :
    Throttled start (past ++ [attempt state now]) (reserve_attempt state now).2.window_started
      (reserve_attempt state now).2.attempts.toNat := by
  have begun : (state.window_started : Nat) ≤ now := by
    rcases inv.begun with first | ⟨x, stored, _, same⟩
    · rw [first]
      exact since
    · rw [← same]
      exact later x stored
  rcases reserve_attempt_cases state now with
    ⟨made, passed, after⟩ | ⟨inWindow, ⟨made, room, after⟩ | ⟨made, _, after⟩⟩
  · rw [made, after]
    exact throttled_opened inv since passed
  · have more : (state.attempts + 1).toNat = state.attempts.toNat + 1 := by
      rw [UInt32.toNat_add]
      exact Nat.mod_eq_of_lt (by simpa using by omega)
    rw [made, after, more]
    exact throttled_counted inv since begun inWindow room
  · rw [made, after]
    exact throttled_refused inv since inWindow

/-- The attempts of a run, in order. -/
def Ordered (start : Nat) (past : List Attempt) : Prop := (start :: past.map Attempt.time).Pairwise (· ≤ ·)

instance (start : Nat) (past : List Attempt) : Decidable (Ordered start past) :=
  inferInstanceAs (Decidable (List.Pairwise _ _))

theorem ordered_snoc {x : Attempt} (ordered : Ordered start (past ++ [x])) :
    Ordered start past ∧ start ≤ x.time ∧ ∀ y ∈ past, y.time ≤ x.time := by
  unfold Ordered at ordered ⊢
  rw [List.map_append, ← List.cons_append, List.pairwise_append] at ordered
  obtain ⟨before, _, apart⟩ := ordered
  refine ⟨before, apart _ (List.mem_cons_self ..) _ (by simp), ?_⟩
  intro y member
  exact apart _ (List.mem_cons_of_mem _ (List.mem_map_of_mem member)) _ (by simp)

/-- Run lemma: the throttle from its construction on. -/
theorem run_throttled {state : AuthState} {labels : List (Option Attempt)}
    (run : Run Step (.initial start) labels state) (ordered : Ordered start labels.reduceOption) :
    Throttled start labels.reduceOption state.window_started state.attempts.toNat := by
  induction run with
  | stay => exact throttled_initial start
  | @next labels m s' l before taken ih =>
    cases taken with
    | attempt now =>
      rw [List.reduceOption_append] at ordered ⊢
      obtain ⟨orderedBefore, since, later⟩ := ordered_snoc ordered
      exact throttled_attempt (ih orderedBefore) since later
    | session session =>
      rw [List.reduceOption_append, show [none].reduceOption = ([] : List Attempt) from rfl, List.append_nil] at ordered ⊢
      exact ih ordered

end

/-- The bound of the throttle on any minute, for attempts in the order of time
    from construction on: five where no window opens after its beginning, and
    ten at most. A refused attempt tries no password. -/
theorem login_rate (start : Instant) {state : AuthState} {labels : List (Option Attempt)}
    (run : Run Step (.initial start) labels state) (ordered : Ordered start labels.reduceOption) :
    (∀ a, countIn a (a + from_secs 60) (acceptedTimes labels.reduceOption) ≤ 10) ∧
    (∀ a, (∀ x ∈ labels.reduceOption, x.opens = true → ¬ (a < x.time ∧ x.time < a + from_secs 60)) →
      countIn a (a + from_secs 60) (acceptedTimes labels.reduceOption) ≤ 5) ∧
    ∀ crates auth username password verifier now later drawn, (attempt state now).accepted = false →
      (login crates auth username password verifier now later drawn state).1 = .error .Throttled := by
  have inv := run_throttled run ordered
  refine ⟨fun a => (inv.minute a).1, ?_, ?_⟩
  · intro a none
    refine (inv.minute a).2 ?_
    intro x member opens late
    have outside := none x member opens
    omega
  · intro crates auth username password verifier now later drawn
    exact (login_reserves crates auth username password verifier now later drawn state).1

/-! ### A burst over the end of a window -/

/-- The attempts at the given times, one after the other. -/
def attemptsAt : AuthState → List Nat → List Attempt
  | _, [] => []
  | state, now :: times => attempt state now :: attemptsAt (reserve_attempt state now).2 times

/-- The state that they lead to. -/
def stateAfter (state : AuthState) (times : List Nat) : AuthState :=
  times.foldl (fun state now => (reserve_attempt state now).2) state

theorem attemptsAt_run (state : AuthState) (times : List Nat) :
    Run Step state ((attemptsAt state times).map some) (stateAfter state times) := by
  induction times generalizing state with
  | nil => exact .stay
  | cons now times ih => exact (Run.single (.attempt state now)).trans (ih (reserve_attempt state now).2)

/-- Five attempts 59 seconds after construction, and five one second later. -/
def burst : List Attempt :=
  attemptsAt (.initial 0) (List.replicate 5 (from_secs 59) ++ List.replicate 5 (from_secs 60))

/-- All ten are accepted, within two seconds. -/
theorem login_rate_burst : (∃ state, Run Step (.initial 0) (burst.map some) state) ∧
    (burst.map some).reduceOption = burst ∧ Ordered 0 burst ∧
    countIn (from_secs 59) (from_secs 59 + from_secs 60) (acceptedTimes burst) = 10 :=
  ⟨⟨_, attemptsAt_run _ _⟩, by decide, by decide, by decide⟩

/-- The minute that begins with the second window holds five of them. -/
theorem login_rate_sample : (∀ a, countIn a (a + from_secs 60) (acceptedTimes burst) ≤ 10) ∧
    countIn (from_secs 60) (from_secs 60 + from_secs 60) (acceptedTimes burst) ≤ 5 := by
  have visible : (burst.map some).reduceOption = burst := by decide
  have ordered : Ordered 0 burst := by decide
  have run : Run Step (.initial 0) (burst.map some) _ := attemptsAt_run _ _
  obtain ⟨ten, five, _⟩ := login_rate 0 run (by rw [visible]; exact ordered)
  rw [visible] at ten five
  exact ⟨ten, five _ (by decide)⟩

/-! ### Refusals -/

/-- How many attempts were accepted in the minute that ends with `now`. -/
def lastMinute (now : Nat) (past : List Attempt) : Nat :=
  (acceptedTimes past).countP (fun time => now < time + from_secs 60 ∧ time ≤ now)

section
variable {start : Nat} {past : List Attempt} {opened attempts : Nat}

/-- The attempts of the present window were made in the minute up to an attempt in it. -/
theorem Throttled.lastMinute_ge (inv : Throttled start past opened attempts) {now : Nat}
    (later : ∀ x ∈ past, x.time ≤ now) (inWindow : now < from_secs 60 + opened) : attempts ≤ lastMinute now past := by
  rw [← inv.counted]
  refine List.countP_mono_left ?_
  intro time member
  obtain ⟨x, stored, rfl⟩ := mem_acceptedTimes member
  have before := later x stored
  simp only [decide_eq_true_eq]
  omega

/-- Step lemma: an attempt is refused in a full window, which it leaves alone. -/
theorem refused_full {state : AuthState} {now : Nat} (refused : (attempt state now).accepted = false) :
    now < LOGIN_WINDOW + state.window_started ∧ 5 ≤ state.attempts.toNat ∧ (reserve_attempt state now).2 = state := by
  rcases reserve_attempt_cases state now with ⟨made, _⟩ | ⟨inWindow, ⟨made, _⟩ | ⟨_, full, same⟩⟩
  · rw [made] at refused
    cases refused
  · rw [made] at refused
    cases refused
  · exact ⟨inWindow, full, same⟩

/-- Run lemma: so do any number of them. -/
theorem run_refused {state later : AuthState} {labels : List (Option Attempt)} (run : Run Step state labels later)
    (refused : ∀ x ∈ labels.reduceOption, x.accepted = false) :
    later.window_started = state.window_started ∧ later.attempts = state.attempts := by
  induction run with
  | stay => exact ⟨rfl, rfl⟩
  | @next labels m s' l before taken ih =>
    rw [List.reduceOption_append] at refused
    have same := ih fun x member => refused x (List.mem_append_left _ member)
    cases taken with
    | attempt now =>
      rw [(refused_full (refused _ (List.mem_append_right _ (List.mem_singleton_self _)))).2.2]
      exact same
    | session session => exact same

end

/-- The throttle has cause for every refusal: five attempts were accepted in the
    minute before. The counter stays within five, and refused attempts do not
    put off the end of the window, after which an attempt is accepted. -/
theorem refused_with_cause (start : Instant) {state : AuthState} {labels : List (Option Attempt)}
    (run : Run Step (.initial start) labels state) (ordered : Ordered start labels.reduceOption) :
    state.attempts.toNat ≤ 5 ∧
    (∀ now, Ordered start (labels.reduceOption ++ [attempt state now]) →
      (reserve_attempt state now).1 = some .Throttled → 5 ≤ lastMinute now labels.reduceOption) ∧
    ∀ labels' later, Run Step state labels' later → (∀ x ∈ labels'.reduceOption, x.accepted = false) →
      ∀ now, from_secs 60 + state.window_started ≤ now → (reserve_attempt later now).1 = none := by
  have inv := run_throttled run ordered
  refine ⟨inv.few, ?_, ?_⟩
  · intro now inOrder refused
    obtain ⟨_, _, later⟩ := ordered_snoc inOrder
    have unaccepted : (attempt state now).accepted = false := by simp [attempt, refused]
    obtain ⟨inWindow, full, _⟩ := refused_full unaccepted
    exact le_trans full (inv.lastMinute_ge later inWindow)
  · intro labels' later after refused now passed
    have same := (run_refused after refused).1
    by_contra other
    have unaccepted : (attempt later now).accepted = false := by simp [attempt, other]
    have inWindow := (refused_full unaccepted).1
    rw [same] at inWindow
    exact absurd inWindow (Nat.not_lt.mpr passed)

/-- A sixth attempt is refused half a minute after five; one made when the minute
    is over is accepted. -/
theorem refused_with_cause_sample :
    (reserve_attempt (stateAfter (.initial 0) (List.replicate 5 (from_secs 10))) (from_secs 40)).1 = some .Throttled ∧
    5 ≤ lastMinute (from_secs 40) (attemptsAt (.initial 0) (List.replicate 5 (from_secs 10))) ∧
    (reserve_attempt (stateAfter (.initial 0) (List.replicate 5 (from_secs 10) ++ [from_secs 40]))
      (from_secs 60)).1 = none := by
  have run := attemptsAt_run (.initial 0) (List.replicate 5 (from_secs 10))
  have visible : ((attemptsAt (.initial 0) (List.replicate 5 (from_secs 10))).map some).reduceOption =
      attemptsAt (.initial 0) (List.replicate 5 (from_secs 10)) := by decide
  obtain ⟨_, cause, admitted⟩ := refused_with_cause 0 run (by rw [visible]; decide)
  rw [visible] at cause
  have sixth : (reserve_attempt (stateAfter (.initial 0) (List.replicate 5 (from_secs 10))) (from_secs 40)).1 =
      some .Throttled := by decide
  exact ⟨sixth, cause _ (by decide) sixth,
    admitted _ _ (attemptsAt_run _ [from_secs 40]) (by decide) (from_secs 60) (by decide)⟩

end InviteSystem.LoginThrottle
