import InviteSystem.Runs
import Mathlib.Logic.Function.Basic

/-!
Programs that call out and go on by the reply. A discipline says what a program
may call by what it has done so far; a system runs any number of programs, one
call at a time, in any order, beside steps of the outside. `run_obeys` is the
rule that leaves a reader with the programs alone, `run_invariant` the one that
leaves him with the world alone.
-/
namespace InviteSystem.Programs
open InviteSystem.Runs
universe u v w u'

/-- A program with calls `C`, whose replies are `R`, and results `α`. -/
inductive Program (C : Type u) (R : C → Type v) (α : Type w)
  | ret (result : α)
  | call (c : C) (next : R c → Program C R α)

/-- How a program that may panic ends. -/
inductive Outcome (α : Type w)
  | returned (value : α)
  | panicked
deriving DecidableEq, Repr

section
variable {C : Type u} {R : C → Type v} {α β ε σ : Type w}

def Program.bind : Program C R α → (α → Program C R β) → Program C R β
  | .ret result, next => next result
  | .call c rest, next => .call c (fun reply => (rest reply).bind next)

/-- The `?` of a fallible program: an error ends the whole. -/
def Program.andThen (program : Program C R (Except ε α)) (next : α → Program C R (Except ε β)) :
    Program C R (Except ε β) :=
  program.bind (fun result => match result with
    | .error error => .ret (.error error)
    | .ok value => next value)

/-- The `?` on a call without panics, in a program that may panic. -/
def Program.tries (program : Program C R (Except ε α)) (next : α → Program C R (Outcome (Except ε β))) :
    Program C R (Outcome (Except ε β)) :=
  program.bind (fun result => match result with
    | .error error => .ret (.returned (.error error))
    | .ok value => next value)

/-- The last call of a program that may panic does not. -/
def Program.returns (program : Program C R α) : Program C R (Outcome α) :=
  program.bind (fun value => .ret (.returned value))

/-- The program run against one partner that answers every call. -/
def Program.eval {D : Type u'} (respond : (c : C) → D → R c × D) : Program C R α → D → α × D
  | .ret result, state => (result, state)
  | .call c next, state => (next (respond c state).1).eval respond (respond c state).2

/-- The calls that it makes of this partner, with the answers. -/
def Program.transcript {D : Type u'} (respond : (c : C) → D → R c × D) : Program C R α → D → List ((c : C) × R c)
  | .ret _, _ => []
  | .call c next, state =>
    ⟨c, (respond c state).1⟩ :: (next (respond c state).1).transcript respond (respond c state).2

@[simp] theorem eval_ret {D : Type u'} (respond : (c : C) → D → R c × D) (result : α) (state : D) :
    (Program.ret result).eval respond state = (result, state) := rfl
@[simp] theorem eval_call {D : Type u'} (respond : (c : C) → D → R c × D) (c : C) (next : R c → Program C R α)
    (state : D) : (Program.call c next).eval respond state =
      (next (respond c state).1).eval respond (respond c state).2 := rfl

theorem eval_bind {D : Type u'} (respond : (c : C) → D → R c × D) (program : Program C R α)
    (next : α → Program C R β) (state : D) :
    (program.bind next).eval respond state =
      (next (program.eval respond state).1).eval respond (program.eval respond state).2 := by
  induction program generalizing state with
  | ret result => rfl
  | call c rest ih => exact ih _ _

theorem eval_andThen {D : Type u'} {respond : (c : C) → D → R c × D} {program : Program C R (Except ε α)}
    {state state' : D} {value : α} (ok : program.eval respond state = (.ok value, state'))
    (next : α → Program C R (Except ε β)) :
    (program.andThen next).eval respond state = (next value).eval respond state' := by
  rw [Program.andThen, eval_bind, ok]

theorem eval_andThen_error {D : Type u'} {respond : (c : C) → D → R c × D} {program : Program C R (Except ε α)}
    {state state' : D} {error : ε} (failed : program.eval respond state = (.error error, state'))
    (next : α → Program C R (Except ε β)) : (program.andThen next).eval respond state = (.error error, state') := by
  rw [Program.andThen, eval_bind, failed]
  rfl

theorem eval_tries {D : Type u'} {respond : (c : C) → D → R c × D} {program : Program C R (Except ε α)}
    {state state' : D} {value : α} (ok : program.eval respond state = (.ok value, state'))
    (next : α → Program C R (Outcome (Except ε β))) :
    (program.tries next).eval respond state = (next value).eval respond state' := by
  rw [Program.tries, eval_bind, ok]

theorem eval_tries_error {D : Type u'} {respond : (c : C) → D → R c × D} {program : Program C R (Except ε α)}
    {state state' : D} {error : ε} (failed : program.eval respond state = (.error error, state'))
    (next : α → Program C R (Outcome (Except ε β))) :
    (program.tries next).eval respond state = (.returned (.error error), state') := by
  rw [Program.tries, eval_bind, failed]
  rfl

theorem eval_returns {D : Type u'} {respond : (c : C) → D → R c × D} {program : Program C R α} {state state' : D}
    {value : α} (ended : program.eval respond state = (value, state')) :
    program.returns.eval respond state = (.returned value, state') := by
  rw [Program.returns, eval_bind, ended]
  rfl

end

/-! ### Disciplines -/

/-- What a program may call, by its progress, and how its calls advance it. -/
structure Discipline (C : Type u) (R : C → Type v) (G : Type w) where
  allowed : G → C → Prop
  after : G → (c : C) → R c → G

section
variable {C : Type u} {R : C → Type v} {G : Type w} {α β ε : Type w}

/-- Whatever the replies, the program makes only allowed calls, and ends as `final` says. -/
def Obeys (d : Discipline C R G) (final : G → α → Prop) : G → Program C R α → Prop
  | g, .ret result => final g result
  | g, .call c next => d.allowed g c ∧ ∀ reply, Obeys d final (d.after g c reply) (next reply)

variable {d : Discipline C R G} {g : G}

@[simp] theorem obeys_ret {final : G → α → Prop} {result : α} : Obeys d final g (.ret result) ↔ final g result := Iff.rfl

theorem obeys_bind {middle : G → α → Prop} {final : G → β → Prop} {program : Program C R α}
    {next : α → Program C R β} (first : Obeys d middle g program)
    (rest : ∀ g result, middle g result → Obeys d final g (next result)) : Obeys d final g (program.bind next) := by
  induction program generalizing g with
  | ret result => exact rest g result first
  | call c next' ih => exact ⟨first.1, fun reply => ih reply (first.2 reply)⟩

theorem obeys_mono {middle final : G → α → Prop} {program : Program C R α} (obeys : Obeys d middle g program)
    (weaker : ∀ g result, middle g result → final g result) : Obeys d final g program := by
  induction program generalizing g with
  | ret result => exact weaker g result obeys
  | call c next ih => exact ⟨obeys.1, fun reply => ih reply (obeys.2 reply)⟩

theorem obeys_andThen {middle : G → Except ε α → Prop} {final : G → Except ε β → Prop}
    {program : Program C R (Except ε α)} {next : α → Program C R (Except ε β)} (first : Obeys d middle g program)
    (failed : ∀ g error, middle g (.error error) → final g (.error error))
    (rest : ∀ g value, middle g (.ok value) → Obeys d final g (next value)) :
    Obeys d final g (program.andThen next) := by
  refine obeys_bind first ?_
  intro g result reached
  cases result with
  | error error => exact failed g error reached
  | ok value => exact rest g value reached

theorem obeys_tries {middle : G → Except ε α → Prop} {final : G → Outcome (Except ε β) → Prop}
    {program : Program C R (Except ε α)} {next : α → Program C R (Outcome (Except ε β))}
    (first : Obeys d middle g program)
    (failed : ∀ g error, middle g (.error error) → final g (.returned (.error error)))
    (rest : ∀ g value, middle g (.ok value) → Obeys d final g (next value)) :
    Obeys d final g (program.tries next) := by
  refine obeys_bind first ?_
  intro g result reached
  cases result with
  | error error => exact failed g error reached
  | ok value => exact rest g value reached

theorem obeys_returns {final : G → Outcome α → Prop} {program : Program C R α}
    (obeys : Obeys d (fun g value => final g (.returned value)) g program) : Obeys d final g program.returns :=
  obeys_bind obeys fun _ _ ended => ended

/-- Against one partner, what its answers to allowed calls keep holds at the end. -/
theorem eval_invariant {D : Type u'} {respond : (c : C) → D → R c × D} {final : G → α → Prop} {Inv : G → D → Prop}
    (keeps : ∀ g state c, Inv g state → d.allowed g c → Inv (d.after g c (respond c state).1) (respond c state).2)
    {program : Program C R α} (obeys : Obeys d final g program) {state : D} (start : Inv g state) :
    ∃ g', final g' (program.eval respond state).1 ∧ Inv g' (program.eval respond state).2 := by
  induction program generalizing g state with
  | ret result => exact ⟨g, obeys, start⟩
  | call c next ih => exact ih _ (obeys.2 _) (keeps g state c start obeys.1)

end

/-! ### Traces -/

section
variable {C : Type u} {R : C → Type v} {α β ε : Type w}

/-- By these calls, with these replies, the program comes to `rest`. -/
inductive Reaches : Program C R α → List ((c : C) × R c) → Program C R α → Prop
  | here {program : Program C R α} : Reaches program [] program
  | call {c : C} {next : R c → Program C R α} {reply : R c} {calls : List ((c : C) × R c)} {rest : Program C R α} :
      Reaches (next reply) calls rest → Reaches (.call c next) (⟨c, reply⟩ :: calls) rest

theorem Reaches.snoc {program : Program C R α} {calls : List ((c : C) × R c)} {c : C} {next : R c → Program C R α}
    (reached : Reaches program calls (.call c next)) (reply : R c) :
    Reaches program (calls ++ [⟨c, reply⟩]) (next reply) := by
  generalize ended : Program.call c next = rest at reached
  induction reached with
  | here =>
    subst ended
    exact .call .here
  | call _ ih => exact .call (ih ended)

theorem reaches_ret {result : α} {calls : List ((c : C) × R c)} {rest : Program C R α} :
    Reaches (.ret result) calls rest ↔ calls = [] ∧ rest = .ret result := by
  constructor
  · intro reached
    cases reached with
    | here => exact ⟨rfl, rfl⟩
  · rintro ⟨rfl, rfl⟩
    exact .here

theorem ret_reaches_no_call {result : α} {calls : List ((c : C) × R c)} {c : C} {next : R c → Program C R α} :
    ¬ Reaches (.ret result) calls (.call c next) := by
  intro reached
  cases reached

theorem reaches_call {c : C} {next : R c → Program C R α} {calls : List ((c : C) × R c)} {rest : Program C R α} :
    Reaches (.call c next) calls rest ↔ (calls = [] ∧ rest = .call c next) ∨
      ∃ reply later, calls = ⟨c, reply⟩ :: later ∧ Reaches (next reply) later rest := by
  constructor
  · intro reached
    cases reached with
    | here => exact .inl ⟨rfl, rfl⟩
    | call later => exact .inr ⟨_, _, rfl, later⟩
  · rintro (⟨rfl, rfl⟩ | ⟨reply, later, rfl, reached⟩)
    · exact .here
    · exact .call reached

/-- A program of one call has ended by making it, or stands before it. -/
theorem reaches_single {c : C} {f : R c → α} {calls : List ((c : C) × R c)} {result : α}
    (reached : Reaches (.call c fun reply => .ret (f reply)) calls (.ret result)) :
    ∃ reply, calls = [⟨c, reply⟩] ∧ result = f reply := by
  rcases reaches_call.mp reached with ⟨_, ended⟩ | ⟨reply, later, rfl, ended⟩
  · cases ended
  · obtain ⟨rfl, same⟩ := reaches_ret.mp ended
    exact ⟨reply, rfl, Program.ret.inj same⟩

theorem reaches_single_call {c c' : C} {f : R c → α} {calls : List ((c : C) × R c)} {next : R c' → Program C R α}
    (reached : Reaches (.call c fun reply => .ret (f reply)) calls (.call c' next)) : calls = [] ∧ c' = c := by
  rcases reaches_call.mp reached with ⟨rfl, same⟩ | ⟨reply, later, rfl, ended⟩
  · exact ⟨rfl, (Program.call.inj same).1⟩
  · exact absurd ended ret_reaches_no_call

theorem Reaches.trans {program middle rest : Program C R α} {first second : List ((c : C) × R c)}
    (before : Reaches program first middle) (after : Reaches middle second rest) :
    Reaches program (first ++ second) rest := by
  induction before with
  | here => exact after
  | call _ ih => exact .call (ih after)

theorem Reaches.bind {program : Program C R α} {next : α → Program C R β} {first second : List ((c : C) × R c)}
    {value : α} {rest : Program C R β} (before : Reaches program first (.ret value))
    (after : Reaches (next value) second rest) : Reaches (program.bind next) (first ++ second) rest := by
  generalize ended : Program.ret value = last at before
  induction before with
  | here =>
    subst ended
    exact after
  | call _ ih => exact .call (ih ended)

/-- What a sequence comes to, it comes to in its first part, or after the whole of it. -/
theorem reaches_bind {program : Program C R α} {next : α → Program C R β} {calls : List ((c : C) × R c)}
    {rest : Program C R β} (reached : Reaches (program.bind next) calls rest) :
    (∃ unfinished, Reaches program calls unfinished ∧ rest = unfinished.bind next) ∨
      ∃ first second result, calls = first ++ second ∧ Reaches program first (.ret result) ∧
        Reaches (next result) second rest := by
  induction program generalizing calls with
  | ret result => exact .inr ⟨[], calls, result, rfl, .here, reached⟩
  | call c next' ih =>
    rcases reaches_call.mp reached with ⟨rfl, rfl⟩ | ⟨reply, later, rfl, continued⟩
    · exact .inl ⟨_, .here, rfl⟩
    · rcases ih reply continued with ⟨unfinished, before, rfl⟩ | ⟨first, second, result, rfl, whole, after⟩
      · exact .inl ⟨unfinished, .call before, rfl⟩
      · exact .inr ⟨⟨c, reply⟩ :: first, second, result, rfl, .call whole, after⟩

/-- A sequence ends by ending both of its parts. -/
theorem reaches_bind_ret {program : Program C R α} {next : α → Program C R β} {calls : List ((c : C) × R c)}
    {result : β} (reached : Reaches (program.bind next) calls (.ret result)) :
    ∃ first second value, calls = first ++ second ∧ Reaches program first (.ret value) ∧
      Reaches (next value) second (.ret result) := by
  rcases reaches_bind reached with ⟨unfinished, before, ended⟩ | whole
  · cases unfinished with
    | ret value => exact ⟨calls, [], value, (List.append_nil _).symm, before, by rw [ended]; exact .here⟩
    | call c next' => cases ended
  · exact whole

/-- A sequence comes to a call of its first part, or ends that and comes to one of its second. -/
theorem reaches_bind_call {program : Program C R α} {next : α → Program C R β} {calls : List ((c : C) × R c)} {c : C}
    {last : R c → Program C R β} (reached : Reaches (program.bind next) calls (.call c last)) :
    (∃ last', Reaches program calls (.call c last')) ∨
      ∃ first second value, calls = first ++ second ∧ Reaches program first (.ret value) ∧
        Reaches (next value) second (.call c last) := by
  rcases reaches_bind reached with ⟨unfinished, before, ended⟩ | whole
  · cases unfinished with
    | ret value => exact .inr ⟨calls, [], value, (List.append_nil _).symm, before, by rw [ended]; exact .here⟩
    | call c' next' =>
      cases ended
      exact .inl ⟨next', before⟩
  · exact .inr whole

theorem reaches_andThen_ret {program : Program C R (Except ε α)} {next : α → Program C R (Except ε β)}
    {calls : List ((c : C) × R c)} {result : Except ε β}
    (reached : Reaches (program.andThen next) calls (.ret result)) :
    (∃ error, Reaches program calls (.ret (.error error)) ∧ result = .error error) ∨
      ∃ first second value, calls = first ++ second ∧ Reaches program first (.ret (.ok value)) ∧
        Reaches (next value) second (.ret result) := by
  obtain ⟨first, second, outcome, rfl, before, after⟩ := reaches_bind_ret reached
  cases outcome with
  | error error =>
    obtain ⟨rfl, same⟩ := reaches_ret.mp after
    cases same
    exact .inl ⟨error, by simpa using before, rfl⟩
  | ok value => exact .inr ⟨first, second, value, rfl, before, after⟩

theorem reaches_andThen_call {program : Program C R (Except ε α)} {next : α → Program C R (Except ε β)}
    {calls : List ((c : C) × R c)} {c : C} {last : R c → Program C R (Except ε β)}
    (reached : Reaches (program.andThen next) calls (.call c last)) :
    (∃ last', Reaches program calls (.call c last')) ∨
      ∃ first second value, calls = first ++ second ∧ Reaches program first (.ret (.ok value)) ∧
        Reaches (next value) second (.call c last) := by
  rcases reaches_bind_call reached with before | ⟨first, second, outcome, rfl, before, after⟩
  · exact .inl before
  · cases outcome with
    | error error =>
      obtain ⟨_, ended⟩ := reaches_ret.mp after
      cases ended
    | ok value => exact .inr ⟨first, second, value, rfl, before, after⟩

theorem reaches_tries_ret {program : Program C R (Except ε α)} {next : α → Program C R (Outcome (Except ε β))}
    {calls : List ((c : C) × R c)} {ended : Outcome (Except ε β)}
    (reached : Reaches (program.tries next) calls (.ret ended)) :
    (∃ error, Reaches program calls (.ret (.error error)) ∧ ended = .returned (.error error)) ∨
      ∃ first second value, calls = first ++ second ∧ Reaches program first (.ret (.ok value)) ∧
        Reaches (next value) second (.ret ended) := by
  obtain ⟨first, second, outcome, rfl, before, after⟩ := reaches_bind_ret reached
  cases outcome with
  | error error =>
    obtain ⟨rfl, same⟩ := reaches_ret.mp after
    cases same
    exact .inl ⟨error, by simpa using before, rfl⟩
  | ok value => exact .inr ⟨first, second, value, rfl, before, after⟩

theorem reaches_tries_call {program : Program C R (Except ε α)} {next : α → Program C R (Outcome (Except ε β))}
    {calls : List ((c : C) × R c)} {c : C} {last : R c → Program C R (Outcome (Except ε β))}
    (reached : Reaches (program.tries next) calls (.call c last)) :
    (∃ last', Reaches program calls (.call c last')) ∨
      ∃ first second value, calls = first ++ second ∧ Reaches program first (.ret (.ok value)) ∧
        Reaches (next value) second (.call c last) := by
  rcases reaches_bind_call reached with before | ⟨first, second, outcome, rfl, before, after⟩
  · exact .inl before
  · cases outcome with
    | error error =>
      obtain ⟨_, ended⟩ := reaches_ret.mp after
      cases ended
    | ok value => exact .inr ⟨first, second, value, rfl, before, after⟩

theorem reaches_returns {program : Program C R α} {calls : List ((c : C) × R c)} {ended : Outcome α}
    (reached : Reaches program.returns calls (.ret ended)) :
    ∃ value, ended = .returned value ∧ Reaches program calls (.ret value) := by
  obtain ⟨first, second, value, rfl, before, after⟩ := reaches_bind_ret reached
  obtain ⟨rfl, same⟩ := reaches_ret.mp after
  exact ⟨value, Program.ret.inj same, by simpa using before⟩

/-- Whatever call was made, the program had come to it. -/
theorem Reaches.member {program rest : Program C R α} {calls : List ((c : C) × R c)} {c : C} {reply : R c}
    (reached : Reaches program calls rest) (made : ⟨c, reply⟩ ∈ calls) :
    ∃ before next after, calls = before ++ ⟨c, reply⟩ :: after ∧ Reaches program before (.call c next) := by
  induction reached with
  | here => cases made
  | call later ih =>
    rcases List.mem_cons.mp made with same | within
    · cases same
      exact ⟨[], _, _, rfl, .here⟩
    · obtain ⟨before, next, after, parts, prior⟩ := ih within
      exact ⟨_ :: before, next, after, by rw [parts]; rfl, .call prior⟩

/-- Every call that the program can come to is of the kind `P`. -/
def Only (P : C → Prop) : Program C R α → Prop
  | .ret _ => True
  | .call c next => P c ∧ ∀ reply, Only P (next reply)

variable {P : C → Prop}

@[simp] theorem only_ret (result : α) : Only P (.ret result : Program C R α) := trivial

theorem only_bind {program : Program C R α} {next : α → Program C R β} (first : Only P program)
    (rest : ∀ result, Only P (next result)) : Only P (program.bind next) := by
  induction program with
  | ret result => exact rest result
  | call c next' ih => exact ⟨first.1, fun reply => ih reply (first.2 reply)⟩

theorem only_andThen {program : Program C R (Except ε α)} {next : α → Program C R (Except ε β)}
    (first : Only P program) (rest : ∀ value, Only P (next value)) : Only P (program.andThen next) := by
  refine only_bind first ?_
  rintro (error | value)
  · exact only_ret _
  · exact rest value

theorem only_tries {program : Program C R (Except ε α)} {next : α → Program C R (Outcome (Except ε β))}
    (first : Only P program) (rest : ∀ value, Only P (next value)) : Only P (program.tries next) := by
  refine only_bind first ?_
  rintro (error | value)
  · exact only_ret _
  · exact rest value

theorem only_returns {program : Program C R α} (only : Only P program) : Only P program.returns :=
  only_bind only fun _ => only_ret _

theorem only_mono {P' : C → Prop} (weaker : ∀ c, P c → P' c) {program : Program C R α} (only : Only P program) :
    Only P' program := by
  induction program with
  | ret result => trivial
  | call c next ih => exact ⟨weaker c only.1, fun reply => ih reply (only.2 reply)⟩

theorem only_reaches {program rest : Program C R α} {calls : List ((c : C) × R c)}
    (reached : Reaches program calls rest) (only : Only P program) : (∀ call ∈ calls, P call.1) ∧ Only P rest := by
  induction reached with
  | here => exact ⟨by simp, only⟩
  | call _ ih =>
    obtain ⟨calls, rest⟩ := ih (only.2 _)
    exact ⟨List.forall_mem_cons.mpr ⟨only.1, calls⟩, rest⟩

/-- A program comes to no call of another kind. -/
theorem only_call {program : Program C R α} {calls : List ((c : C) × R c)} {c : C} {next : R c → Program C R α}
    (only : Only P program) (reached : Reaches program calls (.call c next)) : P c := (only_reaches reached only).2.1

/-- The calls, performed one after the other, lead from one world to the other. -/
inductive Carries {W : Type u'} (perform : W → (c : C) → R c → W → Prop) : W → List ((c : C) × R c) → W → Prop
  | stay {world : W} : Carries perform world [] world
  | call {world world' world'' : W} {c : C} {reply : R c} {calls : List ((c : C) × R c)}
      (performed : perform world c reply world') (later : Carries perform world' calls world'') :
      Carries perform world (⟨c, reply⟩ :: calls) world''

/-- A program that a partner answers by these replies ends as it does against the partner. -/
theorem eval_reaches {D : Type u'} {respond : (c : C) → D → R c × D} {program : Program C R α}
    {calls : List ((c : C) × R c)} {result : α} {d d' : D} (reached : Reaches program calls (.ret result))
    (answered : Carries (fun d c reply d' => respond c d = (reply, d')) d calls d') :
    program.eval respond d = (result, d') := by
  induction answered generalizing program with
  | stay =>
    cases reached
    rfl
  | call performed _ ih =>
    cases reached with
    | call continued => rw [eval_call, performed, ih continued]

/-- What the performed calls keep holds at the end. -/
theorem Carries.invariant {W : Type u'} {perform : W → (c : C) → R c → W → Prop} {Inv : W → Prop}
    {calls : List ((c : C) × R c)} {world world' : W} (carried : Carries perform world calls world')
    (only : ∀ call ∈ calls, P call.1)
    (keeps : ∀ world c reply world', P c → perform world c reply world' → Inv world → Inv world') (start : Inv world) :
    Inv world' := by
  induction carried with
  | stay => exact start
  | call performed _ ih =>
    rw [List.forall_mem_cons] at only
    exact ih only.2 (keeps _ _ _ _ only.1 performed start)

end

/-! ### Systems -/

structure System (W : Type u) (ι : Type v) (C : Type u) (R : C → Type v) (α : Type w) where
  world : W
  /-- What is left of each program; `none` where it has not arrived. -/
  programs : ι → Option (Program C R α)

inductive Label (ι : Type v) (C : Type u) (R : C → Type v)
  | arrival (i : ι)
  | call (i : ι) (c : C) (reply : R c)
  | outside

section
variable {W C : Type u} {ι : Type v} {R : C → Type v} {α : Type w} [DecidableEq ι]

/-- One step: a program arrives, or one of the programs makes its next call, or
    the outside changes the world. -/
inductive Step (program : ι → Program C R α) (perform : ι → W → (c : C) → R c → W → Prop)
    (outside : System W ι C R α → W → Prop) : System W ι C R α → Label ι C R → System W ι C R α → Prop
  | arrival {s : System W ι C R α} {i : ι} (absent : s.programs i = none) :
      Step program perform outside s (.arrival i) { s with programs := Function.update s.programs i (some (program i)) }
  | call {s : System W ι C R α} {i : ι} {c : C} {next : R c → Program C R α} {reply : R c} {world : W}
      (running : s.programs i = some (.call c next)) (performed : perform i s.world c reply world) :
      Step program perform outside s (.call i c reply)
        ⟨world, Function.update s.programs i (some (next reply))⟩
  | outside {s : System W ι C R α} {world : W} (changed : outside s world) :
      Step program perform outside s .outside { s with world := world }

/-- The empty system. -/
def System.initial (world : W) : System W ι C R α := ⟨world, fun _ => none⟩

theorem Step.mono {program : ι → Program C R α} {perform perform' : ι → W → (c : C) → R c → W → Prop}
    {outside outside' : System W ι C R α → W → Prop} {s s' : System W ι C R α} {l : Label ι C R}
    (step : Step program perform outside s l s')
    (calls : ∀ i world c reply world', perform i world c reply world' → perform' i world c reply world')
    (others : ∀ s world, outside s world → outside' s world) : Step program perform' outside' s l s' := by
  cases step with
  | arrival absent => exact .arrival absent
  | call running performed => exact .call running (calls _ _ _ _ _ performed)
  | outside changed => exact .outside (others _ _ changed)

variable {G : Type w}

/-- What one label adds to the progress of a program. -/
def Label.advance (d : Discipline C R G) (i : ι) (g : G) : Label ι C R → G
  | .arrival _ => g
  | .call j c reply => if j = i then d.after g c reply else g
  | .outside => g

/-- The progress of a program after the steps of a run. -/
def progress (d : ι → Discipline C R G) (start : G) (labels : List (Label ι C R)) (i : ι) : G :=
  labels.foldl (Label.advance (d i) i) start

theorem progress_snoc (d : ι → Discipline C R G) (start : G) (labels : List (Label ι C R)) (l : Label ι C R) (i : ι) :
    progress d start (labels ++ [l]) i = l.advance (d i) i (progress d start labels i) := by
  simp [progress, List.foldl_append]

/-- The calls of a program in a run, with their replies. -/
def callsOf (i : ι) (labels : List (Label ι C R)) : List ((c : C) × R c) :=
  labels.filterMap (fun l => match l with
    | .call j c reply => if j = i then some ⟨c, reply⟩ else none
    | _ => none)

theorem callsOf_append (i : ι) (first second : List (Label ι C R)) :
    callsOf i (first ++ second) = callsOf i first ++ callsOf i second := List.filterMap_append

/-- A call of the program, with its calls before and after. -/
theorem callsOf_split {i : ι} {labels : List (Label ι C R)} {first second : List ((c : C) × R c)} {c : C} {reply : R c}
    (same : callsOf i labels = first ++ ⟨c, reply⟩ :: second) : ∃ before after, labels = before ++ .call i c reply :: after ∧
      callsOf i before = first ∧ callsOf i after = second := by
  obtain ⟨before, rest, rfl, own, others⟩ := List.filterMap_eq_append_iff.mp same
  obtain ⟨between, l, after, rfl, silent, hit, last⟩ := List.filterMap_eq_cons_iff.mp others
  have called : l = .call i c reply := by
    cases l with
    | arrival j => cases hit
    | outside => cases hit
    | call j c' reply' =>
      by_cases owner : j = i
      · subst owner
        simp only [if_true, Option.some.injEq, Sigma.mk.injEq] at hit
        obtain ⟨rfl, equal⟩ := hit
        cases eq_of_heq equal
        rfl
      · simp only [owner, if_false] at hit
        cases hit
  subst called
  refine ⟨before ++ between, after, by simp, ?_, last⟩
  have none : callsOf i between = [] := List.filterMap_eq_nil_iff.mpr silent
  rw [callsOf_append, none, List.append_nil]
  exact own

theorem mem_callsOf {i : ι} {labels : List (Label ι C R)} {c : C} {reply : R c} :
    (⟨c, reply⟩ : (c : C) × R c) ∈ callsOf i labels ↔ .call i c reply ∈ labels := by
  simp only [callsOf, List.mem_filterMap]
  constructor
  · rintro ⟨l, member, hit⟩
    cases l with
    | arrival j => cases hit
    | outside => cases hit
    | call j c' reply' =>
      by_cases same : j = i
      · simp only [same, if_true, Option.some.injEq, Sigma.mk.injEq] at hit
        obtain ⟨rfl, rfl⟩ := hit
        exact same ▸ member
      · simp [same] at hit
  · intro member
    exact ⟨_, member, by simp⟩

variable {program : ι → Program C R α} {perform : ι → W → (c : C) → R c → W → Prop}
  {outside : System W ι C R α → W → Prop} {d : ι → Discipline C R G} {final : ι → G → α → Prop} {g : G}

/-- Where each program obeys its discipline alone, what is left of each obeys
    it from its progress on, whatever the interleaving. -/
theorem run_obeys (obeys : ∀ i, Obeys (d i) (final i) g (program i)) {world : W} {s : System W ι C R α}
    {labels : List (Label ι C R)} (run : Run (Step program perform outside) (.initial world) labels s) (i : ι) :
    (s.programs i = none → progress d g labels i = g) ∧
      ∀ rest, s.programs i = some rest → Obeys (d i) (final i) (progress d g labels i) rest := by
  induction run with
  | stay => exact ⟨fun _ => rfl, by rintro rest ⟨⟩⟩
  | next _ taken ih =>
    cases taken with
    | @arrival j absent =>
      rw [progress_snoc]
      simp only [Label.advance]
      by_cases same : i = j
      · subst same
        rw [ih.1 absent]
        refine ⟨by simp, ?_⟩
        simp only [Function.update_self, Option.some.injEq]
        rintro rest rfl
        exact obeys i
      · simpa only [Function.update_of_ne same] using ih
    | @call j c next reply world running performed =>
      rw [progress_snoc]
      simp only [Label.advance]
      by_cases same : i = j
      · subst same
        refine ⟨by simp, ?_⟩
        simp only [Function.update_self, Option.some.injEq, if_true]
        rintro rest rfl
        exact (ih.2 _ running).2 reply
      · simpa only [Function.update_of_ne same, if_neg (Ne.symm same)] using ih
    | outside changed =>
      rw [progress_snoc]
      exact ih

/-- What is left of each program is what its own calls have brought it to. -/
theorem run_reaches {world : W} {s : System W ι C R α} {labels : List (Label ι C R)}
    (run : Run (Step program perform outside) (.initial world) labels s) (i : ι) :
    (s.programs i = none → callsOf i labels = []) ∧
      ∀ rest, s.programs i = some rest → Reaches (program i) (callsOf i labels) rest := by
  induction run with
  | stay => exact ⟨fun _ => rfl, by rintro rest ⟨⟩⟩
  | @next labels m s' l before taken ih =>
    cases taken with
    | @arrival j absent =>
      have same : callsOf i (labels ++ [.arrival j]) = callsOf i labels := by simp [callsOf]
      rw [same]
      by_cases own : i = j
      · subst own
        refine ⟨by simp, ?_⟩
        simp only [Function.update_self, Option.some.injEq]
        rintro rest rfl
        rw [ih.1 absent]
        exact .here
      · simpa only [Function.update_of_ne own] using ih
    | @call j c next reply world running performed =>
      by_cases own : i = j
      · subst own
        refine ⟨by simp, ?_⟩
        simp only [Function.update_self, Option.some.injEq]
        rintro rest rfl
        have longer : callsOf i (labels ++ [.call i c reply]) = callsOf i labels ++ [⟨c, reply⟩] := by simp [callsOf]
        rw [longer]
        exact (ih.2 _ running).snoc reply
      · have same : callsOf i (labels ++ [.call j c reply]) = callsOf i labels := by simp [callsOf, Ne.symm own]
        rw [same]
        simpa only [Function.update_of_ne own] using ih
    | outside changed =>
      have same : callsOf i (labels ++ [.outside]) = callsOf i labels := by simp [callsOf]
      rw [same]
      exact ih

/-- A property of the steps so far, the progress of all programs and the world
    holds along every run, where each allowed call of one of them keeps it and
    the outside does. -/
theorem run_invariant (obeys : ∀ i, Obeys (d i) (final i) g (program i))
    {Inv : List (Label ι C R) → (ι → G) → W → Prop}
    (arrivals : ∀ i labels P world, Inv labels P world → Inv (labels ++ [.arrival i]) P world)
    (calls : ∀ i labels P world c reply world', Inv labels P world → (d i).allowed (P i) c →
      perform i world c reply world' →
      Inv (labels ++ [.call i c reply]) (Function.update P i ((d i).after (P i) c reply)) world')
    (others : ∀ (s : System W ι C R α) labels P world', (∀ i, s.programs i = none → P i = g) → Inv labels P s.world →
      outside s world' → Inv (labels ++ [.outside]) P world')
    {world : W} (start : Inv [] (fun _ => g) world) {s : System W ι C R α} {labels : List (Label ι C R)}
    (run : Run (Step program perform outside) (.initial world) labels s) : Inv labels (progress d g labels) s.world := by
  induction run with
  | stay => exact start
  | @next labels m s' l before taken ih =>
    cases taken with
    | @arrival j absent =>
      have same : progress d g (labels ++ [.arrival j]) = progress d g labels := by
        funext i
        rw [progress_snoc]
        rfl
      rw [same]
      exact arrivals j labels _ _ ih
    | @call j c next reply world running performed =>
      have moved : progress d g (labels ++ [.call j c reply]) =
          Function.update (progress d g labels) j ((d j).after (progress d g labels j) c reply) := by
        funext i
        rw [progress_snoc]
        by_cases same : i = j
        · subst same
          simp [Label.advance]
        · simp [Label.advance, Function.update_of_ne same, Ne.symm same]
      rw [moved]
      exact calls j labels _ _ c reply _ ih ((run_obeys obeys before j).2 _ running).1 performed
    | outside changed =>
      have same : progress d g (labels ++ [.outside]) = progress d g labels := by
        funext i
        rw [progress_snoc]
        rfl
      rw [same]
      exact others m labels _ _ (fun i absent => (run_obeys obeys before i).1 absent) ih changed

/-- A program that one partner answers is a run of the system in which only it
    takes steps, where the partner does what `perform` allows. -/
theorem eval_run {respond : (c : C) → W → R c × W} {i : ι}
    (performs : ∀ c world, perform i world c (respond c world).1 (respond c world).2) (rest : Program C R α)
    {s : System W ι C R α} (running : s.programs i = some rest) :
    Run (Step program perform outside) s ((rest.transcript respond s.world).map fun made => .call i made.1 made.2)
      ⟨(rest.eval respond s.world).2, Function.update s.programs i (some (.ret (rest.eval respond s.world).1))⟩ := by
  induction rest generalizing s with
  | ret result =>
    rw [eval_ret, ← running, Function.update_eq_self]
    exact .stay
  | call c next ih =>
    have run := ih (respond c s.world).1
      (s := ⟨(respond c s.world).2, Function.update s.programs i (some (next (respond c s.world).1))⟩)
      (Function.update_self ..)
    rw [Function.update_idem] at run
    exact (Run.single (.call running (performs c s.world))).trans run

/-- The same for a program that arrives in the empty system. -/
theorem alone_run {respond : (c : C) → W → R c × W} {i : ι} {world world' : W} {result : α}
    (performs : ∀ c world, perform i world c (respond c world).1 (respond c world).2)
    (served : (program i).eval respond world = (result, world')) :
    Run (Step program perform outside) (.initial world)
      (.arrival i :: ((program i).transcript respond world).map fun made => .call i made.1 made.2)
      ⟨world', Function.update (fun _ => none) i (some (.ret result))⟩ := by
  have arrived : Step program perform outside (.initial world) (.arrival i)
      ⟨world, Function.update (fun _ => none) i (some (program i))⟩ := .arrival rfl
  have ran : Run (Step program perform outside) ⟨world, Function.update (fun _ => none) i (some (program i))⟩
      (((program i).transcript respond world).map fun made => .call i made.1 made.2)
      ⟨((program i).eval respond world).2, Function.update (Function.update (fun _ => none) i (some (program i))) i
        (some (.ret ((program i).eval respond world).1))⟩ :=
    eval_run performs (program i) (by simp)
  rw [Function.update_idem, served] at ran
  exact (Run.single arrived).trans ran

end
end InviteSystem.Programs
