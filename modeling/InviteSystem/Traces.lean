import InviteSystem.Programs

/-!
More rules for systems of programs: programs whose calls are some of the calls
of a wider system (`along`), invariants that look at the calls which a program
has made before the present one (`run_traces`), and programs that a partner
answers while the outside goes on between their calls (`answered_run`).
-/
namespace InviteSystem.Traces
open InviteSystem.Runs InviteSystem.Programs
universe u v w u'

section
variable {C C' : Type u} {R : C' → Type v} {α β : Type w}

/-- The program in a system with more calls, and its result among more results. -/
def along (f : C → C') (g : α → β) : Program C (fun c => R (f c)) α → Program C' R β
  | .ret result => .ret (g result)
  | .call c next => .call (f c) (fun reply => along f g (next reply))

def callAlong (f : C → C') (made : (c : C) × R (f c)) : (c : C') × R c := ⟨f made.1, made.2⟩

theorem reaches_along {f : C → C'} {g : α → β} {program : Program C (fun c => R (f c)) α}
    {calls : List ((c : C') × R c)} {rest : Program C' R β} (reached : Reaches (along f g program) calls rest) :
    ∃ own unfinished, calls = own.map (callAlong f) ∧ rest = along f g unfinished ∧
      Reaches program own unfinished := by
  induction program generalizing calls with
  | ret result =>
    obtain ⟨rfl, rfl⟩ := reaches_ret.mp reached
    exact ⟨[], .ret result, rfl, rfl, .here⟩
  | call c next ih =>
    rcases reaches_call.mp reached with ⟨rfl, rfl⟩ | ⟨reply, later, rfl, continued⟩
    · exact ⟨[], .call c next, rfl, rfl, .here⟩
    · obtain ⟨own, unfinished, rfl, ended, within⟩ := ih reply continued
      exact ⟨⟨c, reply⟩ :: own, unfinished, rfl, ended, .call within⟩

/-- A call that the program comes to in the wider system is one of its own. -/
theorem reaches_along_call {f : C → C'} {g : α → β} {program : Program C (fun c => R (f c)) α}
    {calls : List ((c : C') × R c)} {c : C'} {next : R c → Program C' R β}
    (reached : Reaches (along f g program) calls (.call c next)) :
    ∃ own c₀ next₀, calls = own.map (callAlong f) ∧ c = f c₀ ∧ Reaches program own (.call c₀ next₀) := by
  obtain ⟨own, unfinished, same, ended, within⟩ := reaches_along reached
  cases unfinished with
  | ret result => cases ended
  | call c₀ next₀ => exact ⟨own, c₀, next₀, same, (Program.call.inj ended).1, within⟩

end

/-- Calls that are always allowed and change nothing keep every discipline. -/
theorem obeys_only {C : Type u} {R : C → Type v} {α G : Type w} {d : Discipline C R G} {P : C → Prop} {g : G}
    (idle : ∀ c, P c → d.allowed g c ∧ ∀ reply, d.after g c reply = g) {program : Program C R α}
    (only : Only P program) : Obeys d (fun g' _ => g' = g) g program := by
  induction program with
  | ret result => rfl
  | call c next ih =>
    obtain ⟨allowed, same⟩ := idle c only.1
    refine ⟨allowed, fun reply => ?_⟩
    rw [same]
    exact ih reply (only.2 reply)

theorem only_true {C : Type u} {R : C → Type v} {α : Type w} (program : Program C R α) :
    Only (fun _ => True) program := by
  induction program with
  | ret result => trivial
  | call c next ih => exact ⟨trivial, ih⟩

/-! ### Runs -/

section
variable {W C : Type u} {ι : Type v} {R : C → Type v} {α : Type w} [DecidableEq ι]
  {program : ι → Program C R α} {perform : ι → W → (c : C) → R c → W → Prop}
  {outside : System W ι C R α → W → Prop}

/-- A property of the steps so far and the world holds along every run, where
    each call keeps it that its program can come to by the calls it has made. -/
theorem run_traces (Inv : List (Label ι C R) → W → Prop) {world : W}
    (arrivals : ∀ i labels world, Inv labels world → Inv (labels ++ [.arrival i]) world)
    (calls : ∀ i labels world c next reply world', Inv labels world →
      Reaches (program i) (callsOf i labels) (.call c next) → perform i world c reply world' →
      Inv (labels ++ [.call i c reply]) world')
    (others : ∀ (s : System W ι C R α) labels world', Inv labels s.world → outside s world' →
      Inv (labels ++ [.outside]) world')
    (start : Inv [] world) {s : System W ι C R α} {labels : List (Label ι C R)}
    (run : Run (Step program perform outside) (.initial world) labels s) : Inv labels s.world := by
  induction run with
  | stay => exact start
  | @next labels m s' l before taken ih =>
    cases taken with
    | arrival absent => exact arrivals _ labels _ ih
    | @call j c next reply world running performed =>
      exact calls j labels _ c next reply _ ih ((run_reaches before j).2 _ running) performed
    | outside changed => exact others m labels _ ih changed

/-- Each step of the history is justified by the steps before it. -/
def Justified {L : Type u} (P : List L → L → Prop) (labels : List L) : Prop :=
  ∀ before l after, labels = before ++ l :: after → P before l

section
variable {L : Type u} {P : List L → L → Prop} {labels : List L}

theorem justified_nil : Justified P ([] : List L) := by
  intro before l after shape
  simp at shape

theorem justified_snoc {l : L} (past : Justified P labels) (last : P labels l) : Justified P (labels ++ [l]) := by
  intro before l' after shape
  cases after using List.reverseRecOn with
  | nil =>
    obtain ⟨rfl, same⟩ := List.append_inj' shape rfl
    cases same
    exact last
  | append_singleton after last' =>
    rw [← List.cons_append, ← List.append_assoc] at shape
    exact past before l' after (List.append_inj' shape rfl).1

theorem Justified.before {before after : List L} (justified : Justified P (before ++ after)) : Justified P before := by
  intro first l rest shape
  exact justified first l (rest ++ after) (by simp [shape])

/-- A step of the history, with what came before it. -/
theorem Justified.mem {l : L} (justified : Justified P labels) (member : l ∈ labels) :
    ∃ before after, labels = before ++ l :: after ∧ Justified P before ∧ P before l := by
  obtain ⟨before, after, rfl⟩ := List.mem_iff_append.mp member
  exact ⟨before, after, rfl, justified.before, justified before l after rfl⟩

end

/-- The history rule: each call that a program can come to keeps the invariant
    and is justified; then every call of a run is. -/
theorem run_justified (Inv : List (Label ι C R) → W → Prop) (P : List (Label ι C R) → (i : ι) → (c : C) → R c → Prop)
    {world : W} (arrivals : ∀ i labels world, Inv labels world → Inv (labels ++ [.arrival i]) world)
    (calls : ∀ i labels world c next reply world', Inv labels world →
      Reaches (program i) (callsOf i labels) (.call c next) → perform i world c reply world' →
      Inv (labels ++ [.call i c reply]) world' ∧ P labels i c reply)
    (others : ∀ (s : System W ι C R α) labels world', Inv labels s.world → outside s world' →
      Inv (labels ++ [.outside]) world')
    (start : Inv [] world) {s : System W ι C R α} {labels : List (Label ι C R)}
    (run : Run (Step program perform outside) (.initial world) labels s) :
    Inv labels s.world ∧ Justified (fun before l => ∀ i c reply, l = .call i c reply → P before i c reply) labels := by
  have kept : ∀ {l : Label ι C R} {labels}, (∀ i c reply, l = .call i c reply → P labels i c reply) →
      Justified (fun before l => ∀ i c reply, l = .call i c reply → P before i c reply) labels →
      Justified (fun before l => ∀ i c reply, l = .call i c reply → P before i c reply) (labels ++ [l]) :=
    fun last past => justified_snoc past last
  refine run_traces (fun labels world => Inv labels world ∧
    Justified (fun before l => ∀ i c reply, l = .call i c reply → P before i c reply) labels) ?_ ?_ ?_ ⟨start, justified_nil⟩ run
  · rintro i labels world ⟨inv, past⟩
    exact ⟨arrivals i labels world inv, kept (by rintro j c reply ⟨⟩) past⟩
  · rintro i labels world c next reply world' ⟨inv, past⟩ reached performed
    obtain ⟨inv', justified⟩ := calls i labels world c next reply world' inv reached performed
    refine ⟨inv', kept ?_ past⟩
    rintro j c' reply' same
    cases same
    exact justified
  · rintro s labels world' ⟨inv, past⟩ changed
    exact ⟨others s labels world' inv changed, kept (by rintro j c reply ⟨⟩) past⟩

/-- Every call of a run is one that its program came to by its calls before. -/
theorem run_came {world : W} {s : System W ι C R α} {labels : List (Label ι C R)}
    (run : Run (Step program perform outside) (.initial world) labels s) :
    Justified (fun before l => ∀ i c reply, l = .call i c reply →
      ∃ next, Reaches (program i) (callsOf i before) (.call c next)) labels :=
  (run_justified (fun _ _ => True) (fun before i c _ => ∃ next, Reaches (program i) (callsOf i before) (.call c next))
    (fun _ _ _ _ => trivial)
    (fun _ _ _ _ next _ _ _ reached _ => ⟨trivial, next, reached⟩) (fun _ _ _ _ _ => trivial) trivial run).2

/-- A program that is there has arrived. -/
theorem run_arrived {world : W} {s : System W ι C R α} {labels : List (Label ι C R)}
    (run : Run (Step program perform outside) (.initial world) labels s) {i : ι} (present : s.programs i ≠ none) :
    .arrival i ∈ labels := by
  induction run with
  | stay => exact absurd rfl present
  | next _ taken ih =>
    cases taken with
    | @arrival j absent =>
      by_cases same : i = j
      · subst same
        exact List.mem_append_right _ (List.mem_singleton_self _)
      · simp only [Function.update_of_ne same] at present
        exact List.mem_append_left _ (ih present)
    | @call j c next reply world running performed =>
      by_cases same : i = j
      · subst same
        exact List.mem_append_left _ (ih (by simp [running]))
      · simp only [Function.update_of_ne same] at present
        exact List.mem_append_left _ (ih present)
    | outside changed => exact List.mem_append_left _ (ih present)

/-- The calls of one program stand in the history in their order. -/
theorem callsOf_sublist (i : ι) (labels : List (Label ι C R)) :
    ((callsOf i labels).map fun made => Label.call i made.1 made.2).Sublist labels := by
  induction labels using List.reverseRecOn with
  | nil => exact .slnil
  | append_singleton labels l ih =>
    cases l with
    | arrival j => simpa [callsOf] using ih.trans (List.sublist_append_left labels [.arrival j])
    | outside => simpa [callsOf] using ih.trans (List.sublist_append_left labels [.outside])
    | call j c reply =>
      by_cases own : j = i
      · subst own
        simpa [callsOf] using ih.append (List.Sublist.refl [Label.call j c reply])
      · simpa [callsOf, own] using ih.trans (List.sublist_append_left labels [.call j c reply])

/-- The step is one of program `i`, or of the outside. -/
def TakenBy (i : ι) : Label ι C R → Prop
  | .arrival j => j = i
  | .call j _ _ => j = i
  | .outside => True

/-- What the partner answers to the calls, one after the other. -/
abbrev AnsweredBy {C₀ : Type u} {R₀ : C₀ → Type v} {D : Type u'} (respond : (c : C₀) → D → R₀ c × D) :
    D → List ((c : C₀) × R₀ c) → D → Prop := Carries fun state c reply state' => respond c state = (reply, state')

/-- A program that a partner answers is a run of the system in which only it
    calls, and is answered so, where the world can follow the partner's answers
    to allowed calls, after a change from the outside if need be. -/
theorem answered_run {C₀ : Type u} {α₀ G : Type w} {D : Type u'} (program : ι → Program C R α)
    (perform : ι → W → (c : C) → R c → W → Prop) (outside : System W ι C R α → W → Prop) (f : C₀ → C) (h : α₀ → α)
    (d : Discipline C₀ (fun c => R (f c)) G) {final : G → α₀ → Prop} (respond : (c : C₀) → D → R (f c) × D) {i : ι}
    (Follows : G → D → W → Prop)
    (answers : ∀ g c state world, Follows g state world → d.allowed g c → ∃ ready world',
      (ready = world ∨ ∀ programs, outside ⟨world, programs⟩ ready) ∧
      perform i ready (f c) (respond c state).1 world' ∧
      Follows (d.after g c (respond c state).1) (respond c state).2 world')
    {g : G} (rest : Program C₀ (fun c => R (f c)) α₀) (obeys : Obeys d final g rest) {s : System W ι C R α} (state : D)
    (running : s.programs i = some (along f h rest)) (follows : Follows g state s.world) :
    ∃ labels g' world, final g' (rest.eval respond state).1 ∧ Follows g' (rest.eval respond state).2 world ∧
      (∀ l ∈ labels, TakenBy i l) ∧
      (∃ own, callsOf i labels = own.map (callAlong f) ∧ AnsweredBy respond state own (rest.eval respond state).2) ∧
      Run (Step program perform outside) s labels
        ⟨world, Function.update s.programs i (some (.ret (h (rest.eval respond state).1)))⟩ := by
  induction rest generalizing g s state with
  | ret result =>
    refine ⟨[], g, s.world, obeys, follows, by simp, ⟨[], rfl, .stay⟩, ?_⟩
    have same : Function.update s.programs i (some (.ret (h result))) = s.programs := by
      rw [show Program.ret (h result) = along f h (.ret result) from rfl, ← running, Function.update_eq_self]
    simpa only [eval_ret, same] using Run.stay
  | call c next ih =>
    obtain ⟨ready, world', waited, performed, follows'⟩ := answers g c state s.world follows obeys.1
    have called : Step program perform outside ⟨ready, s.programs⟩ (.call i (f c) (respond c state).1)
        ⟨world', Function.update s.programs i (some (along f h (next (respond c state).1)))⟩ :=
      .call (s := ⟨ready, s.programs⟩) running performed
    obtain ⟨labels, g', world, ended, followed, own, ⟨made, calls, answered⟩, run⟩ := ih (respond c state).1 (obeys.2 _)
      (s := ⟨world', Function.update s.programs i (some (along f h (next (respond c state).1)))⟩) _
      (Function.update_self ..) follows'
    rw [Function.update_idem] at run
    have later : AnsweredBy respond state (⟨c, (respond c state).1⟩ :: made)
        ((next (respond c state).1).eval respond (respond c state).2).2 := .call rfl answered
    rcases waited with rfl | changed
    · refine ⟨_, g', world, ended, followed, ?_, ⟨_, ?_, later⟩, (Run.single called).trans run⟩
      · simpa [TakenBy] using own
      · rw [List.map_cons, ← calls]
        simp [callsOf, callAlong]
    · have outside : Step program perform outside s .outside ⟨ready, s.programs⟩ := .outside (changed s.programs)
      refine ⟨_, g', world, ended, followed, ?_, ⟨_, ?_, later⟩, ((Run.single outside).next called).trans run⟩
      · simpa [TakenBy] using own
      · rw [List.map_cons, ← calls]
        simp [callsOf, callAlong]

/-- The completion rule: where in every state of a set that the steps keep the
    next call of program `i` can be made, after one step of its own environment
    if need be, the program can be brought to its end from any such state, with
    no step of another program. -/
theorem run_completes (own : System W ι C R α → W → Prop) (Kept : System W ι C R α → Prop) {i : ι}
    (kept : ∀ s l s', Kept s → Step program perform own s l s' → Kept s')
    (available : ∀ s c next, Kept s → s.programs i = some (.call c next) → ∃ ready reply world,
      (ready = s.world ∨ own s ready) ∧ perform i ready c reply world)
    (rest : Program C R α) {s : System W ι C R α} (start : Kept s) (running : s.programs i = some rest) :
    ∃ labels s' result, Run (Step program perform own) s labels s' ∧ s'.programs i = some (.ret result) ∧
      ∀ l ∈ labels, TakenBy i l := by
  induction rest generalizing s with
  | ret result => exact ⟨[], s, result, .stay, running, by simp⟩
  | call c next ih =>
    obtain ⟨ready, reply, world, waited, performed⟩ := available s c next start running
    have called : Step program perform own ⟨ready, s.programs⟩ (.call i c reply)
        ⟨world, Function.update s.programs i (some (next reply))⟩ :=
      .call (s := ⟨ready, s.programs⟩) running performed
    have reached : ∃ before, Run (Step program perform own) s before ⟨world, Function.update s.programs i (some (next reply))⟩ ∧
        ∀ l ∈ before, TakenBy i l := by
      rcases waited with rfl | changed
      · exact ⟨_, .single called, by simp [TakenBy]⟩
      · exact ⟨_, (Run.single (.outside changed)).next called, by simp [TakenBy]⟩
    obtain ⟨before, run, taken⟩ := reached
    obtain ⟨labels, s', result, later, ended, takenLater⟩ :=
      ih reply (run.invariant kept start) (Function.update_self ..)
    exact ⟨before ++ labels, s', result, run.trans later, ended, List.forall_mem_append.mpr ⟨taken, takenLater⟩⟩

end
end InviteSystem.Traces
