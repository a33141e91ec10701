import Mathlib.Data.List.Induction
import Mathlib.Data.List.ReduceOption

/-!
Labelled runs of a transition system, with the two rules the development uses
on them: an invariant of the steps is an invariant of the runs, and a system
whose visible steps another system can follow has only runs the other has.
-/
namespace InviteSystem.Runs
universe u v w

section
variable {S : Type u} {L : Type v}

/-- `Run step s labels s'`: the steps labelled `labels`, in order, lead from `s` to `s'`. -/
inductive Run (step : S → L → S → Prop) (s : S) : List L → S → Prop
  | stay : Run step s [] s
  | next {labels : List L} {m s' : S} {l : L} : Run step s labels m → step m l s' → Run step s (labels ++ [l]) s'

variable {step : S → L → S → Prop}

theorem Run.single {s s' : S} {l : L} (taken : step s l s') : Run step s [l] s' := by
  simpa using Run.stay.next taken

theorem Run.trans {s m s' : S} {first second : List L} (before : Run step s first m)
    (after : Run step m second s') : Run step s (first ++ second) s' := by
  induction after with
  | stay => simpa using before
  | next _ taken ih => simpa using ih.next taken

/-- The last step of a run that took one. -/
theorem Run.snoc_inv {s s' : S} {labels : List L} {l : L} (run : Run step s (labels ++ [l]) s') :
    ∃ m, Run step s labels m ∧ step m l s' := by
  generalize same : labels ++ [l] = all at run
  cases run with
  | stay => simp at same
  | next before taken =>
    obtain ⟨rfl, rfl⟩ := List.append_singleton_inj.mp same
    exact ⟨_, before, taken⟩

/-- A run splits wherever its labels do. -/
theorem Run.split {s s' : S} (first second : List L) (run : Run step s (first ++ second) s') :
    ∃ m, Run step s first m ∧ Run step m second s' := by
  induction second using List.reverseRecOn generalizing s' with
  | nil => exact ⟨s', by simpa using run, .stay⟩
  | append_singleton second l ih =>
    rw [← List.append_assoc] at run
    obtain ⟨m, before, taken⟩ := run.snoc_inv
    obtain ⟨middle, left, right⟩ := ih before
    exact ⟨middle, left, right.next taken⟩

/-- The step of a run at a label. -/
theorem Run.at {s s' : S} {before after : List L} {l : L} (run : Run step s (before ++ l :: after) s') :
    ∃ m m', Run step s before m ∧ step m l m' ∧ Run step m' after s' := by
  have parts : before ++ l :: after = before ++ [l] ++ after := by simp
  rw [parts] at run
  obtain ⟨m', first, second⟩ := run.split
  obtain ⟨m, prior, taken⟩ := first.snoc_inv
  exact ⟨m, m', prior, taken, second⟩

/-- Every label of a run is the label of one of its steps. -/
theorem Run.label {s s' : S} {labels : List L} {l : L} (run : Run step s labels s') (member : l ∈ labels) :
    ∃ before after m m', labels = before ++ l :: after ∧ Run step s before m ∧ step m l m' ∧ Run step m' after s' := by
  obtain ⟨before, after, rfl⟩ := List.mem_iff_append.mp member
  obtain ⟨m, m', prior, taken, second⟩ := run.at
  exact ⟨before, after, m, m', rfl, prior, taken, second⟩

/-- A run that changes something has a step that does. -/
theorem Run.changing {T : Type*} {f : S → T} {s s' : S} {labels : List L} (run : Run step s labels s')
    (changed : f s' ≠ f s) : ∃ before m l m', Run step s before m ∧ step m l m' ∧ f m' ≠ f m := by
  induction run with
  | stay => exact absurd rfl changed
  | @next labels m s' l before taken ih =>
    by_cases same : f m = f s
    · exact ⟨labels, m, l, s', before, taken, by rwa [same]⟩
    · exact ih same

/-- What every step keeps, every run keeps. -/
theorem Run.invariant {Inv : S → Prop} (keeps : ∀ s l s', Inv s → step s l s' → Inv s') {s s' : S}
    {labels : List L} (run : Run step s labels s') (start : Inv s) : Inv s' := by
  induction run with
  | stay => exact start
  | next _ taken ih => exact keeps _ _ _ ih taken

theorem Run.mono {step' : S → L → S → Prop} (weaker : ∀ s l s', step s l s' → step' s l s') {s s' : S}
    {labels : List L} (run : Run step s labels s') : Run step' s labels s' := by
  induction run with
  | stay => exact .stay
  | next _ taken ih => exact ih.next (weaker _ _ _ taken)

/-- Where every step is a step of another system on the images, so is every run. -/
theorem Run.image {S' : Type*} {L' : Type*} {step' : S' → L' → S' → Prop} (f : S → S') (g : L → L')
    (steps : ∀ s l s', step s l s' → step' (f s) (g l) (f s')) {s s' : S} {labels : List L}
    (run : Run step s labels s') : Run step' (f s) (labels.map g) (f s') := by
  induction run with
  | stay => exact .stay
  | next _ taken ih =>
    rw [List.map_append]
    exact ih.next (steps _ _ _ taken)

/-- The steps of a system that lead to a state where `P` holds. -/
def Within (P : S → Prop) (step : S → L → S → Prop) (s : S) (l : L) (s' : S) : Prop := step s l s' ∧ P s'

end

/-- Simulation with silent steps: where every labelled step is a step of the
    abstract system on the images and every silent step keeps the image, the
    visible labels of a run are the labels of an abstract run. -/
theorem Run.simulate {S : Type u} {T : Type v} {L : Type w} {step : S → Option L → S → Prop}
    {abstract : T → L → T → Prop} {s s' : S} {labels : List (Option L)} (run : Run step s labels s')
    (image : S → T) (Inv : S → Prop)
    (keeps : ∀ s l s', Inv s → step s l s' → Inv s')
    (silent : ∀ s s', Inv s → step s none s' → image s' = image s)
    (visible : ∀ s l s', Inv s → step s (some l) s' → abstract (image s) l (image s'))
    (start : Inv s) : Run abstract (image s) labels.reduceOption (image s') := by
  induction run with
  | stay => exact .stay
  | @next labels m s' l before taken ih =>
    have inv := before.invariant keeps start
    cases l with
    | none =>
      rw [silent m s' inv taken]
      simpa [List.reduceOption_append] using ih
    | some l =>
      simpa [List.reduceOption_append] using ih.next (visible m l s' inv taken)

end InviteSystem.Runs
