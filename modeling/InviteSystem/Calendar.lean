import Mathlib

/-!
The proleptic Gregorian calendar on all integer years, and zero-padded decimal
fields. Dates are ordered as their days are, and a field of fixed width is
ordered as its number is, whatever follows it.
-/
namespace InviteSystem.Calendar

/-! ### Years and days -/

/-- The days from the first day of year 0 to the first day of the year. -/
def daysBeforeYear (y : Int) : Int := 365 * y + (y + 3) / 4 - (y + 99) / 100 + (y + 399) / 400

def isLeap (y : Int) : Bool := y % 4 = 0 ∧ (y % 100 ≠ 0 ∨ y % 400 = 0)

/-- The year of a day, found next to the quotient by the mean year of 146097/400 days. -/
def yearOf (day : Int) : Int :=
  let guess := 400 * day / 146097
  if day < daysBeforeYear guess then guess - 1
  else if daysBeforeYear (guess + 1) ≤ day then guess + 1
  else guess

theorem daysBeforeYear_succ (y : Int) :
    daysBeforeYear (y + 1) = daysBeforeYear y + if isLeap y then 366 else 365 := by
  unfold daysBeforeYear
  by_cases leap : isLeap y = true
  · simp only [leap, if_true]
    simp only [isLeap, decide_eq_true_eq] at leap
    omega
  · simp only [leap]
    simp only [isLeap, decide_eq_true_eq] at leap
    simp only [Bool.false_eq_true, if_false]
    omega

theorem daysBeforeYear_mono {y y' : Int} (le : y ≤ y') : daysBeforeYear y ≤ daysBeforeYear y' := by
  unfold daysBeforeYear
  omega

theorem yearOf_spec (day : Int) : daysBeforeYear (yearOf day) ≤ day ∧ day < daysBeforeYear (yearOf day + 1) := by
  unfold yearOf
  dsimp only
  split
  · next before =>
    rw [Int.sub_add_cancel]
    refine ⟨?_, before⟩
    unfold daysBeforeYear
    omega
  · next notBefore =>
    split
    · next after =>
      refine ⟨after, ?_⟩
      unfold daysBeforeYear
      omega
    · next notAfter => exact ⟨not_lt.mp notBefore, not_le.mp notAfter⟩

theorem yearOf_mono {day day' : Int} (le : day ≤ day') : yearOf day ≤ yearOf day' := by
  by_contra lt
  have next := daysBeforeYear_mono (show yearOf day' + 1 ≤ yearOf day by omega)
  have low := (yearOf_spec day).1
  have high := (yearOf_spec day').2
  omega

/-- The day of the year, from 0 on. -/
def dayOfYear (day : Int) : Nat := (day - daysBeforeYear (yearOf day)).toNat

theorem dayOfYear_lt (day : Int) : dayOfYear day < if isLeap (yearOf day) then 366 else 365 := by
  have bounds := yearOf_spec day
  rw [daysBeforeYear_succ] at bounds
  unfold dayOfYear
  split at bounds <;> simp_all <;> omega

theorem dayOfYear_strict {day day' : Int} (lt : day < day') (same : yearOf day = yearOf day') :
    dayOfYear day < dayOfYear day' := by
  have low := (yearOf_spec day).1
  unfold dayOfYear
  rw [same] at low ⊢
  omega

/-! ### Months -/

def monthLengths (leap : Bool) : List Nat := [31, if leap then 29 else 28, 31, 30, 31, 30, 31, 31, 30, 31, 30, 31]

/-- The part that an offset into consecutive parts falls in, and the offset into that part. -/
def split : List Nat → Nat → Nat × Nat
  | [], offset => (0, offset)
  | length :: rest, offset =>
    if offset < length then (0, offset)
    else ((split rest (offset - length)).1 + 1, (split rest (offset - length)).2)

theorem split_strict (lengths : List Nat) {a b : Nat} (lt : a < b) :
    (split lengths a).1 < (split lengths b).1 ∨
      ((split lengths a).1 = (split lengths b).1 ∧ (split lengths a).2 < (split lengths b).2) := by
  induction lengths generalizing a b with
  | nil => exact .inr ⟨rfl, lt⟩
  | cons length rest ih =>
    by_cases inA : a < length
    · by_cases inB : b < length
      · simp [split, inA, inB, lt]
      · simp [split, inA, inB]
    · have notB : ¬ b < length := by omega
      have below := ih (show a - length < b - length by omega)
      simpa [split, inA, notB] using below

theorem split_bounds (lengths : List Nat) {offset : Nat} (within : offset < lengths.sum) (bound : Nat)
    (each : ∀ length ∈ lengths, length ≤ bound) :
    (split lengths offset).1 < lengths.length ∧ (split lengths offset).2 < bound := by
  induction lengths generalizing offset with
  | nil => simp at within
  | cons length rest ih =>
    simp only [List.mem_cons, forall_eq_or_imp] at each
    by_cases here : offset < length
    · simp [split, here]
      omega
    · simp only [List.sum_cons] at within
      have later := ih (show offset - length < rest.sum by omega) each.2
      simp [split, here]
      omega

/-- The month and the day of the month, both from 1 on. -/
def monthOf (day : Int) : Nat := (split (monthLengths (isLeap (yearOf day))) (dayOfYear day)).1 + 1
def dayOf (day : Int) : Nat := (split (monthLengths (isLeap (yearOf day))) (dayOfYear day)).2 + 1

theorem monthOf_dayOf_le (day : Int) : monthOf day ≤ 12 ∧ dayOf day ≤ 31 := by
  have within : dayOfYear day < (monthLengths (isLeap (yearOf day))).sum := by
    have bound := dayOfYear_lt day
    cases leap : isLeap (yearOf day) <;> simp [leap, monthLengths] at bound ⊢ <;> exact bound
  have bounds := split_bounds _ within 31 (by cases isLeap (yearOf day) <;> simp [monthLengths])
  have months : (monthLengths (isLeap (yearOf day))).length = 12 := rfl
  unfold monthOf dayOf
  exact ⟨by omega, by omega⟩

theorem monthOf_dayOf_strict {day day' : Int} (lt : day < day') (same : yearOf day = yearOf day') :
    monthOf day < monthOf day' ∨ (monthOf day = monthOf day' ∧ dayOf day < dayOf day') := by
  unfold monthOf dayOf
  rw [← same]
  have later := split_strict (monthLengths (isLeap (yearOf day))) (dayOfYear_strict lt same)
  omega

/-! ### Decimal fields -/

/-- The digit, for numbers below 10. -/
def digit (n : Nat) : Char := Char.ofNat (48 + n)

/-- The last `width` decimal digits of the number. -/
def pad : Nat → Nat → List Char
  | 0, _ => []
  | width + 1, n => digit (n / 10 ^ width) :: pad width (n % 10 ^ width)

theorem digit_lt : ∀ b < 10, ∀ a < b, digit a < digit b := by decide
theorem digit_ascii : ∀ a < 10, (digit a).toNat < 128 := by decide
theorem zero_le_digit : ∀ a < 10, '0' ≤ digit a := by decide

theorem pad_first {width n : Nat} (fits : n < 10 ^ (width + 1)) : n / 10 ^ width < 10 := by
  apply Nat.div_lt_of_lt_mul
  rwa [← Nat.pow_succ]

theorem pad_ascii {width n : Nat} (fits : n < 10 ^ width) : ∀ c ∈ pad width n, c.toNat < 128 := by
  induction width generalizing n with
  | zero => simp [pad]
  | succ width ih =>
    simp only [pad, List.mem_cons, forall_eq_or_imp]
    exact ⟨digit_ascii _ (pad_first fits), ih (Nat.mod_lt _ (Nat.pow_pos (by omega)))⟩

/-- A field of fixed width is ordered as its number, whatever follows. -/
theorem pad_strict {width a b : Nat} (lt : a < b) (fits : b < 10 ^ width) (x y : List Char) :
    pad width a ++ x < pad width b ++ y := by
  induction width generalizing a b with
  | zero => omega
  | succ width ih =>
    simp only [pad, List.cons_append, List.cons_lt_cons_iff]
    rcases Nat.lt_or_eq_of_le (Nat.div_le_div_right (c := 10 ^ width) lt.le) with first | first
    · exact .inl (digit_lt _ (pad_first fits) _ first)
    · refine .inr ⟨by rw [first], ih ?_ (Nat.mod_lt _ (Nat.pow_pos (by omega)))⟩
      have wholeA := Nat.div_add_mod a (10 ^ width)
      have wholeB := Nat.div_add_mod b (10 ^ width)
      rw [first] at wholeA
      omega

/-- A field is the field of its leading digits followed by the others. -/
theorem pad_add (front back : Nat) {n : Nat} (fits : n < 10 ^ (front + back)) :
    pad (front + back) n = pad front (n / 10 ^ back) ++ pad back (n % 10 ^ back) := by
  induction front generalizing n with
  | zero =>
    rw [Nat.zero_add] at fits ⊢
    rw [Nat.mod_eq_of_lt fits]
    rfl
  | succ front ih =>
    have shape : front + 1 + back = front + back + 1 := by omega
    have power : 10 ^ (front + back) = 10 ^ back * 10 ^ front := by rw [Nat.pow_add, Nat.mul_comm]
    rw [shape, pad, ih (Nat.mod_lt _ (Nat.pow_pos (by omega))), pad, power, Nat.mod_mul_right_div_self,
      Nat.mod_mul_right_mod, Nat.div_div_eq_div_mul]
    rfl

end InviteSystem.Calendar
