import InviteSystem.Calendar
import InviteSystem.Text

/-!
The instants of chrono, as that crate documents them: `DateTime<Utc>` in the
range of years it represents, its RFC 3339 form, and whole hours added to it. No
value here carries a leap second: the system clock yields none, and nothing the
program computes from its readings does.
-/
namespace InviteSystem.Chrono
open InviteSystem.Calendar InviteSystem.Text

def nanosPerDay : Int := 86400000000000

/-- The day of an instant, given in nanoseconds since the epoch, and its nanosecond of the day. -/
def dayNumber (nanos : Int) : Int := nanos / nanosPerDay + 719528
def nanoOfDay (nanos : Int) : Nat := (nanos % nanosPerDay).toNat

/-- The first and the last year of `NaiveDate`. -/
def MIN_YEAR : Int := -262143
def MAX_YEAR : Int := 262142

def Representable (nanos : Int) : Prop :=
  MIN_YEAR ≤ yearOf (dayNumber nanos) ∧ yearOf (dayNumber nanos) ≤ MAX_YEAR

instance (nanos : Int) : Decidable (Representable nanos) := inferInstanceAs (Decidable (_ ∧ _))

structure DateTime where
  nanos : Int
  representable : Representable nanos
deriving DecidableEq

instance : LT DateTime := ⟨fun a b => a.nanos < b.nanos⟩
instance : LE DateTime := ⟨fun a b => a.nanos ≤ b.nanos⟩
instance (a b : DateTime) : Decidable (a < b) := inferInstanceAs (Decidable (a.nanos < b.nanos))
instance (a b : DateTime) : Decidable (a ≤ b) := inferInstanceAs (Decidable (a.nanos ≤ b.nanos))

theorem DateTime.lt_def {a b : DateTime} : a < b ↔ a.nanos < b.nanos := Iff.rfl
theorem DateTime.le_def {a b : DateTime} : a ≤ b ↔ a.nanos ≤ b.nanos := Iff.rfl
theorem DateTime.not_lt {a b : DateTime} : ¬ a < b ↔ b ≤ a := Int.not_lt

def DateTime.year (t : DateTime) : Int := yearOf (dayNumber t.nanos)
def DateTime.month (t : DateTime) : Nat := monthOf (dayNumber t.nanos)
def DateTime.day (t : DateTime) : Nat := dayOf (dayNumber t.nanos)
def DateTime.hour (t : DateTime) : Nat := nanoOfDay t.nanos / 1000000000 / 3600
def DateTime.minute (t : DateTime) : Nat := nanoOfDay t.nanos / 1000000000 / 60 % 60
def DateTime.second (t : DateTime) : Nat := nanoOfDay t.nanos / 1000000000 % 60
def DateTime.nanosecond (t : DateTime) : Nat := nanoOfDay t.nanos % 1000000000

/-- A reading of `Utc::now()`: the system clock never stands before the epoch. -/
structure Reading where
  time : DateTime
  sinceEpoch : 0 ≤ time.nanos
deriving DecidableEq

/-! ### RFC 3339 -/

/-- The years printed with four digits and no sign. -/
def DateTime.FourDigitYear (t : DateTime) : Prop := 0 ≤ t.year ∧ t.year ≤ 9999

instance (t : DateTime) : Decidable t.FourDigitYear := inferInstanceAs (Decidable (_ ∧ _))

/-- `{:+05}`: the sign, and at least four digits. -/
def signedYear (year : Int) : List Char :=
  (if year < 0 then '-' else '+') :: (Nat.toDigits 10 year.natAbs).leftpad 4 '0'

/-- `SecondsFormat::AutoSi`: no digits, or 3, 6 or 9 of them. -/
def fraction (nano : Nat) : List Char :=
  if nano = 0 then []
  else if nano % 1000000 = 0 then '.' :: pad 3 (nano / 1000000)
  else if nano % 1000 = 0 then '.' :: pad 6 (nano / 1000)
  else '.' :: pad 9 nano

def offset : List Char := ['+', '0', '0', ':', '0', '0']

/-- What follows the year. -/
def afterYear (t : DateTime) : List Char :=
  '-' :: (pad 2 t.month ++ '-' :: (pad 2 t.day ++ 'T' :: (pad 2 t.hour ++ ':' :: (pad 2 t.minute ++
    ':' :: (pad 2 t.second ++ (fraction t.nanosecond ++ offset))))))

def to_rfc3339 (t : DateTime) : String :=
  String.ofList ((if t.FourDigitYear then pad 4 t.year.toNat else signedYear t.year) ++ afterYear t)

/-! ### The order of the texts -/

/-- Nine decimal places with trailing zeros cut off are ordered as the numbers:
    the offset sorts before every digit. -/
theorem places_strict {k l a b : Nat} (placesA : k ≤ 9) (placesB : l ≤ 9) (cutA : 10 ^ (9 - k) ∣ a)
    (cutB : 10 ^ (9 - l) ∣ b) (lt : a < b) (fits : b < 10 ^ 9) :
    pad k (a / 10 ^ (9 - k)) ++ offset < pad l (b / 10 ^ (9 - l)) ++ offset := by
  have fitsPlaces : ∀ m ≤ 9, ∀ n < 10 ^ 9, n / 10 ^ (9 - m) < 10 ^ m := by
    intro m places n small
    apply Nat.div_lt_of_lt_mul
    rwa [← Nat.pow_add, Nat.sub_add_cancel places]
  have regroup : ∀ m j n, m + j ≤ 9 → n / 10 ^ (9 - (m + j)) / 10 ^ j = n / 10 ^ (9 - m) := by
    intro m j n places
    rw [Nat.div_div_eq_div_mul, ← Nat.pow_add]
    congr 2
    omega
  rcases Nat.lt_or_ge l k with shorter | longer
  · obtain ⟨j, rfl⟩ := Nat.exists_eq_add_of_lt shorter
    rw [show l + j + 1 = l + (j + 1) by omega] at placesA ⊢
    rw [pad_add l (j + 1) (fitsPlaces _ placesA a (by omega)), regroup l (j + 1) a placesA, List.append_assoc]
    exact pad_strict (Nat.div_lt_div_of_lt_of_dvd cutB lt) (fitsPlaces l placesB b fits) _ _
  · obtain ⟨j, rfl⟩ := Nat.exists_eq_add_of_le longer
    rw [pad_add k j (fitsPlaces _ placesB b fits), regroup k j b placesB, List.append_assoc]
    rcases Nat.lt_or_eq_of_le (Nat.div_le_div_right (c := 10 ^ (9 - k)) lt.le) with first | first
    · exact pad_strict first (fitsPlaces k placesA b fits) _ _
    · rw [first]
      apply List.append_left_lt
      cases j with
      | zero =>
        rw [Nat.add_zero] at cutB
        have same := congrArg (· * 10 ^ (9 - k)) first
        simp only [Nat.div_mul_cancel cutA, Nat.div_mul_cancel cutB] at same
        omega
      | succ j =>
        apply List.cons_lt_cons_iff.mpr
        left
        have rest := Nat.mod_lt (b / 10 ^ (9 - (k + (j + 1)))) (show 0 < 10 ^ (j + 1) from Nat.pow_pos (by omega))
        exact lt_of_lt_of_le (by decide) (zero_le_digit _ (pad_first rest))

theorem fraction_places {n : Nat} (some : n ≠ 0) :
    ∃ k ≤ 9, 10 ^ (9 - k) ∣ n ∧ fraction n = '.' :: pad k (n / 10 ^ (9 - k)) := by
  unfold fraction
  rw [if_neg some]
  by_cases millis : n % 1000000 = 0
  · exact ⟨3, by omega, Nat.dvd_of_mod_eq_zero millis, by simp [millis]⟩
  · by_cases micros : n % 1000 = 0
    · exact ⟨6, by omega, Nat.dvd_of_mod_eq_zero micros, by simp [millis, micros]⟩
    · exact ⟨9, by omega, by simp, by simp [millis, micros]⟩

theorem fraction_strict {a b : Nat} (lt : a < b) (fits : b < 10 ^ 9) : fraction a ++ offset < fraction b ++ offset := by
  obtain ⟨l, placesB, cutB, shapeB⟩ := fraction_places (show b ≠ 0 by omega)
  by_cases whole : a = 0
  · rw [shapeB, whole]
    exact List.cons_lt_cons_iff.mpr (.inl (by decide))
  · obtain ⟨k, placesA, cutA, shapeA⟩ := fraction_places whole
    rw [shapeA, shapeB]
    exact List.cons_lt_cons_iff.mpr (.inr ⟨rfl, places_strict placesA placesB cutA cutB lt fits⟩)

/-- One field of the text: it decides, or the rest does. -/
theorem field_strict {width a b : Nat} {c : Char} {x y : List Char} (fits : b < 10 ^ width)
    (order : a < b ∨ (a = b ∧ x < y)) : pad width a ++ c :: x < pad width b ++ c :: y := by
  rcases order with lt | ⟨rfl, rest⟩
  · exact pad_strict lt fits _ _
  · exact List.append_left_lt (List.cons_lt_cons_iff.mpr (.inr ⟨rfl, rest⟩))

theorem nanoOfDay_lt (nanos : Int) : nanoOfDay nanos < 86400000000000 := by
  unfold nanoOfDay nanosPerDay
  omega

theorem time_strict {a b : DateTime} (lt : nanoOfDay a.nanos < nanoOfDay b.nanos) :
    a.hour < b.hour ∨ (a.hour = b.hour ∧ (a.minute < b.minute ∨ (a.minute = b.minute ∧
      (a.second < b.second ∨ (a.second = b.second ∧ a.nanosecond < b.nanosecond))))) := by
  unfold DateTime.hour DateTime.minute DateTime.second DateTime.nanosecond
  omega

/-- Within one year, the part after the year is ordered as the instants are. -/
theorem afterYear_strict {a b : DateTime} (lt : a < b) (same : a.year = b.year) : afterYear a < afterYear b := by
  unfold afterYear
  refine List.cons_lt_cons_iff.mpr (.inr ⟨rfl, ?_⟩)
  have bounds := monthOf_dayOf_le (dayNumber b.nanos)
  have time := nanoOfDay_lt b.nanos
  have order : nanosPerDay * (a.nanos / nanosPerDay) + a.nanos % nanosPerDay <
      nanosPerDay * (b.nanos / nanosPerDay) + b.nanos % nanosPerDay := by
    rw [Int.mul_ediv_add_emod, Int.mul_ediv_add_emod]
    exact lt
  by_cases sameDay : dayNumber a.nanos = dayNumber b.nanos
  · have later : nanoOfDay a.nanos < nanoOfDay b.nanos := by
      unfold dayNumber nanoOfDay nanosPerDay at *
      omega
    refine field_strict (by unfold DateTime.month; omega) (.inr ⟨by rw [DateTime.month, sameDay]; rfl, ?_⟩)
    refine field_strict (by unfold DateTime.day; omega) (.inr ⟨by rw [DateTime.day, sameDay]; rfl, ?_⟩)
    refine field_strict (by unfold DateTime.hour; omega) ((time_strict later).imp_right (.imp_right fun rest => ?_))
    refine field_strict (by unfold DateTime.minute; omega) (rest.imp_right (.imp_right fun rest => ?_))
    rcases rest with second | ⟨second, nanos⟩
    · exact pad_strict second (by unfold DateTime.second; omega) _ _
    · rw [second]
      exact List.append_left_lt (fraction_strict nanos (by unfold DateTime.nanosecond; omega))
  · have earlier : dayNumber a.nanos < dayNumber b.nanos := by
      unfold dayNumber nanosPerDay at *
      omega
    have date := monthOf_dayOf_strict earlier same
    refine field_strict (by unfold DateTime.month; omega) (date.imp_right (.imp_right fun day => ?_))
    exact field_strict (by unfold DateTime.day; omega) (.inl day)

theorem dayNumber_mono {nanos nanos' : Int} (le : nanos ≤ nanos') : dayNumber nanos ≤ dayNumber nanos' := by
  unfold dayNumber nanosPerDay
  omega

theorem DateTime.year_mono {a b : DateTime} (le : a ≤ b) : a.year ≤ b.year := yearOf_mono (dayNumber_mono le)

theorem fraction_ascii {n : Nat} (fits : n < 10 ^ 9) : ∀ c ∈ fraction n, c.toNat < 128 := by
  have dot : '.'.toNat < 128 := by decide
  unfold fraction
  split
  · simp
  · split
    · exact List.forall_mem_cons.mpr ⟨dot, pad_ascii (by omega)⟩
    · split
      · exact List.forall_mem_cons.mpr ⟨dot, pad_ascii (by omega)⟩
      · exact List.forall_mem_cons.mpr ⟨dot, pad_ascii fits⟩

theorem afterYear_ascii (t : DateTime) : ∀ c ∈ afterYear t, c.toNat < 128 := by
  have bounds := monthOf_dayOf_le (dayNumber t.nanos)
  have time := nanoOfDay_lt t.nanos
  have month : ∀ c ∈ pad 2 t.month, c.toNat < 128 := pad_ascii (by unfold DateTime.month; omega)
  have day : ∀ c ∈ pad 2 t.day, c.toNat < 128 := pad_ascii (by unfold DateTime.day; omega)
  have hour : ∀ c ∈ pad 2 t.hour, c.toNat < 128 := pad_ascii (by unfold DateTime.hour; omega)
  have minute : ∀ c ∈ pad 2 t.minute, c.toNat < 128 := pad_ascii (by unfold DateTime.minute; omega)
  have second : ∀ c ∈ pad 2 t.second, c.toNat < 128 := pad_ascii (by unfold DateTime.second; omega)
  have nanos : ∀ c ∈ fraction t.nanosecond, c.toNat < 128 :=
    fraction_ascii (by unfold DateTime.nanosecond; omega)
  have zone : ∀ c ∈ offset, c.toNat < 128 := by simp [offset]
  unfold afterYear
  simp only [List.mem_cons, List.mem_append]
  rintro c (rfl | h | rfl | h | rfl | h | rfl | h | rfl | h | h | h)
  all_goals first | decide | simp_all

theorem to_rfc3339_plain {t : DateTime} (plain : t.FourDigitYear) :
    to_rfc3339 t = String.ofList (pad 4 t.year.toNat ++ afterYear t) := by
  unfold to_rfc3339
  rw [if_pos plain]

theorem to_rfc3339_signed {t : DateTime} (signed : ¬ t.FourDigitYear) :
    to_rfc3339 t = String.ofList (signedYear t.year ++ afterYear t) := by
  unfold to_rfc3339
  rw [if_neg signed]

/-- A later instant is printed as a greater text. -/
theorem rfc3339_strict {a b : DateTime} (plainA : a.FourDigitYear) (plainB : b.FourDigitYear) (lt : a < b) :
    TextLt (to_rfc3339 a) (to_rfc3339 b) := by
  obtain ⟨lowA, highA⟩ := plainA
  obtain ⟨lowB, highB⟩ := plainB
  rw [to_rfc3339_plain ⟨lowA, highA⟩, to_rfc3339_plain ⟨lowB, highB⟩]
  have yearA : ∀ c ∈ pad 4 a.year.toNat, c.toNat < 128 := pad_ascii (by omega)
  have yearB : ∀ c ∈ pad 4 b.year.toNat, c.toNat < 128 := pad_ascii (by omega)
  apply textLt_ascii
  · exact List.forall_mem_append.mpr ⟨yearA, afterYear_ascii a⟩
  · exact List.forall_mem_append.mpr ⟨yearB, afterYear_ascii b⟩
  · have le := DateTime.year_mono (Int.le_of_lt lt : a ≤ b)
    by_cases same : a.year = b.year
    · rw [same]
      exact List.append_left_lt (afterYear_strict lt same)
    · exact pad_strict (by omega) (by omega) _ _

/-- On years of four digits the byte order of the texts is the order of the instants. -/
theorem rfc3339_lt_iff {a b : DateTime} (plainA : a.FourDigitYear) (plainB : b.FourDigitYear) :
    TextLt (to_rfc3339 a) (to_rfc3339 b) ↔ a < b := by
  constructor
  · intro text
    by_contra notLess
    rcases Int.lt_or_eq_of_le (DateTime.not_lt.mp notLess) with greater | same
    · exact text.asymm (rfc3339_strict plainB plainA greater)
    · have equal : b = a := by
        cases a
        cases b
        cases same
        rfl
      rw [equal] at text
      exact textLt_irrefl _ text
  · exact rfc3339_strict plainA plainB

/-- A signed year sorts before every plain one, on whichever side of them it lies. -/
theorem rfc3339_signed_lt {a b : DateTime} (signed : ¬ a.FourDigitYear) (plain : b.FourDigitYear) :
    TextLt (to_rfc3339 a) (to_rfc3339 b) := by
  obtain ⟨low, high⟩ := plain
  rw [to_rfc3339_signed signed, to_rfc3339_plain ⟨low, high⟩, signedYear, pad]
  have first : b.year.toNat / 10 ^ 3 < 10 := by omega
  have zero := zero_le_digit _ first
  have ascii := digit_ascii _ first
  split
  · exact textLt_first (by decide) ascii (lt_of_lt_of_le (by decide) zero) _ _
  · exact textLt_first (by decide) ascii (lt_of_lt_of_le (by decide) zero) _ _

/-- A plain text that sorts before the text of an instant is that of an earlier one. -/
theorem rfc3339_early {a b : DateTime} (plain : a.FourDigitYear) (text : TextLt (to_rfc3339 a) (to_rfc3339 b)) : a < b := by
  by_cases plainB : b.FourDigitYear
  · exact (rfc3339_lt_iff plain plainB).mp text
  · exact absurd (rfc3339_signed_lt plainB plain) text.asymm

/-! ### Whole hours -/

/-- `Duration::hours`, in seconds. It panics outside the range of `TimeDelta`. -/
def hours (count : Int) : Option Int :=
  if -9223372036854775 ≤ count * 3600 ∧ count * 3600 ≤ 9223372036854775 then some (count * 3600) else none

/-- `DateTime + Duration`. It panics where the result is not representable. -/
def DateTime.add (t : DateTime) (seconds : Int) : Option DateTime :=
  if fits : Representable (t.nanos + seconds * 1000000000) then some ⟨t.nanos + seconds * 1000000000, fits⟩
  else none

theorem add_hours {t later : DateTime} {count seconds : Int} (duration : hours count = some seconds)
    (sum : t.add seconds = some later) : later.nanos = t.nanos + count * 3600000000000 := by
  unfold hours at duration
  unfold DateTime.add at sum
  split at duration
  · split at sum
    · cases duration
      cases sum
      show t.nanos + count * 3600 * 1000000000 = _
      omega
    · cases sum
  · cases duration

end InviteSystem.Chrono
