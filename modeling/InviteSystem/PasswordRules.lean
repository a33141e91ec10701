import InviteSystem.Validation

/-!
What the password policy asks for and what `validate_password` tests. The
classes agree; the length is measured in bytes and announced in characters.
-/
namespace InviteSystem.PasswordRules
open InviteSystem.Text InviteSystem.Libraries InviteSystem.Validation

/-- The password has a character of every class that the policy requires. -/
structure ClassesMet (crates : Crates) (policy : PasswordPolicy) (password : String) : Prop where
  uppercase : policy.require_uppercase = true → ∃ c ∈ password.toList, crates.is_uppercase c = true
  lowercase : policy.require_lowercase = true → ∃ c ∈ password.toList, crates.is_lowercase c = true
  number : policy.require_number = true → ∃ c ∈ password.toList, crates.is_numeric c = true
  special : policy.require_special = true → ∃ c ∈ password.toList, crates.is_alphanumeric c = false

/-- The password is as the policy says. -/
structure PolicyMet (crates : Crates) (policy : PasswordPolicy) (password : String) : Prop where
  length : policy.minimum_length ≤ password.toList.length
  classes : ClassesMet crates policy password

/-- A policy that asks for no more. -/
structure Weaker (weaker policy : PasswordPolicy) : Prop where
  minimum_length : weaker.minimum_length ≤ policy.minimum_length
  require_uppercase : weaker.require_uppercase = true → policy.require_uppercase = true
  require_lowercase : weaker.require_lowercase = true → policy.require_lowercase = true
  require_number : weaker.require_number = true → policy.require_number = true
  require_special : weaker.require_special = true → policy.require_special = true

section
variable {crates : Crates} {policy : PasswordPolicy} {password : String}

/-- What an accepted password is. -/
theorem validate_password_ok : validate_password crates password policy = .ok () ↔
    policy.minimum_length ≤ len password ∧ ClassesMet crates policy password := by
  unfold validate_password
  constructor
  · intro accepted
    split_ifs at accepted with short upper lower number special
    refine ⟨Nat.not_lt.mp short, ⟨?_, ?_, ?_, ?_⟩⟩
    · intro required
      simpa [required] using upper
    · intro required
      simpa [required] using lower
    · intro required
      simpa [required] using number
    · intro required
      simpa [required] using special
  · rintro ⟨long, uppercase, lowercase, number, special⟩
    rw [if_neg (Nat.not_lt.mpr long), if_neg, if_neg, if_neg, if_neg]
    · simpa using special
    · simpa using number
    · simpa using lowercase
    · simpa using uppercase

theorem ClassesMet.weaken {weaker : PasswordPolicy} (weak : Weaker weaker policy) (met : ClassesMet crates policy password) :
    ClassesMet crates weaker password :=
  ⟨fun required => met.uppercase (weak.require_uppercase required),
    fun required => met.lowercase (weak.require_lowercase required),
    fun required => met.number (weak.require_number required),
    fun required => met.special (weak.require_special required)⟩

end

/-- A password is accepted exactly where it is as the policy says, if and only if
    the minimum does not lie between the number of its characters and the number
    of its bytes, or a class is missing. A weaker policy accepts no less. -/
theorem password_policy_iff (crates : Crates) (password : String) (policy : PasswordPolicy) :
    ((validate_password crates password policy = .ok () ↔ PolicyMet crates policy password) ↔
      policy.minimum_length ≤ password.toList.length ∨ len password < policy.minimum_length ∨
        ¬ ClassesMet crates policy password) ∧
    ∀ weaker, Weaker weaker policy → validate_password crates password policy = .ok () →
      validate_password crates password weaker = .ok () := by
  constructor
  · have encoded := length_le_len password
    have met : PolicyMet crates policy password ↔
        policy.minimum_length ≤ password.toList.length ∧ ClassesMet crates policy password :=
      ⟨fun met => ⟨met.length, met.classes⟩, fun met => ⟨met.1, met.2⟩⟩
    rw [validate_password_ok, met]
    by_cases classes : ClassesMet crates policy password
    · simp only [classes, and_true, not_true, or_false]
      omega
    · simp [classes]
  · intro weaker weak accepted
    obtain ⟨long, classes⟩ := validate_password_ok.mp accepted
    exact validate_password_ok.mpr ⟨le_trans weak.minimum_length long, classes.weaken weak⟩

/-- Eleven characters pass for twelve. -/
theorem password_policy_bytes : ¬ ∀ (crates : Crates) (password : String) (policy : PasswordPolicy),
    validate_password crates password policy = .ok () ↔ PolicyMet crates policy password := by
  intro stated
  let crates : Crates := {
    sha256 := fun _ => Vector.replicate 32 0
    parse_datetime := fun _ => none
    groups_to_json := fun _ => "[]"
    groups_from_json := fun _ => none
    verify_password := fun _ _ => false
    is_uppercase := Char.isUpper
    is_lowercase := fun c => c.isLower || c == 'ü' || c == 'ö'
    is_numeric := Char.isDigit
    is_alphanumeric := fun c => c.isAlphanum || c == 'ü' || c == 'ö' }
  have met := (stated crates "Zürich-Köl1" .default).mp (by decide)
  exact absurd met.length (by decide)

end InviteSystem.PasswordRules
