import InviteSystem.Libraries

/-!
`validation.rs`: the checks of the submitted fields. The username and the email
are judged by a trimmed copy; the caller goes on with the text as submitted.
-/
namespace InviteSystem.Validation
open InviteSystem.Text InviteSystem.Libraries

structure PasswordPolicy where
  minimum_length : Nat
  require_uppercase : Bool
  require_lowercase : Bool
  require_number : Bool
  require_special : Bool
deriving DecidableEq, Repr

def PasswordPolicy.default : PasswordPolicy := ⟨12, true, true, true, true⟩

/-- The characters of a username. -/
def usernameChar (c : Char) : Bool := c.isAlphanum || c == '_' || c == '-' || c == '.'

def validate_username (username : String) : Except String Unit :=
  let username := trim username
  if len username < 3 ∨ 32 < len username then .error "Username must be between 3 and 32 characters."
  else if username.toList.head?.any Char.isAlpha = false then .error "Username must start with a letter."
  else if username.toList.all usernameChar = false then
    .error "Username may only contain letters, numbers, periods, hyphens, and underscores."
  else .ok ()

def invalidEmail : String := "Enter a valid email address."

def validate_email (email : String) : Except String Unit :=
  let email := (trim email).toList
  if email = [] ∨ email.any is_whitespace then .error invalidEmail
  else if email.count '@' ≠ 1 then .error invalidEmail
  else
    let local_part := email.takeWhile (· ≠ '@')
    let domain := (email.dropWhile (· ≠ '@')).tail
    if local_part = [] ∨ domain = [] ∨ '.' ∉ domain ∨ domain.head? = some '.' ∨ domain.getLast? = some '.' then
      .error invalidEmail
    else .ok ()

def validate_password (crates : Crates) (password : String) (policy : PasswordPolicy) : Except String Unit :=
  if len password < policy.minimum_length then
    .error ("Password must be at least " ++ toString policy.minimum_length ++ " characters.")
  else if policy.require_uppercase ∧ password.toList.any crates.is_uppercase = false then
    .error "Password must contain an uppercase letter."
  else if policy.require_lowercase ∧ password.toList.any crates.is_lowercase = false then
    .error "Password must contain a lowercase letter."
  else if policy.require_number ∧ password.toList.any crates.is_numeric = false then
    .error "Password must contain a number."
  else if policy.require_special ∧ password.toList.any (fun c => !crates.is_alphanumeric c) = false then
    .error "Password must contain a symbol."
  else .ok ()

/-- What an accepted username is: its trimmed copy is a plain user name. -/
theorem validate_username_ok {username : String} : validate_username username = .ok () ↔
    3 ≤ len (trim username) ∧ len (trim username) ≤ 32 ∧ (trim username).toList.head?.any Char.isAlpha = true ∧
      (trim username).toList.all usernameChar = true := by
  unfold validate_username
  dsimp only
  by_cases length : len (trim username) < 3 ∨ 32 < len (trim username)
  · simp [length]
    omega
  · by_cases start : (trim username).toList.head?.any Char.isAlpha = true
    · by_cases all : (trim username).toList.all usernameChar = true
      · simp only [length, start, all, if_false, Bool.true_eq_false]
        simp
        omega
      · simp [length, start, all]
    · simp [length, start]

theorem validate_email_spaceless {email : String} (accepted : validate_email email = .ok ()) :
    (trim email).toList.any is_whitespace = false := by
  unfold validate_email at accepted
  dsimp only at accepted
  split at accepted
  · cases accepted
  · next plain =>
    rw [not_or] at plain
    simpa using plain.2

theorem usernameChar_cases {c : Char} (plain : usernameChar c = true) : c.toNat = 45 ∨ c.toNat = 46 ∨ c.toNat = 95 ∨
    (48 ≤ c.toNat ∧ c.toNat ≤ 57) ∨ (65 ≤ c.toNat ∧ c.toNat ≤ 90) ∨ (97 ≤ c.toNat ∧ c.toNat ≤ 122) := by
  simp only [usernameChar, Char.isAlphanum, Char.isAlpha, Char.isUpper, Char.isLower, Char.isDigit, Bool.or_eq_true,
    Bool.and_eq_true, decide_eq_true_eq, beq_iff_eq, ge_iff_le, UInt32.le_iff_toNat_le] at plain
  rcases plain with (((letter | digit) | rfl) | rfl) | rfl
  · have value : c.toNat = c.val.toNat := rfl
    simp at letter
    omega
  · have value : c.toNat = c.val.toNat := rfl
    simp at digit
    omega
  · exact .inr (.inr (.inl rfl))
  · exact .inl rfl
  · exact .inr (.inl rfl)

theorem usernameChar_ascii {c : Char} (plain : usernameChar c = true) : c.toNat < 128 := by
  have ranges := usernameChar_cases plain
  omega

theorem usernameChar_visible {c : Char} (plain : usernameChar c = true) : is_whitespace c = false := by
  have ranges := usernameChar_cases plain
  simp only [is_whitespace, decide_eq_false_iff_not]
  omega

/-- Every character of an accepted username is white space, around it, or a
    character of usernames. -/
theorem accepted_char {username : String} (accepted : validate_username username = .ok ()) :
    ∀ c ∈ username.toList, is_whitespace c = true ∨ usernameChar c = true := by
  obtain ⟨_, _, _, all⟩ := validate_username_ok.mp accepted
  intro c member
  rw [← List.takeWhile_append_dropWhile (p := is_whitespace) (l := username.toList), List.mem_append] at member
  rcases member with before | rest
  · exact .inl (List.mem_takeWhile_imp before)
  · rw [← List.rdropWhile_append_rtakeWhile (p := is_whitespace) (l := username.toList.dropWhile is_whitespace),
      List.mem_append] at rest
    rcases rest with core | after
    · have trimmed : c ∈ (trim username).toList := by simpa [trim] using core
      exact .inr (List.all_eq_true.mp all c trimmed)
    · exact .inl (List.mem_rtakeWhile_imp after)

end InviteSystem.Validation
