import InviteSystem.Libraries

/-!
Random tokens, their hashes, and the comparison of tokens: `random_token` and
`tokens_match` of `admin_auth.rs`, and `hash_token` of `invite_storage.rs`.
-/
namespace InviteSystem.Tokens
open InviteSystem.Text InviteSystem.Libraries

/-! ### Hashes -/

def hexDigit (n : Nat) : Char := if n < 10 then Char.ofNat (48 + n) else Char.ofNat (87 + n)

/-- Two lowercase digits for each byte. -/
def hex : List UInt8 → List Char
  | [] => []
  | byte :: rest => hexDigit (byte.toNat / 16) :: hexDigit (byte.toNat % 16) :: hex rest

def hash_token (crates : Crates) (token : String) : String :=
  String.ofList (hex (crates.sha256 (bytes token)).toList)

theorem hexDigit_ascii : ∀ n < 16, (hexDigit n).toNat < 128 := by decide
theorem hexDigit_injective : ∀ n < 16, ∀ m < 16, hexDigit n = hexDigit m → n = m := by decide

theorem hex_ascii (digest : List UInt8) : ∀ c ∈ hex digest, c.toNat < 128 := by
  induction digest with
  | nil => simp [hex]
  | cons byte rest ih =>
    have bound := byte.toNat_lt
    simp only [hex, List.mem_cons, forall_eq_or_imp]
    exact ⟨hexDigit_ascii _ (by omega), hexDigit_ascii _ (by omega), ih⟩

theorem hex_length (digest : List UInt8) : (hex digest).length = 2 * digest.length := by
  induction digest with
  | nil => rfl
  | cons byte rest ih => simp [hex, ih]; omega

theorem hex_injective {a b : List UInt8} (same : hex a = hex b) : a = b := by
  induction a generalizing b with
  | nil =>
    cases b with
    | nil => rfl
    | cons byte rest => simp [hex] at same
  | cons byte rest ih =>
    cases b with
    | nil => simp [hex] at same
    | cons other others =>
      simp only [hex, List.cons.injEq] at same
      have boundA := byte.toNat_lt
      have boundB := other.toNat_lt
      have high := hexDigit_injective _ (by omega) _ (by omega) same.1
      have low := hexDigit_injective _ (by omega) _ (by omega) same.2.1
      have equal : byte.toNat = other.toNat := by omega
      rw [UInt8.toNat_inj.mp equal, ih same.2.2]

/-- Every hash has the length that `tokens_match` demands. -/
theorem hash_token_len (crates : Crates) (token : String) : len (hash_token crates token) = 64 := by
  unfold hash_token
  rw [len_ascii (hex_ascii _), hex_length, Vector.length_toList]

/-- Equal hashes are a collision of the digest, or the hashes of one text. -/
theorem sha256_of_hash_token {crates : Crates} {a b : String} (same : hash_token crates a = hash_token crates b) :
    crates.sha256 (bytes a) = crates.sha256 (bytes b) := by
  unfold hash_token at same
  exact Vector.toList_inj.mp (hex_injective (String.ofList_injective same))

/-! ### Random tokens -/

/-- `length` characters drawn from `Alphanumeric`. -/
structure Token (length : Nat) where
  chars : List Char
  drawn : chars.length = length
  alphanumeric : ∀ c ∈ chars, c.isAlphanum = true
deriving DecidableEq

def Token.text {length : Nat} (token : Token length) : String := String.ofList token.chars

theorem alphanumeric_ascii {c : Char} (alphanumeric : c.isAlphanum = true) : c.toNat < 128 := by
  simp only [Char.isAlphanum, Char.isAlpha, Char.isUpper, Char.isLower, Char.isDigit, Bool.or_eq_true,
    Bool.and_eq_true, decide_eq_true_eq, ge_iff_le, UInt32.le_iff_toNat_le] at alphanumeric
  have value : c.toNat = c.val.toNat := rfl
  simp at alphanumeric
  omega

theorem Token.len_text {length : Nat} (token : Token length) : len token.text = length := by
  unfold Token.text
  rw [len_ascii (fun c member => alphanumeric_ascii (token.alphanumeric c member)), token.drawn]

/-- The comparison is constant-time in the source; its answer is equality. -/
def tokens_match (expected supplied : String) : Bool :=
  len expected = 64 ∧ len supplied = 64 ∧ bytes expected = bytes supplied

theorem tokens_match_iff {expected supplied : String} :
    tokens_match expected supplied = true ↔ len expected = 64 ∧ expected = supplied := by
  simp only [tokens_match, decide_eq_true_eq]
  constructor
  · rintro ⟨length, _, same⟩
    exact ⟨length, bytes_injective same⟩
  · rintro ⟨length, rfl⟩
    exact ⟨length, length, rfl⟩

end InviteSystem.Tokens
