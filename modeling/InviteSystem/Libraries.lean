import InviteSystem.Chrono

/-!
The functions of other crates, and the Unicode tables of the standard library,
that decide what the handlers do. The development is about every choice of
them; what it takes from one of them is a named hypothesis where it is used.
-/
namespace InviteSystem.Libraries
open InviteSystem.Chrono

structure Crates where
  /-- `Sha256::digest` -/
  sha256 : List UInt8 → Vector UInt8 32
  /-- `str::parse::<DateTime<Utc>>` -/
  parse_datetime : String → Option DateTime
  /-- `serde_json::to_string` of a list of strings, which does not fail -/
  groups_to_json : List String → String
  /-- `serde_json::from_str::<Vec<String>>` -/
  groups_from_json : String → Option (List String)
  /-- `PasswordHash::new(hash).is_ok_and(|parsed| Argon2::default().verify_password(password, &parsed).is_ok())` -/
  verify_password : String → List UInt8 → Bool
  is_uppercase : Char → Bool
  is_lowercase : Char → Bool
  is_numeric : Char → Bool
  is_alphanumeric : Char → Bool

end InviteSystem.Libraries
