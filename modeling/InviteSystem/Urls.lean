import Mathlib.Data.List.DropRight

/-!
The scheme of a URL as the crate `url` documents that it is read: by the URL
standard, for which the blanks around the text and the tabs and line ends in it
do not count, nor does the case of its letters.
-/
namespace InviteSystem.Urls

/-- C0 control or space. -/
def blank (c : Char) : Bool := c.toNat ≤ 0x20

/-- ASCII tab or newline. -/
def dropped (c : Char) : Bool := c.toNat = 9 ∨ c.toNat = 10 ∨ c.toNat = 13

/-- What counts of a text. -/
def clean (text : List Char) : List Char :=
  ((text.dropWhile blank).rdropWhile blank).filter (fun c => !dropped c)

/-- A text before and after its first colon. -/
def cut : List Char → Option (List Char × List Char)
  | [] => none
  | c :: rest => if c = ':' then some ([], rest) else (cut rest).map fun parts => (c :: parts.1, parts.2)

/-- An ASCII letter, then letters, digits, `+`, `-` and `.`. -/
def validScheme : List Char → Bool
  | [] => false
  | c :: rest => c.isAlpha && rest.all (fun c => c.isAlphanum || c == '+' || c == '-' || c == '.')

/-- The scheme, in lower case, and what follows its colon: the host, the port
    and the rest. -/
structure Url where
  scheme : List Char
  remainder : List Char
deriving DecidableEq, Repr

/-- `Url::parse`, as far as the scheme goes. -/
def parse (text : String) : Option Url :=
  match cut (clean text.toList) with
  | none => none
  | some (scheme, remainder) => if validScheme scheme then some ⟨scheme.map Char.toLower, remainder⟩ else none

end InviteSystem.Urls
