import Mathlib.Data.List.DropRight
import Mathlib.Data.List.Basic

/-!
Distinguished names as text: components between commas, each a type and a
value, with backslash escapes. Blanks around a type or a value are not part of
it unless they are escaped; which characters are blanks is a parameter.
-/
namespace InviteSystem.DistinguishedNames

section
variable (blank : Char → Bool)

/-- A character of a name, and whether it was escaped. -/
abbrev Token := Char × Bool

def hexValue (c : Char) : Option Nat :=
  if '0' ≤ c ∧ c ≤ '9' then some (c.toNat - 48)
  else if 'a' ≤ c ∧ c ≤ 'f' then some (c.toNat - 87)
  else if 'A' ≤ c ∧ c ≤ 'F' then some (c.toNat - 55)
  else none

/-- An escape is a backslash with two hexadecimal digits, or with any character. -/
def scan : List Char → List Token
  | [] => []
  | ['\\', a] => [(a, true)]
  | '\\' :: a :: b :: rest =>
    match hexValue a, hexValue b with
    | some high, some low => (Char.ofNat (16 * high + low), true) :: scan rest
    | _, _ => (a, true) :: scan (b :: rest)
  | c :: rest => (c, false) :: scan rest

/-- The parts between the unescaped separators. -/
def components (separator : Char) : List Token → List (List Token)
  | [] => [[]]
  | token :: rest =>
    if token = (separator, false) then [] :: components separator rest
    else match components separator rest with
      | [] => [[token]]
      | first :: others => (token :: first) :: others

def isBlank (token : Token) : Bool := !token.2 && blank token.1

/-- The characters without the unescaped blanks around them. -/
def bare (tokens : List Token) : List Char :=
  ((tokens.dropWhile (isBlank blank)).rdropWhile (isBlank blank)).map Prod.fst

/-- The type and the value around the first unescaped equals sign. -/
def typeAndValue (tokens : List Token) : List Char × List Char :=
  (bare blank (tokens.takeWhile (· ≠ ('=', false))), bare blank (tokens.dropWhile (· ≠ ('=', false))).tail)

/-- The types and the values of a name, in its order. -/
def read (name : List Char) : List (List Char × List Char) :=
  (components ',' (scan name)).map (typeAndValue blank)

/-- A text without the blanks around it. -/
def strip (text : List Char) : List Char := (text.dropWhile blank).rdropWhile blank

/-- A text that is read as it stands. -/
def plain (text : List Char) : List Token := text.map (·, false)

variable {blank}

theorem scan_plain {text : List Char} (noEscape : '\\' ∉ text) (rest : List Char) :
    scan (text ++ rest) = plain text ++ scan rest := by
  induction text with
  | nil => rfl
  | cons c text ih =>
    rw [List.mem_cons, not_or] at noEscape
    have other : c ≠ '\\' := Ne.symm noEscape.1
    have first : scan (c :: (text ++ rest)) = (c, false) :: scan (text ++ rest) := by
      rw [scan.eq_def]
      split <;> simp_all
    rw [List.cons_append, first, ih noEscape.2]
    rfl

theorem components_plain {separator : Char} {text : List Char} (noSeparator : separator ∉ text) (rest : List Token) :
    components separator (plain text ++ (separator, false) :: rest) = plain text :: components separator rest := by
  induction text with
  | nil => simp [plain, components]
  | cons c text ih =>
    rw [List.mem_cons, not_or] at noSeparator
    have other : (c, false) ≠ (separator, false) := by
      intro same
      exact noSeparator.1 (Prod.mk.inj same).1.symm
    show components separator ((c, false) :: (plain text ++ (separator, false) :: rest)) = _
    rw [components, if_neg other, ih noSeparator.2]
    rfl

theorem bare_plain (text : List Char) : bare blank (plain text) = strip blank text := by
  have same : isBlank blank ∘ (fun c => (c, false)) = blank := by
    funext c
    simp [isBlank]
  simp only [bare, plain, strip, List.rdropWhile, List.dropWhile_map, same, ← List.map_reverse, List.map_map]
  simp [Function.comp_def]

theorem typeAndValue_plain {type : List Char} (noEquals : '=' ∉ type) (value : List Char) :
    typeAndValue blank (plain (type ++ '=' :: value)) = (strip blank type, strip blank value) := by
  have before : ∀ token ∈ plain type, decide (token ≠ ('=', false)) = true := by
    intro token member
    obtain ⟨c, stored, rfl⟩ := List.mem_map.mp member
    simpa using fun same : c = '=' => noEquals (same ▸ stored)
  have split : plain (type ++ '=' :: value) = plain type ++ ('=', false) :: plain value := by simp [plain]
  simp only [typeAndValue, split]
  rw [List.takeWhile_append_of_pos before, List.dropWhile_append_of_pos before]
  simp [bare_plain]

/-- The first component of a name whose type and value need no escape. -/
theorem read_plain {type value : List Char} (typePlain : '\\' ∉ type ∧ ',' ∉ type ∧ '=' ∉ type)
    (valuePlain : '\\' ∉ value ∧ ',' ∉ value) (rest : List Char) :
    read blank (type ++ '=' :: value ++ ',' :: rest) = (strip blank type, strip blank value) :: read blank rest := by
  have noEscape : '\\' ∉ type ++ '=' :: value := by simp [typePlain, valuePlain]
  have noComma : ',' ∉ type ++ '=' :: value := by simp [typePlain, valuePlain]
  have comma : scan (',' :: rest) = (',', false) :: scan rest := scan_plain (by decide : '\\' ∉ [',']) rest
  rw [read, scan_plain noEscape, comma, components_plain noComma, List.map_cons, typeAndValue_plain typePlain.2.2]
  rfl

end
end InviteSystem.DistinguishedNames
