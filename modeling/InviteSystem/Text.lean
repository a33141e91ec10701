import Mathlib.Data.Char
import Mathlib.Data.List.DropRight

/-!
Texts as the standard library and the database see them: their UTF-8 bytes and
the byte order on them, Unicode white space and trimming, and splitting at a
separator.
-/
namespace InviteSystem.Text

/-- The UTF-8 encoding of a text. -/
def bytes (s : String) : List UInt8 := s.toByteArray.data.toList

/-- The order of TEXT values under the binary collation: byte by byte. -/
def TextLt (a b : String) : Prop := bytes a < bytes b

instance (a b : String) : Decidable (TextLt a b) := inferInstanceAs (Decidable (bytes a < bytes b))

/-- `str::len`: the number of bytes, not of characters. -/
def len (s : String) : Nat := (bytes s).length

/-- `char::is_whitespace`: the code points with the property White_Space. -/
def is_whitespace (c : Char) : Bool :=
  (9 ≤ c.toNat ∧ c.toNat ≤ 13) ∨ c.toNat = 0x20 ∨ c.toNat = 0x85 ∨ c.toNat = 0xA0 ∨ c.toNat = 0x1680 ∨
    (0x2000 ≤ c.toNat ∧ c.toNat ≤ 0x200A) ∨ c.toNat = 0x2028 ∨ c.toNat = 0x2029 ∨ c.toNat = 0x202F ∨
    c.toNat = 0x205F ∨ c.toNat = 0x3000

/-- `str::trim`. -/
def trim (s : String) : String := String.ofList ((s.toList.dropWhile is_whitespace).rdropWhile is_whitespace)

/-- `str::split` at a character: one segment more than there are separators. -/
def split (separator : Char) (s : String) : List String := (s.toList.splitOn separator).map String.ofList

theorem bytes_injective {a b : String} (same : bytes a = bytes b) : a = b := by
  apply String.toByteArray_inj.mp
  apply ByteArray.ext
  exact Array.toList_inj.mp same

theorem textLt_irrefl (a : String) : ¬ TextLt a a := List.lt_irrefl (bytes a)

theorem TextLt.trans {a b c : String} (ab : TextLt a b) (bc : TextLt b c) : TextLt a c := List.lt_trans ab bc

theorem TextLt.asymm {a b : String} (ab : TextLt a b) : ¬ TextLt b a := fun ba => textLt_irrefl a (ab.trans ba)

theorem TextLt.trans_not_lt {a b c : String} (ab : TextLt a b) (cb : ¬ TextLt c b) : TextLt a c := by
  by_contra notLess
  exact cb (List.lt_of_le_of_lt (List.not_lt.mp notLess) ab)

theorem bytes_cons {c : Char} (ascii : c.toNat < 128) (l : List Char) :
    bytes (String.ofList (c :: l)) = c.toUInt8 :: bytes (String.ofList l) := by
  have size : c.utf8Size = 1 := by
    rw [Char.utf8Size_eq_one_iff]
    exact UInt32.le_iff_toNat_le.mpr (Nat.le_of_lt_succ ascii)
  unfold bytes
  rw [String.toByteArray_ofList, String.toByteArray_ofList, List.utf8Encode_cons, List.utf8Encode_singleton,
    String.utf8EncodeChar_eq_singleton size]
  simp only [ByteArray.toList_data_append, List.toList_data_toByteArray, List.singleton_append]
  rfl

theorem bytes_ascii {l : List Char} (ascii : ∀ c ∈ l, c.toNat < 128) : bytes (String.ofList l) = l.map Char.toUInt8 := by
  induction l with
  | nil => rfl
  | cons c l ih =>
    simp only [List.mem_cons, forall_eq_or_imp] at ascii
    rw [bytes_cons ascii.1, ih ascii.2, List.map_cons]

theorem len_ascii {l : List Char} (ascii : ∀ c ∈ l, c.toNat < 128) : len (String.ofList l) = l.length := by
  rw [len, bytes_ascii ascii, List.length_map]

/-- Every character is encoded, so that no text has more of them than bytes. -/
theorem length_le_len (s : String) : s.toList.length ≤ len s := by
  have encoded : ∀ l : List Char, l.length ≤ len (String.ofList l) := by
    intro l
    induction l with
    | nil => exact Nat.zero_le _
    | cons c l ih =>
      have size := c.utf8Size_pos
      have sum : len (String.ofList (c :: l)) = c.utf8Size + len (String.ofList l) := by
        simp only [len, bytes, String.toByteArray_ofList]
        rw [List.utf8Encode_cons, List.utf8Encode_singleton]
        simp
      rw [List.length_cons, sum]
      omega
  simpa using encoded s.toList

theorem byte_lt {c d : Char} (asciiC : c.toNat < 128) (asciiD : d.toNat < 128) (lt : c < d) :
    c.toUInt8 < d.toUInt8 := by
  have order : c.toNat < d.toNat := Char.lt_def.mp lt
  rw [UInt8.lt_iff_toNat_lt]
  simp only [Char.toUInt8, UInt32.toNat_toUInt8]
  show c.toNat % 256 < d.toNat % 256
  omega

/-- The first character decides, where both are ASCII. -/
theorem textLt_first {c d : Char} (asciiC : c.toNat < 128) (asciiD : d.toNat < 128) (lt : c < d) (x y : List Char) :
    TextLt (String.ofList (c :: x)) (String.ofList (d :: y)) := by
  unfold TextLt
  rw [bytes_cons asciiC, bytes_cons asciiD]
  exact List.cons_lt_cons_iff.mpr (.inl (byte_lt asciiC asciiD lt))

/-- On ASCII texts the byte order is the order of the characters. -/
theorem textLt_ascii {x y : List Char} (asciiX : ∀ c ∈ x, c.toNat < 128) (asciiY : ∀ c ∈ y, c.toNat < 128)
    (lt : x < y) : TextLt (String.ofList x) (String.ofList y) := by
  induction x generalizing y with
  | nil =>
    cases y with
    | nil => exact absurd lt (List.lt_irrefl [])
    | cons d y =>
      unfold TextLt
      rw [bytes_cons (asciiY d (List.mem_cons_self ..))]
      exact List.nil_lt_cons _ _
  | cons c x ih =>
    cases y with
    | nil => exact absurd lt (List.not_lt_nil _)
    | cons d y =>
      simp only [List.mem_cons, forall_eq_or_imp] at asciiX asciiY
      rcases List.cons_lt_cons_iff.mp lt with first | ⟨rfl, rest⟩
      · exact textLt_first asciiX.1 asciiY.1 first x y
      · unfold TextLt
        rw [bytes_cons asciiX.1, bytes_cons asciiX.1]
        exact List.cons_lt_cons_iff.mpr (.inr ⟨rfl, ih asciiX.2 asciiY.2 rest⟩)

/-! ### Trimming and splitting -/

theorem toList_trim (s : String) : (trim s).toList = (s.toList.dropWhile is_whitespace).rdropWhile is_whitespace := by
  simp [trim]

theorem mem_of_mem_trim {c : Char} {s : String} (member : c ∈ (trim s).toList) : c ∈ s.toList := by
  rw [toList_trim] at member
  exact (List.dropWhile_sublist _).mem ((List.rdropWhile_prefix _ _).sublist.mem member)

/-- What is left at the front by a trim stays there when the end is cut. -/
theorem dropWhile_rdropWhile {p : Char → Bool} (l : List Char) :
    ((l.dropWhile p).rdropWhile p).dropWhile p = (l.dropWhile p).rdropWhile p := by
  obtain ⟨cut, front⟩ := List.rdropWhile_prefix p (l.dropWhile p)
  cases kept : (l.dropWhile p).rdropWhile p with
  | nil => rfl
  | cons c rest =>
    rw [kept, List.cons_append] at front
    have first : p c ≠ true := by
      intro blank
      have same := List.dropWhile_idempotent p l
      rw [← front, List.dropWhile_cons_of_pos blank] at same
      have longer := congrArg List.length same
      have shorter := List.length_dropWhile_le p (rest ++ cut)
      simp only [List.length_cons] at longer
      omega
    exact List.dropWhile_cons_of_neg first

theorem trim_trim (s : String) : trim (trim s) = trim s := by
  apply String.toList_inj.mp
  rw [toList_trim, toList_trim, dropWhile_rdropWhile, List.rdropWhile_idempotent]

theorem trim_eq_self {s : String} (spaceless : ∀ c ∈ s.toList, is_whitespace c = false) : trim s = s := by
  have front : s.toList.dropWhile is_whitespace = s.toList := by
    refine List.dropWhile_eq_self_iff.mpr fun some => ?_
    simp [spaceless _ (List.getElem_mem some)]
  have back : s.toList.rdropWhile is_whitespace = s.toList := by
    refine List.rdropWhile_eq_self_iff.mpr fun some => ?_
    simp [spaceless _ (List.getLast_mem some)]
  rw [trim, front, back, String.ofList_toList]

theorem trim_leading {c : Char} (blank : is_whitespace c = true) (l : List Char) :
    trim (String.ofList (c :: l)) = trim (String.ofList l) := by
  simp [trim, blank]

theorem not_mem_of_mem_splitOn {a : Char} {l part : List Char} (member : part ∈ l.splitOn a) : a ∉ part := by
  induction l generalizing part with
  | nil =>
    rw [List.splitOn_nil, List.mem_singleton] at member
    simp [member]
  | cons c l ih =>
    rw [List.splitOn_cons_eq_if_modifyHead] at member
    by_cases hit : c = a
    · rw [if_pos (by simp [hit]), List.mem_cons] at member
      rcases member with rfl | later
      · simp
      · exact ih later
    · rw [if_neg (by simp [hit])] at member
      cases parts : l.splitOn a with
      | nil => exact absurd parts (List.splitOn_ne_nil a l)
      | cons head tail =>
        rw [parts, List.modifyHead_cons, List.mem_cons] at member
        have notHead : a ∉ head := ih (by simp [parts])
        rcases member with rfl | later
        · simp [Ne.symm hit, notHead]
        · exact ih (by simp [parts, later])

/-! ### Lists of names -/

/-- The segments of a text, trimmed, without the blank ones. -/
def segments (separator : Char) (s : String) : List String :=
  ((split separator s).map trim).filter (fun segment => !segment.isEmpty)

theorem segments_clean {separator : Char} {s name : String} (member : name ∈ segments separator s) :
    separator ∉ name.toList ∧ trim name = name ∧ name ≠ "" := by
  obtain ⟨trimmed, some⟩ := List.mem_filter.mp member
  obtain ⟨segment, part, rfl⟩ := List.mem_map.mp trimmed
  obtain ⟨chars, whole, rfl⟩ := List.mem_map.mp part
  refine ⟨?_, trim_trim _, by simpa using some⟩
  intro inside
  have before := mem_of_mem_trim inside
  rw [String.toList_ofList] at before
  exact not_mem_of_mem_splitOn whole before

/-- A blank before a text belongs to its first segment, which is trimmed. -/
theorem segments_leading {separator c : Char} (blank : is_whitespace c = true) (other : c ≠ separator) (l : List Char) :
    segments separator (String.ofList (c :: l)) = segments separator (String.ofList l) := by
  have trimmed : (split separator (String.ofList (c :: l))).map trim = (split separator (String.ofList l)).map trim := by
    unfold split
    rw [String.toList_ofList, String.toList_ofList, List.splitOn_cons_eq_if_modifyHead, if_neg (by simp [other])]
    cases l.splitOn separator with
    | nil => rfl
    | cons head tail => simp only [List.modifyHead_cons, List.map_cons, trim_leading blank]
  unfold segments
  rw [trimmed]

theorem segments_append {separator : Char} {s : String} (plain : separator ∉ s.toList) (l : List Char) :
    segments separator (String.ofList (s.toList ++ separator :: l)) =
      (if (trim s).isEmpty then [] else [trim s]) ++ segments separator (String.ofList l) := by
  unfold segments split
  rw [String.toList_ofList, String.toList_ofList, List.splitOn_append_cons_self_of_not_mem plain, List.map_cons,
    List.map_cons, String.ofList_toList, List.filter_cons]
  by_cases empty : (trim s).isEmpty = true
  · simp [empty]
  · simp [empty]

/-- A list of clean names is read back from its text with `", "` in between. -/
theorem segments_join {names : List String} (clean : ∀ name ∈ names, ',' ∉ name.toList ∧ trim name = name ∧ name ≠ "") :
    segments ',' (String.intercalate ", " names) = names := by
  induction names with
  | nil => decide
  | cons name names ih =>
    simp only [List.forall_mem_cons] at clean
    obtain ⟨⟨plain, trimmed, some⟩, rest⟩ := clean
    cases names with
    | nil =>
      rw [String.intercalate_singleton, segments, split, List.splitOn_eq_singleton plain]
      simp [trimmed, some]
    | cons next names =>
      have text : String.intercalate ", " (name :: next :: names) =
          String.ofList (name.toList ++ ',' :: ' ' :: (String.intercalate ", " (next :: names)).toList) := by
        rw [String.intercalate_cons_cons]
        apply String.toList_inj.mp
        simp
      rw [text, segments_append plain, segments_leading (by decide) (by decide), String.ofList_toList, ih rest, trimmed]
      simp [some]

end InviteSystem.Text
