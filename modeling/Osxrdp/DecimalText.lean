import Mathlib.Data.List.DropRight

/-! Unsigned decimal numbers as text: how they are printed, which texts read
back as a number below a bound, and lists of numbers one to a line. -/
namespace Osxrdp.DecimalText

abbrev Text := List Char

/-- Decimal digits. -/
def print (n : Nat) : Text := Nat.toDigits 10 n

/-- An optional plus sign, then digits only, with a value below the bound. -/
def parse (bound : Nat) (text : Text) : Option Nat :=
  let digits := match text with
    | '+' :: rest => rest
    | _ => text
  if digits ≠ [] ∧ digits.all Char.isDigit ∧ Nat.ofDigitChars 10 digits 0 < bound then
    some (Nat.ofDigitChars 10 digits 0)
  else none

/-- The Unicode `White_Space` property. -/
def isWhitespace (c : Char) : Bool :=
  let n := c.toNat
  (0x9 ≤ n && n ≤ 0xD) || n == 0x20 || n == 0x85 || n == 0xA0 || n == 0x1680 ||
    (0x2000 ≤ n && n ≤ 0x200A) || n == 0x2028 || n == 0x2029 || n == 0x202F || n == 0x205F ||
    n == 0x3000

/-- Without the blanks around it. -/
def trim (text : Text) : Text := (text.dropWhile isWhitespace).rdropWhile isWhitespace

/-- The text with white space in front of it and behind it. -/
def Surrounded (text padded : Text) : Prop :=
  ∃ front back, padded = front ++ text ++ back ∧
    (∀ c ∈ front, isWhitespace c = true) ∧ ∀ c ∈ back, isWhitespace c = true

/-- The parts between white space, without the empty ones. -/
def splitWhitespace (text : Text) : List Text :=
  (text.splitOnP isWhitespace).filter fun word => !word.isEmpty

/-- The lines of a text. -/
def lines (text : Text) : List Text := text.splitOn '\n'

/-- Lines with breaks between them. -/
def unlines (lines : List Text) : Text := ['\n'].intercalate lines

theorem print_digits {n : Nat} {c : Char} (member : c ∈ print n) : c.isDigit = true :=
  Nat.isDigit_of_mem_toDigits (by decide) (by decide) member

theorem print_ne_nil (n : Nat) : print n ≠ [] := by
  unfold print
  rw [Nat.toDigits_eq_if (by decide)]
  split <;> simp

/-- A digit is neither a sign, a line end nor white space. -/
theorem digit_plain {c : Char} (digit : c.isDigit = true) :
    c ≠ '+' ∧ c ≠ '\n' ∧ isWhitespace c = false := by
  have range : 48 ≤ c.toNat ∧ c.toNat ≤ 57 := by
    simpa [Char.isDigit, UInt32.le_iff_toNat_le] using digit
  refine ⟨?_, ?_, ?_⟩
  · rintro rfl
    exact absurd digit (by decide)
  · rintro rfl
    exact absurd digit (by decide)
  · simp only [isWhitespace, Bool.or_eq_false_iff, Bool.and_eq_false_iff, decide_eq_false_iff_not,
      beq_eq_false_iff_ne]
    omega

/-- Every number below the bound reads back from its own text. -/
theorem parse_print {bound n : Nat} (small : n < bound) : parse bound (print n) = some n := by
  have unsigned : (match print n with
      | '+' :: rest => rest
      | _ => print n) = print n := by
    split
    · rename_i rest signed
      have : '+' ∈ print n := signed ▸ List.mem_cons_self
      exact absurd rfl (digit_plain (print_digits this)).1
    · rfl
  have value : Nat.ofDigitChars 10 (print n) 0 = n := Nat.ofDigitChars_ten_toDigits
  have digits : (print n).all Char.isDigit = true :=
    List.all_eq_true.mpr fun c member => print_digits member
  simp only [parse, unsigned, value]
  exact if_pos ⟨print_ne_nil n, digits, small⟩

private theorem digits_of_guarded {bound n : Nat} {digits : Text}
    (parsed : (if digits ≠ [] ∧ digits.all Char.isDigit ∧ Nat.ofDigitChars 10 digits 0 < bound then
      some (Nat.ofDigitChars 10 digits 0) else none) = some n) :
    digits ≠ [] ∧ ∀ c ∈ digits, c ≠ '\n' ∧ isWhitespace c = false := by
  by_cases number : digits ≠ [] ∧ digits.all Char.isDigit ∧ Nat.ofDigitChars 10 digits 0 < bound
  · exact ⟨number.1, fun c member => (digit_plain (List.all_eq_true.mp number.2.1 c member)).2⟩
  · rw [if_neg number] at parsed
    cases parsed

/-- What reads as a number is not empty, and has neither line ends nor blanks. -/
theorem plain_of_parse {bound n : Nat} {text : Text} (parsed : parse bound text = some n) :
    text ≠ [] ∧ ∀ c ∈ text, c ≠ '\n' ∧ isWhitespace c = false := by
  unfold parse at parsed
  dsimp only at parsed
  split at parsed
  · rename_i rest
    refine ⟨List.cons_ne_nil _ _, fun c member => ?_⟩
    obtain rfl | among := List.mem_cons.mp member
    · exact ⟨by decide, by decide⟩
    · exact (digits_of_guarded parsed).2 c among
  · exact digits_of_guarded parsed

/-- What is parsed is below the bound. -/
theorem parse_lt {bound n : Nat} {text : Text} (parsed : parse bound text = some n) : n < bound := by
  unfold parse at parsed
  dsimp only at parsed
  split at parsed
  all_goals
    split at parsed
    · rename_i number
      cases parsed
      exact number.2.2
    · cases parsed

theorem surrounded_self (text : Text) : Surrounded text text :=
  ⟨[], [], by simp, List.forall_mem_nil _, List.forall_mem_nil _⟩

/-- Blanks may be added behind. -/
theorem surrounded_append_of_blank {back : Text} (blank : ∀ c ∈ back, isWhitespace c = true) (text : Text) :
    Surrounded text (text ++ back) :=
  ⟨[], back, by simp, List.forall_mem_nil _, blank⟩

/-- Trimming takes white space from both ends. -/
theorem surrounded_trim (text : Text) : Surrounded (trim text) text := by
  refine ⟨text.takeWhile isWhitespace, (text.dropWhile isWhitespace).rtakeWhile isWhitespace, ?_, ?_, ?_⟩
  · rw [trim, List.append_assoc, List.rdropWhile_append_rtakeWhile, List.takeWhile_append_dropWhile]
  · exact fun c member => List.mem_takeWhile_imp member
  · exact fun c member => List.mem_rtakeWhile_imp member

/-- Trimming leaves a text that neither starts nor ends blank, whatever white
space there is around it. -/
theorem trim_of_surrounded {text padded : Text} (filled : text ≠ [])
    (front : ∀ c ∈ text.head?, isWhitespace c = false)
    (back : ∀ c ∈ text.getLast?, isWhitespace c = false)
    (surrounded : Surrounded text padded) : trim padded = text := by
  obtain ⟨leading, trailing, rfl, blankLeading, blankTrailing⟩ := surrounded
  have starts : ∀ rest, (text ++ rest).dropWhile isWhitespace = text ++ rest := by
    intro rest
    cases text with
    | nil => exact absurd rfl filled
    | cons c text => simp [front c (by simp)]
  rw [trim, List.append_assoc, List.dropWhile_append_of_pos blankLeading, starts]
  induction trailing using List.reverseRecOn with
  | nil =>
    rw [List.append_nil]
    cases text using List.reverseRecOn with
    | nil => rfl
    | append_singleton rest c => exact List.rdropWhile_concat_neg _ _ _ (by simp [back c (by simp)])
  | append_singleton trailing c ih =>
    rw [← List.append_assoc, List.rdropWhile_concat_pos _ _ _ (blankTrailing c (by simp))]
    exact ih fun c member => blankTrailing c (List.mem_append_left _ member)

private theorem unlines_cons (text next : Text) (rest : List Text) :
    unlines (text :: next :: rest) = text ++ '\n' :: unlines (next :: rest) := by
  simp [unlines, List.intercalate]

private theorem unlines_ne_nil {texts : List Text} (nonempty : texts ≠ [])
    (filled : ∀ text ∈ texts, text ≠ []) :
    unlines texts ≠ [] := by
  cases texts with
  | nil => exact absurd rfl nonempty
  | cons text rest =>
    cases rest with
    | nil => simpa [unlines] using filled text (by simp)
    | cons _ _ => simp [unlines_cons]

private theorem unlines_ends {texts : List Text} (filled : ∀ text ∈ texts, text ≠ [])
    (plain : ∀ text ∈ texts, ∀ c ∈ text, isWhitespace c = false) :
    (∀ c ∈ (unlines texts).head?, isWhitespace c = false) ∧
      ∀ c ∈ (unlines texts).getLast?, isWhitespace c = false := by
  induction texts with
  | nil => simp [unlines, List.intercalate]
  | cons text rest ih =>
    have front : ∀ c ∈ text.head?, isWhitespace c = false := fun c first =>
      plain text (by simp) c (List.mem_of_head? first)
    cases rest with
    | nil =>
      simp only [unlines, List.intercalate_singleton]
      exact ⟨front, fun c last => plain text (by simp) c (List.mem_of_getLast? last)⟩
    | cons next rest =>
      rw [unlines_cons]
      have tail := ih (fun text member => filled text (List.mem_cons_of_mem _ member))
        fun text member => plain text (List.mem_cons_of_mem _ member)
      have more := unlines_ne_nil (List.cons_ne_nil next rest) fun text member =>
        filled text (List.mem_cons_of_mem _ member)
      constructor
      · rwa [List.head?_append_of_ne_nil _ (filled text (by simp))]
      · rw [List.getLast?_append_of_ne_nil _ (by simp), List.getLast?_cons_of_ne_nil more]
        exact tail.2

/-- Lines without blanks, none of them empty, are read back, whatever white
space there is around them. -/
theorem lines_trim_of_surrounded {texts : List Text} {padded : Text} (nonempty : texts ≠ [])
    (filled : ∀ text ∈ texts, text ≠ [])
    (plain : ∀ text ∈ texts, ∀ c ∈ text, c ≠ '\n' ∧ isWhitespace c = false)
    (surrounded : Surrounded (unlines texts) padded) : lines (trim padded) = texts := by
  have ends := unlines_ends filled fun text member c inside => (plain text member c inside).2
  rw [trim_of_surrounded (unlines_ne_nil nonempty filled) ends.1 ends.2 surrounded]
  exact List.splitOn_intercalate _ (fun text member inside => (plain text member _ inside).1 rfl) nonempty

/-- Numbers printed one to a line are read back as those lines. -/
theorem lines_trim_unlines_print {numbers : List Nat} (nonempty : numbers ≠ []) :
    lines (trim (unlines (numbers.map print))) = numbers.map print := by
  refine lines_trim_of_surrounded (by simpa using nonempty) ?_ ?_ (surrounded_self _)
  · intro text member
    obtain ⟨n, _, rfl⟩ := List.mem_map.mp member
    exact print_ne_nil n
  · intro text member c inside
    obtain ⟨n, _, rfl⟩ := List.mem_map.mp member
    exact (digit_plain (print_digits inside)).2

section Words
variable {first second text padded : Text}

/-- Words are split at a blank. -/
theorem splitWhitespace_append_cons {c : Char} (blank : isWhitespace c = true) (first second : Text) :
    splitWhitespace (first ++ c :: second) = splitWhitespace first ++ splitWhitespace second := by
  unfold splitWhitespace
  rw [List.splitOnP_append_cons first second blank, List.filter_append]

theorem splitWhitespace_blank_append {front : Text} (blank : ∀ c ∈ front, isWhitespace c = true)
    (text : Text) : splitWhitespace (front ++ text) = splitWhitespace text := by
  induction front with
  | nil => rfl
  | cons c front ih =>
    have head := splitWhitespace_append_cons (blank c List.mem_cons_self) [] (front ++ text)
    simp only [List.nil_append] at head
    rw [List.cons_append, head, ih fun c member => blank c (List.mem_cons_of_mem _ member)]
    simp [splitWhitespace]

theorem splitWhitespace_append_blank {back : Text} (blank : ∀ c ∈ back, isWhitespace c = true)
    (text : Text) : splitWhitespace (text ++ back) = splitWhitespace text := by
  cases back with
  | nil => rw [List.append_nil]
  | cons c back =>
    have rest := splitWhitespace_blank_append (fun c member => blank c (List.mem_cons_of_mem _ member)) []
    rw [List.append_nil] at rest
    rw [splitWhitespace_append_cons (blank c List.mem_cons_self), rest]
    simp [splitWhitespace]

/-- Blanks around a text are no words. -/
theorem splitWhitespace_of_surrounded (surrounded : Surrounded text padded) :
    splitWhitespace padded = splitWhitespace text := by
  obtain ⟨front, back, rfl, blankFront, blankBack⟩ := surrounded
  rw [splitWhitespace_append_blank blankBack, splitWhitespace_blank_append blankFront]

/-- A text is its lines. -/
theorem unlines_lines (text : Text) : unlines (lines text) = text :=
  List.intercalate_splitOn '\n'

@[simp] theorem splitWhitespace_trim (text : Text) : splitWhitespace (trim text) = splitWhitespace text :=
  (splitWhitespace_of_surrounded (surrounded_trim text)).symm

/-- A text without blanks is a word. -/
theorem splitWhitespace_word (filled : text ≠ []) (plain : ∀ c ∈ text, isWhitespace c = false) :
    splitWhitespace text = [text] := by
  unfold splitWhitespace
  rw [List.splitOnP_eq_singleton plain]
  simp [filled]

/-- A printed number is a word. -/
theorem splitWhitespace_print (n : Nat) : splitWhitespace (print n) = [print n] :=
  splitWhitespace_word (print_ne_nil n) fun _ member => (digit_plain (print_digits member)).2.2

end Words

end Osxrdp.DecimalText
