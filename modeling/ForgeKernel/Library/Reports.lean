import Mathlib.Algebra.GroupWithZero.Nat
import Mathlib.Data.List.Basic
import Mathlib.Data.Nat.Basic

/-!
# Report lines

A report line is a sequence of literal texts, decimal and hexadecimal numerals and words.  When
every numeral and word is followed by a character that cannot belong to it, the line can be read
back knowing only its shape.
-/

namespace Reports

/-! ## Hexadecimal numerals -/

/-- Upper-case hexadecimal digits. -/
def hexDigits : List Char :=
  "0123456789ABCDEF".toList

/-- Digit of a value below sixteen. -/
def hexDigit (value : Nat) : Char :=
  hexDigits.getD value '0'

/-- Numeral of a fixed number of digits. -/
def hexNumeral : Nat → Nat → List Char
  | 0, _ => []
  | width + 1, value => hexNumeral width (value / 16) ++ [hexDigit (value % 16)]

/-- Value of a numeral. -/
def hexValue (digits : List Char) : Nat :=
  digits.foldl (fun value digit => 16 * value + hexDigits.idxOf digit) 0

/-- The position of a digit in the table is its value. -/
theorem idxOf_hexDigit : ∀ value < 16, hexDigits.idxOf (hexDigit value) = value := by
  decide

/-- A hexadecimal numeral fills its width exactly. -/
theorem hexNumeral_length (width value : Nat) : (hexNumeral width value).length = width := by
  induction width generalizing value with
  | zero => rfl
  | succ width inductionHypothesis => simp [hexNumeral, inductionHypothesis]

/-- Reading a numeral back gives the number, when the width is enough for it. -/
theorem hexValue_hexNumeral
    {width value : Nat} (small : value < 16 ^ width) :
    hexValue (hexNumeral width value) = value := by
  induction width generalizing value with
  | zero =>
      obtain rfl : value = 0 := by simpa using small
      rfl
  | succ width inductionHypothesis =>
      have higher : value / 16 < 16 ^ width := by
        rw [Nat.pow_succ] at small
        omega
      have value_hexNumeral := inductionHypothesis higher
      unfold hexValue at value_hexNumeral ⊢
      rw [hexNumeral, List.foldl_append, value_hexNumeral, List.foldl_cons, List.foldl_nil,
        idxOf_hexDigit _ (Nat.mod_lt value (by decide))]
      omega

/-! ## Lines -/

/-- A part of a line. -/
inductive Item
  | literal (text : List Char)
  | decimal (value : Nat)
  /-- Eight digits after `0x`. -/
  | hexadecimal (value : Nat)
  /-- Upper-case letters. -/
  | word (letters : List Char)
  deriving DecidableEq, Repr

/-- A part of a line without its value. -/
inductive Shape
  | literal (text : List Char)
  | decimal
  | hexadecimal
  | word
  deriving DecidableEq, Repr

/-- Forget the value. -/
def Item.shape : Item → Shape
  | .literal text => .literal text
  | .decimal _ => .decimal
  | .hexadecimal _ => .hexadecimal
  | .word _ => .word

/-- Text of an item: the canonical numeral of its value. -/
def Item.text : Item → List Char
  | .literal text => text
  | .decimal value => Nat.toDigits 10 value
  | .hexadecimal value => ['0', 'x'] ++ hexNumeral 8 value
  | .word letters => letters

/-- Text of a line. -/
def lineText (items : List Item) : List Char :=
  items.flatMap Item.text

/-- Read a line of a known shape. -/
def parse : List Shape → List Char → Option (List Item)
  | [], [] => some []
  | [], _ :: _ => none
  | .literal text :: shapes, input =>
      if input.take text.length = text then
        (parse shapes (input.drop text.length)).map (.literal text :: ·)
      else none
  | .decimal :: shapes, input =>
      let digits := input.takeWhile Char.isDigit
      if digits = [] then none
      else
        (parse shapes (input.dropWhile Char.isDigit)).map
          (.decimal (Nat.ofDigitChars 10 digits 0) :: ·)
  | .hexadecimal :: shapes, input =>
      let digits := (input.drop 2).take 8
      if input.take 2 = ['0', 'x'] ∧ digits.length = 8 ∧ digits.all (· ∈ hexDigits) then
        (parse shapes (input.drop 10)).map (.hexadecimal (hexValue digits) :: ·)
      else none
  | .word :: shapes, input =>
      (parse shapes (input.dropWhile Char.isUpper)).map
        (.word (input.takeWhile Char.isUpper) :: ·)

/-- The text that follows cannot continue a part made of such characters. -/
def Stops (continues : Char → Bool) (following : List Char) : Prop :=
  ∀ next ∈ following.head?, continues next = false

/-- What an item has to satisfy in front of `following`: values fit ten decimal or eight hexadecimal
digits, and the item ends where the following text starts. -/
def Item.Fits (following : List Char) : Item → Prop
  | .literal _ => True
  | .decimal value => value < 10 ^ 10 ∧ Stops Char.isDigit following
  | .hexadecimal value => value < 16 ^ 8
  | .word letters => (∀ letter ∈ letters, letter.isUpper = true) ∧ Stops Char.isUpper following

/-- Every item fits. -/
def WellFormed : List Item → Prop
  | [] => True
  | item :: items => item.Fits (lineText items) ∧ WellFormed items

/-- A text in front of which a numeral or a word ends. -/
def Shape.stops (continues : Char → Bool) : List Shape → Bool
  | .literal (next :: _) :: _ => !continues next
  | _ => false

/-- Numerals and words are followed by a literal that ends them. -/
def delimited : List Shape → Bool
  | [] => true
  | .literal _ :: shapes => delimited shapes
  | .hexadecimal :: shapes => delimited shapes
  | .decimal :: shapes => Shape.stops Char.isDigit shapes && delimited shapes
  | .word :: shapes => Shape.stops Char.isUpper shapes && delimited shapes

/-- The value of an item has a numeral or a word of the right kind. -/
def Item.Small : Item → Prop
  | .literal _ => True
  | .decimal value => value < 10 ^ 10
  | .hexadecimal value => value < 16 ^ 8
  | .word letters => ∀ letter ∈ letters, letter.isUpper = true

/-- A line that starts with a filled literal is not empty. -/
theorem lineText_ne_nil {text : List Char} (filled : text ≠ []) (items : List Item) :
    lineText (.literal text :: items) ≠ [] :=
  List.append_ne_nil_of_left_ne_nil filled _

theorem lineText_cons (item : Item) (items : List Item) :
    lineText (item :: items) = item.text ++ lineText items :=
  List.flatMap_cons

/-- Whether a scan stops at the start of a line depends on the shapes of its items only. -/
theorem stops_lineText
    {continues : Char → Bool} {items : List Item}
    (stops : Shape.stops continues (items.map Item.shape) = true) :
    Stops continues (lineText items) := by
  cases items with
  | nil => cases stops
  | cons item items =>
      cases item with
      | literal text =>
          cases text with
          | nil => cases stops
          | cons next rest =>
              intro character head
              obtain rfl := Option.some.inj head
              simpa [Shape.stops, Item.shape] using stops
      | decimal value => cases stops
      | hexadecimal value => cases stops
      | word letters => cases stops

/-- Whether a line can be read back is decided by its shape. -/
theorem wellFormed_of_delimited
    {items : List Item} (delimits : delimited (items.map Item.shape) = true)
    (small : ∀ item ∈ items, item.Small) : WellFormed items := by
  induction items with
  | nil => exact trivial
  | cons item items inductionHypothesis =>
      have fits := small item (by simp)
      have rest : delimited (items.map Item.shape) = true → WellFormed items := fun delimits =>
        inductionHypothesis delimits fun other present => small other (by simp [present])
      cases item with
      | literal text => exact ⟨trivial, rest delimits⟩
      | decimal value =>
          obtain ⟨stops, delimits⟩ := Bool.and_eq_true_iff.mp delimits
          exact ⟨⟨fits, stops_lineText stops⟩, rest delimits⟩
      | hexadecimal value => exact ⟨fits, rest delimits⟩
      | word letters =>
          obtain ⟨stops, delimits⟩ := Bool.and_eq_true_iff.mp delimits
          exact ⟨⟨fits, stops_lineText stops⟩, rest delimits⟩

/-- A scan over a part that continues, followed by something at which it stops, takes exactly
the part. -/
theorem takeWhile_append_of_stops
    {continues : Char → Bool} {part following : List Char}
    (all : ∀ character ∈ part, continues character = true)
    (stops : Stops continues following) :
    (part ++ following).takeWhile continues = part ∧
      (part ++ following).dropWhile continues = following := by
  have ends : following.takeWhile continues = [] ∧ following.dropWhile continues = following := by
    cases following with
    | nil => exact ⟨rfl, rfl⟩
    | cons next rest =>
        have different : continues next = false := stops next rfl
        simp [different]
  rw [List.takeWhile_append_of_pos all, List.dropWhile_append_of_pos all, ends.1, ends.2]
  exact ⟨List.append_nil part, rfl⟩

/-- Numerals contain digits of the table only. -/
theorem mem_hexDigits_of_mem_hexNumeral
    {width value : Nat} {digit : Char} (present : digit ∈ hexNumeral width value) :
    digit ∈ hexDigits := by
  induction width generalizing value with
  | zero => exact absurd present List.not_mem_nil
  | succ width inductionHypothesis =>
      rcases List.mem_append.mp present with earlier | last
      · exact inductionHypothesis earlier
      · rw [List.mem_singleton.mp last]
        have listed : ∀ value < 16, hexDigit value ∈ hexDigits := by decide
        exact listed _ (Nat.mod_lt value (by decide))

/-- Reading a line back recovers every value. -/
theorem parse_lineText {items : List Item} (wellFormed : WellFormed items) :
    parse (items.map Item.shape) (lineText items) = some items := by
  induction items with
  | nil => rfl
  | cons item items inductionHypothesis =>
      obtain ⟨fits, rest⟩ := wellFormed
      have parsed := inductionHypothesis rest
      rw [lineText_cons, List.map_cons]
      cases item with
      | literal text =>
          simp [Item.shape, Item.text, parse, parsed]
      | decimal value =>
          have numeral : ∀ digit ∈ Nat.toDigits 10 value, digit.isDigit = true :=
            fun _ present => Nat.isDigit_of_mem_toDigits (by decide) (by decide) present
          obtain ⟨digits, remaining⟩ := takeWhile_append_of_stops numeral fits.2
          simp [Item.shape, Item.text, parse, digits, remaining, parsed]
      | hexadecimal value =>
          have length := hexNumeral_length 8 value
          have digits : ((['0', 'x'] ++ hexNumeral 8 value ++ lineText items).drop 2).take 8 =
              hexNumeral 8 value := by
            change (hexNumeral 8 value ++ lineText items).take 8 = _
            rw [List.take_append_of_le_length (by omega), List.take_of_length_le (by omega)]
          have remaining : (['0', 'x'] ++ hexNumeral 8 value ++ lineText items).drop 10 =
              lineText items := by
            rw [List.drop_append_of_le_length (by simp [length])]
            simp [List.drop_of_length_le, length]
          simp only [Item.shape, Item.text, parse, digits, remaining, parsed]
          have known : (hexNumeral 8 value).all (· ∈ hexDigits) = true :=
            List.all_eq_true.mpr fun _ present =>
              decide_eq_true (mem_hexDigits_of_mem_hexNumeral present)
          rw [if_pos ⟨rfl, length, known⟩]
          simp [hexValue_hexNumeral fits]
      | word letters =>
          obtain ⟨taken, remaining⟩ := takeWhile_append_of_stops fits.1 fits.2
          simp [Item.shape, Item.text, parse, taken, remaining, parsed]

/-- Longest text of an item. -/
def Item.width : Item → Nat
  | .literal text => text.length
  | .decimal _ => 10
  | .hexadecimal _ => 10
  | .word letters => letters.length

/-- A line is no longer than the widths of its items together. -/
theorem lineText_length_le {items : List Item} (wellFormed : WellFormed items) :
    (lineText items).length ≤ (items.map Item.width).sum := by
  induction items with
  | nil => exact le_rfl
  | cons item items inductionHypothesis =>
      obtain ⟨fits, rest⟩ := wellFormed
      have single : item.text.length ≤ item.width := by
        cases item with
        | literal text => exact le_rfl
        | decimal value =>
            change (Nat.toDigits 10 value).length ≤ 10
            exact (Nat.length_toDigits_le_iff (by decide) (by decide)).mpr fits.1
        | hexadecimal value => simp [Item.text, Item.width, hexNumeral_length]
        | word letters => exact le_rfl
      rw [lineText_cons, List.length_append, List.map_cons, List.sum_cons]
      exact Nat.add_le_add single (inductionHypothesis rest)

end Reports
