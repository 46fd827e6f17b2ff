import ForgeKernel.Library.Reports
import ForgeKernel.Model.Monitor

/-!
# Complete and decodable report lines

Every report line fits its buffer whatever the reported values are, and reading it back recovers
them.
-/

namespace ForgeKernel

open Reports

/-! ## Appending to the buffer -/

/-- One character and the terminator behind it. -/
def Line.push (line : Line) (value : Char) : Line where
  bytes := Function.update (Function.update line.bytes line.length.toNat value)
    (line.length + 1).toNat '\x00'
  length := line.length + 1

/-- A whole text. -/
def Line.extend (line : Line) (text : List Char) : Line :=
  text.foldl Line.push line

theorem Line.extend_append (line : Line) (first second : List Char) :
    line.extend (first ++ second) = (line.extend first).extend second :=
  List.foldl_append

/-- A line that holds `text`, over the old contents `bytes`. -/
structure Line.Holds (line : Line) (bytes : Nat → Char) (text : List Char) : Prop where
  length : line.length.toNat = text.length
  inside : ∀ offset (small : offset < text.length), line.bytes offset = text[offset]
  terminated : line.bytes text.length = '\x00'
  beyond : ∀ offset, text.length < offset → line.bytes offset = bytes offset

theorem Line.Holds.start (bytes : Nat → Char) : (Line.start bytes).Holds bytes [] where
  length := rfl
  inside _ impossible := absurd impossible (Nat.not_lt_zero _)
  terminated := Function.update_self 0 _ bytes
  beyond _ positive := Function.update_of_ne (Nat.pos_iff_ne_zero.mp positive) _ _

/-- A line with room holds its text and one more character. -/
theorem Line.Holds.push
    {line : Line} {bytes : Nat → Char} {text : List Char} (holds : line.Holds bytes text)
    (fits : text.length < 192) (value : Char) :
    (line.push value).Holds bytes (text ++ [value]) := by
  have next : (line.length + 1).toNat = text.length + 1 := by
    rw [BitVec.toNat_add, holds.length]
    change (text.length + 1) % 2 ^ 32 = _
    omega
  have size : (text ++ [value]).length = text.length + 1 := List.length_append
  constructor
  · rw [size]
    exact next
  · intro offset small
    change Function.update (Function.update line.bytes line.length.toNat value)
      (line.length + 1).toNat '\x00' offset = _
    rw [next, holds.length, Function.update_of_ne (by omega)]
    rcases Nat.lt_or_ge offset text.length with earlier | last
    · rw [Function.update_of_ne (by omega), List.getElem_append_left earlier]
      exact holds.inside offset earlier
    · obtain rfl : offset = text.length := by omega
      rw [Function.update_self]
      simp
  · rw [size]
    change Function.update (Function.update line.bytes line.length.toNat value)
      (line.length + 1).toNat '\x00' (text.length + 1) = _
    rw [next, Function.update_self]
  · intro offset further
    rw [size] at further
    change Function.update (Function.update line.bytes line.length.toNat value)
      (line.length + 1).toNat '\x00' offset = _
    rw [next, holds.length, Function.update_of_ne (by omega), Function.update_of_ne (by omega)]
    exact holds.beyond offset (by omega)

/-- The text of a line that is built from nothing. -/
theorem Line.extend_holds
    (bytes : Nat → Char) (text : List Char) (fits : text.length < 192) :
    ((Line.start bytes).extend text).Holds bytes text := by
  induction text using List.reverseRecOn with
  | nil => exact .start bytes
  | append_singleton text value inductionHypothesis =>
      rw [List.length_append, List.length_singleton] at fits
      rw [Line.extend_append]
      exact (inductionHypothesis (by omega)).push (by omega) value

theorem Line.Holds.text_eq
    {line : Line} {bytes : Nat → Char} {text : List Char} (holds : line.Holds bytes text) :
    line.text = text := by
  unfold Line.text
  rw [holds.length]
  refine List.ext_getElem (by simp) ?_
  intro offset small bound
  rw [List.getElem_map, List.getElem_range]
  exact holds.inside offset bound

theorem Line.extend_length
    {line : Line} {text : List Char} (fits : line.length.toNat + text.length < 192) :
    (line.extend text).length.toNat = line.length.toNat + text.length := by
  induction text generalizing line with
  | nil => rfl
  | cons value text inductionHypothesis =>
      rw [List.length_cons] at fits
      have next : (line.push value).length.toNat = line.length.toNat + 1 := by
        change (line.length + 1).toNat = _
        rw [BitVec.toNat_add]
        change (line.length.toNat + 1) % 2 ^ 32 = _
        omega
      have longer : ((line.push value).extend text).length.toNat =
          (line.push value).length.toNat + text.length := inductionHypothesis (by omega)
      change ((line.push value).extend text).length.toNat = _
      rw [longer, next, List.length_cons]
      omega

/-! ## What each builder appends -/

/-- The builder appends exactly `text` to every line that has room for it. -/
def Appends (append : LineAppend) (text : List Char) : Prop :=
  ∀ line : Line, line.length.toNat + text.length < 192 → append line = (line.extend text, true)

theorem appends_char (value : Char) : Appends (releaseLineAppendChar value) [value] := by
  intro line fits
  rw [List.length_singleton] at fits
  unfold releaseLineAppendChar
  rw [if_neg]
  · rfl
  · rw [BitVec.le_def]
    change ¬191 ≤ line.length.toNat
    omega

/-- Appends joined by `&&` append their texts one after another. -/
theorem appends_all
    {appends : List LineAppend} {texts : List (List Char)}
    (each : List.Forall₂ Appends appends texts) :
    Appends (lineAppendAll appends) texts.flatten := by
  induction each with
  | nil => exact fun _ _ => rfl
  | @cons append text appends texts first _ inductionHypothesis =>
      intro line fits
      rw [List.flatten_cons, List.length_append] at fits
      have rest := inductionHypothesis (line.extend text) (by
        rw [Line.extend_length (by omega)]
        omega)
      rw [lineAppendAll, first line (by omega), List.flatten_cons, Line.extend_append]
      exact rest

/-- A chain of characters appends them in order. -/
theorem appends_chars (text : List Char) :
    Appends (lineAppendAll (text.map releaseLineAppendChar)) text := by
  have each :
      List.Forall₂ Appends (text.map releaseLineAppendChar) (text.map fun value => [value]) :=
    List.forall₂_map_left_iff.mpr (List.forall₂_map_right_iff.mpr
      (List.forall₂_same.mpr fun value _ => appends_char value))
  have joined := appends_all each
  rwa [← List.flatMap_def, List.flatMap_singleton'] at joined

theorem appends_text (text : String) : Appends (releaseLineAppendText text) text.toList :=
  appends_chars text.toList

/-! ## Numerals -/

theorem ofNat_digit : ∀ digit < 10, Char.ofNat ('0'.toNat + digit) = Nat.digitChar digit := by
  decide

/-- The digit array holds the decimal numeral backwards. -/
theorem releaseDecimalDigits_reverse
    (room : Nat) {value : Word} (positive : 0 < value.toNat) (fits : value.toNat < 10 ^ room) :
    (releaseDecimalDigits room value).reverse = Nat.toDigits 10 value.toNat := by
  induction room generalizing value with
  | zero =>
      rw [Nat.pow_zero] at fits
      omega
  | succ room inductionHypothesis =>
      have nonzero : value ≠ 0 := by
        rintro rfl
        exact absurd positive (lt_irrefl 0)
      have digit : (value % 10).toNat = value.toNat % 10 := BitVec.toNat_umod
      have higher : (value / 10).toNat = value.toNat / 10 := BitVec.toNat_udiv
      rw [releaseDecimalDigits, if_neg nonzero, List.reverse_cons, digit,
        ofNat_digit _ (Nat.mod_lt _ (by decide)), Nat.toDigits_eq_if (by decide)]
      split
      · rename_i small
        have zero : value / 10 = 0 := by
          apply BitVec.toNat_injective
          rw [higher]
          exact Nat.div_eq_of_lt small
        have ended : releaseDecimalDigits room 0 = [] := by
          cases room <;> rfl
        rw [zero, ended, Nat.mod_eq_of_lt small]
        rfl
      · rw [Nat.pow_succ] at fits
        rw [inductionHypothesis (by omega) (by omega), higher]

/-- `fr_release_line_append_u32` appends the decimal numeral. -/
theorem appends_u32 (value : Word) :
    Appends (releaseLineAppendU32 value) (Item.decimal value.toNat).text := by
  unfold releaseLineAppendU32
  split
  · rename_i zero
    rw [zero]
    exact appends_char '0'
  · rename_i nonzero
    have positive : 0 < value.toNat :=
      Nat.pos_of_ne_zero fun zero => nonzero (BitVec.toNat_injective zero)
    have bound := value.isLt
    have numeral := releaseDecimalDigits_reverse 10 positive (by omega)
    rw [numeral]
    exact appends_chars _

/-- A digit that is shifted out and masked is a digit of the number. -/
theorem shifted_digit (value : Word) (shift : Nat) :
    ((value >>> shift) &&& 0xF).toNat = value.toNat / 2 ^ shift % 16 := by
  rw [BitVec.toNat_and, BitVec.toNat_ushiftRight, Nat.shiftRight_eq_div_pow]
  exact Nat.and_two_pow_sub_one_eq_mod _ 4

/-- The eight shifted digits are the hexadecimal numeral. -/
theorem releaseHexShifts_digits (value : Word) :
    releaseHexShifts.map (fun shift =>
      releaseHexDigits.getD ((value >>> shift) &&& 0xF).toNat '\x00') =
      hexNumeral 8 value.toNat := by
  have digit : ∀ shift, releaseHexDigits.getD ((value >>> shift) &&& 0xF).toNat '\x00' =
      hexDigit (value.toNat / 2 ^ shift % 16) := by
    intro shift
    have listed : ∀ index < 16, releaseHexDigits.getD index '\x00' = hexDigit index := by decide
    rw [shifted_digit]
    exact listed _ (Nat.mod_lt _ (by decide))
  simp only [digit]
  simp only [releaseHexShifts, hexNumeral, List.map_cons, List.map_nil, List.nil_append,
    List.cons_append, Nat.div_div_eq_div_mul, Nat.reducePow, Nat.reduceMul, Nat.div_one]

/-- `fr_release_line_append_hex_u32` appends eight hexadecimal digits. -/
theorem appends_hex (value : Word) :
    Appends (releaseLineAppendHexU32 value) (Item.hexadecimal value.toNat).text := by
  have digits := releaseHexShifts_digits value
  have each : List.Forall₂ Appends
      (releaseLineAppendText "0x" :: (releaseHexShifts.map fun shift =>
        releaseHexDigits.getD ((value >>> shift) &&& 0xF).toNat '\x00').map releaseLineAppendChar)
      (['0', 'x'] :: (hexNumeral 8 value.toNat).map fun digit => [digit]) := by
    rw [digits]
    exact .cons (appends_text "0x") (List.forall₂_map_left_iff.mpr
      (List.forall₂_map_right_iff.mpr (List.forall₂_same.mpr fun digit _ => appends_char digit)))
  have joined := appends_all each
  rw [List.flatten_cons, ← List.flatMap_def, List.flatMap_singleton', List.map_map] at joined
  exact joined

/-! ## The three lines -/

/-- Items of the status line. -/
def StatusReport.items (report : StatusReport) : List Item :=
  [.literal "STATUS tick=".toList, .decimal report.tick.toNat,
    .literal " tasks=".toList, .decimal report.taskCount.toNat,
    .literal " sent=".toList, .decimal report.messagesSent.toNat,
    .literal " recv=".toList, .decimal report.messagesReceived.toNat,
    .literal " q=".toList, .decimal report.queueDepth.toNat,
    .literal " latmax=".toList, .decimal report.maxLatencyTicks.toNat,
    .literal " derr=".toList, .decimal report.demoErrors.toNat,
    .literal " trace=".toList, .decimal report.traceCount.toNat,
    .literal ['/'], .decimal report.traceCapacity.toNat,
    .literal " ovw=".toList, .decimal report.overwrittenEvents.toNat,
    .literal " rxerr=".toList, .decimal report.rxErrorCount.toNat,
    .literal "\r\n".toList]

/-- Items of the kernel line. -/
def KernelReport.items (report : KernelReport) : List Item :=
  [.literal "KERNEL tasks=".toList, .decimal report.taskCount.toNat,
    .literal " run=".toList, .decimal report.runningTasks.toNat,
    .literal " ready=".toList, .decimal report.readyTasks.toNat,
    .literal " blocked=".toList, .decimal report.blockedTasks.toNat,
    .literal " current=".toList, .decimal report.currentTaskId.toNat,
    .literal " inv=".toList, .hexadecimal report.violationMask.toNat,
    .literal " assert=".toList, .decimal report.assertCount.toNat,
    .literal " fault=".toList, .hexadecimal report.faultMagic.toNat,
    .literal "\r\n".toList]

/-- Items of a trace line. -/
def RawTraceEntry.items (entry : RawTraceEntry) : List Item :=
  [.literal ['#'], .decimal entry.sequence.toNat,
    .literal " t=".toList, .decimal entry.tick.toNat,
    .literal [' '], .word (releaseTraceEventName entry.event).toList,
    .literal " task=".toList, .decimal entry.taskId.toNat,
    .literal " a0=".toList, .decimal entry.arg0.toNat,
    .literal " a1=".toList, .decimal entry.arg1.toNat,
    .literal "\r\n".toList]

/-- A builder started on a buffer with any contents: every append succeeds, the text and its
terminator stay inside the buffer, and reading the text back gives the items. -/
structure Reported (append : LineAppend) (bytes : Nat → Char) (items : List Item) : Prop where
  built : (append (.start bytes)).2 = true
  length : (append (.start bytes)).1.length.toNat ≤ 191
  text : (append (.start bytes)).1.text = lineText items
  terminated : (append (.start bytes)).1.bytes (append (.start bytes)).1.length.toNat = '\x00'
  beyond : ∀ offset, 192 ≤ offset → (append (.start bytes)).1.bytes offset = bytes offset
  decoded : parse (items.map Item.shape) (append (.start bytes)).1.text = some items

/-- Builders of the items of a line, joined by `&&`. -/
theorem Reported.of_items
    {appends : List LineAppend} {items : List Item} (bytes : Nat → Char)
    (each : List.Forall₂ (fun append item => Appends append item.text) appends items)
    (delimits : delimited (items.map Item.shape) = true) (small : ∀ item ∈ items, item.Small)
    (fits : (items.map Item.width).sum ≤ 191) :
    Reported (lineAppendAll appends) bytes items := by
  have wellFormed := wellFormed_of_delimited delimits small
  have length := (lineText_length_le wellFormed).trans fits
  have holds := Line.extend_holds bytes (lineText items) (by omega)
  have result : lineAppendAll appends (.start bytes) =
      ((Line.start bytes).extend (lineText items), true) :=
    appends_all (List.forall₂_map_right_iff.mpr each) (.start bytes) (by
      change 0 + (lineText items).length < 192
      omega)
  have text := holds.text_eq
  refine ⟨?_, ?_, ?_, ?_, ?_, ?_⟩
  · rw [result]
  · rw [result, holds.length]
    exact length
  · rw [result]
    exact text
  · rw [result]
    change ((Line.start bytes).extend (lineText items)).bytes
      ((Line.start bytes).extend (lineText items)).length.toNat = _
    rw [holds.length]
    exact holds.terminated
  · intro offset outside
    rw [result]
    exact holds.beyond offset (by omega)
  · rw [result]
    change parse _ ((Line.start bytes).extend (lineText items)).text = _
    rw [text]
    exact parse_lineText wellFormed

theorem releaseTraceEventName_letters (event : Word) :
    (∀ letter ∈ (releaseTraceEventName event).toList, letter.isUpper = true) ∧
      (releaseTraceEventName event).toList.length ≤ 7 := by
  unfold releaseTraceEventName
  split <;> simp

theorem small_literal (text : List Char) : (Item.literal text).Small :=
  trivial

theorem Word.small_decimal (value : Word) : (Item.decimal value.toNat).Small := by
  have bound := value.isLt
  change value.toNat < 10 ^ 10
  omega

theorem Word.small_hexadecimal (value : Word) : (Item.hexadecimal value.toNat).Small :=
  value.isLt

/-- The status line is complete for all values. -/
theorem StatusReport.reported (report : StatusReport) (bytes : Nat → Char) :
    Reported (releaseStatusLine report) bytes report.items := by
  refine .of_items bytes ?_ (by rfl) ?_ ?_
  · exact .cons (appends_text _) <| .cons (appends_u32 _) <|
      .cons (appends_text _) <| .cons (appends_u32 _) <|
      .cons (appends_text _) <| .cons (appends_u32 _) <|
      .cons (appends_text _) <| .cons (appends_u32 _) <|
      .cons (appends_text _) <| .cons (appends_u32 _) <|
      .cons (appends_text _) <| .cons (appends_u32 _) <|
      .cons (appends_text _) <| .cons (appends_u32 _) <|
      .cons (appends_text _) <| .cons (appends_u32 _) <|
      .cons (appends_char _) <| .cons (appends_u32 _) <|
      .cons (appends_text _) <| .cons (appends_u32 _) <|
      .cons (appends_text _) <| .cons (appends_u32 _) <|
      .cons (appends_text _) .nil
  · simp [StatusReport.items, Word.small_decimal, small_literal]
  · simp [StatusReport.items, Item.width]

/-- So is the kernel line. -/
theorem KernelReport.reported (report : KernelReport) (bytes : Nat → Char) :
    Reported (releaseKernelLine report) bytes report.items := by
  refine .of_items bytes ?_ (by rfl) ?_ ?_
  · exact .cons (appends_text _) <| .cons (appends_u32 _) <|
      .cons (appends_text _) <| .cons (appends_u32 _) <|
      .cons (appends_text _) <| .cons (appends_u32 _) <|
      .cons (appends_text _) <| .cons (appends_u32 _) <|
      .cons (appends_text _) <| .cons (appends_u32 _) <|
      .cons (appends_text _) <| .cons (appends_hex _) <|
      .cons (appends_text _) <| .cons (appends_u32 _) <|
      .cons (appends_text _) <| .cons (appends_hex _) <|
      .cons (appends_text _) .nil
  · simp [KernelReport.items, Word.small_decimal, Word.small_hexadecimal, small_literal]
  · simp [KernelReport.items, Item.width]

/-- So is a trace line. -/
theorem RawTraceEntry.reported (entry : RawTraceEntry) (bytes : Nat → Char) :
    Reported (releaseTraceLine entry) bytes entry.items := by
  obtain ⟨letters, short⟩ := releaseTraceEventName_letters entry.event
  have named : (Item.word (releaseTraceEventName entry.event).toList).Small := letters
  refine .of_items bytes ?_ (by rfl) ?_ ?_
  · exact .cons (appends_char _) <| .cons (appends_u32 _) <|
      .cons (appends_text _) <| .cons (appends_u32 _) <|
      .cons (appends_char _) <| .cons (appends_text _) <|
      .cons (appends_text _) <| .cons (appends_u32 _) <|
      .cons (appends_text _) <| .cons (appends_u32 _) <|
      .cons (appends_text _) <| .cons (appends_u32 _) <|
      .cons (appends_text _) .nil
  · simp [RawTraceEntry.items, Word.small_decimal, small_literal, named]
  · simp [RawTraceEntry.items, Item.width]
    omega

/-- Whatever the reported values are and whatever the buffer held, each of the three report lines
is built completely inside its buffer and decodes to exactly the reported values. -/
theorem report_lines_complete (bytes : Nat → Char) :
    (∀ report : StatusReport, Reported (releaseStatusLine report) bytes report.items) ∧
    (∀ report : KernelReport, Reported (releaseKernelLine report) bytes report.items) ∧
    (∀ entry : RawTraceEntry, Reported (releaseTraceLine entry) bytes entry.items) :=
  ⟨fun report => report.reported bytes, fun report => report.reported bytes,
    fun entry => entry.reported bytes⟩

example : (releaseTraceLine ⟨7, 0, 99, 1, 20, 0xFFFFFFFF⟩ (.start fun _ => '?')).1.text =
    "#7 t=0 UNKNOWN task=1 a0=20 a1=4294967295\r\n".toList := by
  decide +kernel

end ForgeKernel
