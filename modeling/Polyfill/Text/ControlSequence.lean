import Polyfill.Text.Utf8

/-!
# Control sequences

Control codes in a text are meant for a terminal: single ones, and sequences that start with an escape.
Where there is no terminal they are left out, and only what a reader is to see is shown. White space
counts as text even where it is written with control codes. A text without control codes is shown as it
is, and of those codes nothing but white space is shown.
-/

namespace Polyfill.Text

/-- Whether a character is a control code in one octet. -/
def isControlCode (c : Char) : Bool :=
  c.toNat < 0x20 || c.toNat == 0x7f

/-- White space that is written with a control code. -/
def isLayout (c : Char) : Bool :=
  c == '\t' || c == '\n' || c == '\x0c' || c == '\r'

/-- The marks that can stand in front of the character that ends a sequence. -/
def isMark (c : Char) : Bool :=
  ' ' ≤ c && c ≤ '/'

/-- The part of a control sequence that a text stands in. -/
inductive ControlSequence where
  /-- No part of a sequence. -/
  | outside
  /-- The character after an escape, which says what starts here. -/
  | escape
  /-- Marks after an escape, up to the character that ends them. -/
  | marks
  /-- The parameters of a control function, up to the letter that names it. -/
  | parameters
  /-- The start of what is sent to a device. -/
  | device
  /-- The parameters of what is sent to a device. -/
  | deviceParameters
  /-- Marks in front of what is sent to a device. -/
  | deviceMarks
  /-- What is sent to a device or an application, up to the octet that ends it. -/
  | payload
  /-- A command for the system, up to a bell. -/
  | command
  deriving DecidableEq, Repr

namespace ControlSequence

/-- The octet that ends what is sent to a device, also where it stands inside a character. -/
def terminator : UInt8 :=
  0x9c

/-- Whether a character is shown. White space is, until something is sent. -/
def shows : ControlSequence → Char → Bool
  | outside, c => !isControlCode c || isLayout c
  | escape, c | marks, c | parameters, c => isLayout c
  | _, _ => false

/-- The part that comes after a character of one octet that is no control code. -/
def afterGraphic : ControlSequence → Char → ControlSequence
  | escape, c =>
    if isMark c then marks
    else if c == '[' then parameters
    else if c == 'P' then device
    else if c == ']' then command
    else if c == 'X' || c == '^' || c == '_' then payload
    else outside
  | marks, c => if isMark c then marks else outside
  | parameters, c => if c < '@' then parameters else outside
  | device, c => if isMark c then deviceMarks else if c < '@' then deviceParameters else payload
  | deviceParameters, c =>
    if isMark c then deviceMarks else if c < '<' then deviceParameters else payload
  | deviceMarks, c => if isMark c then deviceMarks else payload
  | part, _ => part

/-- The part that comes after a character. An escape starts a sequence wherever it stands. -/
def after (part : ControlSequence) (c : Char) : ControlSequence :=
  if c == '\x1b' then escape
  else if c == '\x18' || c == '\x1a' then outside
  else if part == command && c == '\x07' then outside
  else if part == payload && (octets c.toString).contains terminator then outside
  else if isControlCode c || 0x80 ≤ c.toNat then part
  else part.afterGraphic c

end ControlSequence

/-- What is shown of the text that was read. -/
structure Shown where
  /-- The characters shown, the last one first. -/
  characters : List Char := []
  /-- The part of a control sequence that the text stands in. -/
  part : ControlSequence := .outside
  /-- Whether the last character was shown. -/
  isShowing : Bool := false

/--
Read one more character. After one that was shown others are, up to a control code; if they stand
in a sequence, it goes on there, unless a character of many octets has ended it.
-/
def Shown.read (shown : Shown) (c : Char) : Shown :=
  if (if shown.isShowing then .outside else shown.part).shows c then
    { characters := c :: shown.characters
      part := if c.toNat < 0x80 then shown.part else .outside
      isShowing := true }
  else { shown with part := shown.part.after c, isShowing := false }

/-- What is shown of a text where there is no terminal. -/
def visible (text : String) : String :=
  String.ofList (text.toList.foldl Shown.read {}).characters.reverse

theorem characters_foldl_read (text : List Char) (shown : Shown) (outside : shown.part = .outside)
    (h : ∀ c ∈ text, isControlCode c = false) :
    (text.foldl Shown.read shown).characters = text.reverse ++ shown.characters := by
  induction text generalizing shown with
  | nil => rfl
  | cons c rest ih =>
    have plain : isControlCode c = false := h c (by simp)
    have step : shown.read c =
        { characters := c :: shown.characters, part := .outside, isShowing := true } := by
      simp [Shown.read, ControlSequence.shows, outside, plain]
    rw [List.foldl_cons, step, ih _ rfl fun other member => h other (by simp [member])]
    simp

theorem visible_eq_self {text : String} (h : ∀ c ∈ text.toList, isControlCode c = false) :
    visible text = text := by
  simp [visible, characters_foldl_read text.toList {} rfl h]

theorem ControlSequence.shows_outside {part : ControlSequence} {c : Char} (h : part.shows c = true) :
    outside.shows c = true := by
  cases part <;> simp_all [shows]

theorem Shown.shows_of_mem_read {shown : Shown} {c first : Char}
    (before : ∀ c ∈ shown.characters, ControlSequence.outside.shows c = true)
    (h : c ∈ (shown.read first).characters) : ControlSequence.outside.shows c = true := by
  unfold Shown.read at h
  generalize (if shown.isShowing = true then ControlSequence.outside else shown.part) = part at h
  by_cases shows : part.shows first = true
  · rw [if_pos shows] at h
    rcases List.mem_cons.mp h with rfl | member
    · exact ControlSequence.shows_outside shows
    · exact before c member
  · rw [if_neg shows] at h
    exact before c h

theorem shows_of_mem_foldl_read {c : Char} (text : List Char) (shown : Shown)
    (before : ∀ c ∈ shown.characters, ControlSequence.outside.shows c = true)
    (h : c ∈ (text.foldl Shown.read shown).characters) :
    ControlSequence.outside.shows c = true := by
  induction text generalizing shown with
  | nil => exact before c h
  | cons first rest ih => exact ih _ (fun _ member => Shown.shows_of_mem_read before member) h

/-- The control codes that are shown are white space. -/
theorem isLayout_of_mem_visible {text : String} {c : Char} (h : c ∈ (visible text).toList)
    (control : isControlCode c = true) : isLayout c = true := by
  have shows := shows_of_mem_foldl_read text.toList {} (by simp) (by simpa [visible] using h)
  simpa [ControlSequence.shows, control] using shows

end Polyfill.Text
