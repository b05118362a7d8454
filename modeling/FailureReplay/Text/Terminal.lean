import FailureReplay.Text.Basic

/-!
# Text without terminal control

What is left of a text when the sequences that steer a terminal are taken out,
together with every other control character of ASCII but white space. A sequence
begins with the escape character. The rest of it is a single character, a control
sequence with a final letter, or a string that runs to a terminator.

The result is a part of the text (`withoutControls_sublist`), holds no hidden
character (`isHidden_eq_false_of_mem`), and is the text itself when there was
nothing to take out (`withoutControls_eq_self`).
-/

namespace FailureReplay.Text

/-- A control character that moves the place of writing: tab, line feed, form feed or
carriage return. -/
def isLayout (c : Char) : Bool := c = '\t' || c = '\n' || c.toNat = 0xC || c = '\r'

/-- A control character that is not shown: all in ASCII but white space. -/
def isHidden (c : Char) : Bool := (c.toNat < 0x20 && !isLayout c) || c.toNat = 0x7F

/-- Where a reader stands among the sequences that steer a terminal. -/
inductive ControlState where
  /-- In text that is shown. -/
  | text
  /-- After the escape character. -/
  | escape
  /-- In an escape sequence, after an intermediate character. -/
  | escapeIntermediate
  /-- In a control sequence, before its final character. -/
  | control
  /-- At the start of a device string. -/
  | device
  /-- In the parameters of a device string. -/
  | deviceParameters
  /-- In a device string, after an intermediate character. -/
  | deviceIntermediate
  /-- In the body of a device string, or in a string for an application. -/
  | string
  /-- In a command to the operating system. -/
  | command
  deriving DecidableEq, Repr

namespace ControlState

/-- Whether a character is shown. White space that moves the place of writing is also shown in a
sequence without a string, which it breaks off. -/
def shows : ControlState → Char → Bool
  | .text, c => !isHidden c
  | .escape, c | .escapeIntermediate, c | .control, c => isLayout c
  | _, _ => false

/-- After the escape character, the state that an ASCII character leads to. -/
def afterEscape (n : Nat) : ControlState :=
  if n < 0x20 || 0x7F ≤ n then .escape
  else if n < 0x30 then .escapeIntermediate
  else if n = 0x5B then .control
  else if n = 0x5D then .command
  else if n = 0x50 then .device
  else if n = 0x58 || n = 0x5E || n = 0x5F then .string
  else .text

/-- Whether the encoding of a character holds the byte that ends a string. -/
def endsString (c : Char) : Bool := (String.utf8EncodeChar c).contains 0x9C

/-- The state after a character that is not shown. Escape starts a new sequence wherever it
stands, and the cancel and substitute characters end every sequence. -/
def skip (s : ControlState) (c : Char) : ControlState :=
  let n := c.toNat
  if n = 0x1B then .escape
  else if n = 0x18 || n = 0x1A then .text
  else
    match s with
    | .text => .text
    | .escape => afterEscape n
    | .escapeIntermediate => if 0x30 ≤ n && n < 0x7F then .text else .escapeIntermediate
    | .control => if 0x40 ≤ n && n < 0x7F then .text else .control
    | .device =>
      if n < 0x20 || 0x7F ≤ n then .device
      else if n < 0x30 then .deviceIntermediate
      else if n < 0x40 then .deviceParameters
      else .string
    | .deviceParameters =>
      if n < 0x20 || 0x7F ≤ n then .deviceParameters
      else if n < 0x30 then .deviceIntermediate
      else if n < 0x3C then .deviceParameters
      else .string
    | .deviceIntermediate => if 0x30 ≤ n && n < 0x7F then .string else .deviceIntermediate
    | .string => if endsString c then .text else .string
    | .command => if n = 0x07 then .text else .command

/-- The characters of a text that are shown to a reader in a given state. -/
def shown : ControlState → Text → Text
  | _, [] => []
  | s, c :: rest => if s.shows c then c :: shown .text rest else shown (s.skip c) rest

theorem shown_sublist (s : ControlState) (t : Text) : (s.shown t).Sublist t := by
  induction t generalizing s with
  | nil => exact List.Sublist.refl _
  | cons c rest ih =>
    unfold shown
    split
    · exact (ih .text).cons_cons c
    · exact (ih _).cons c

/-- A character that is shown in some state is not hidden. -/
theorem isHidden_eq_false_of_shows {s : ControlState} {c : Char} (h : s.shows c = true) :
    isHidden c = false := by
  have layout : isLayout c = true → isHidden c = false := by
    intro hl
    have hc : c = '\t' ∨ c = '\n' ∨ c.toNat = 0xC ∨ c = '\r' := by
      simpa [isLayout, or_assoc] using hl
    have h7 : c.toNat ≠ 0x7F := by
      rcases hc with rfl | rfl | hc | rfl
      · decide
      · decide
      · omega
      · decide
    simp [isHidden, hl, h7]
  cases s <;> simp_all [shows]

theorem isHidden_eq_false_of_mem_shown {s : ControlState} {t : Text} {c : Char}
    (h : c ∈ s.shown t) : isHidden c = false := by
  induction t generalizing s with
  | nil => simp [shown] at h
  | cons d rest ih =>
    unfold shown at h
    split at h
    · next hd =>
      rcases List.mem_cons.1 h with rfl | hr
      · exact isHidden_eq_false_of_shows hd
      · exact ih hr
    · exact ih h

end ControlState

/-- A text without the sequences that steer a terminal and without hidden characters. -/
def withoutControls (t : Text) : Text := ControlState.text.shown t

theorem withoutControls_sublist (t : Text) : (withoutControls t).Sublist t :=
  ControlState.shown_sublist .text t

theorem isHidden_eq_false_of_mem {t : Text} {c : Char} (h : c ∈ withoutControls t) :
    isHidden c = false :=
  ControlState.isHidden_eq_false_of_mem_shown h

/-- Text in front that holds no hidden character is kept. -/
theorem withoutControls_append {t : Text} (h : ∀ c ∈ t, isHidden c = false) (rest : Text) :
    withoutControls (t ++ rest) = t ++ withoutControls rest := by
  induction t with
  | nil => rfl
  | cons c t ih =>
    have hc := h c List.mem_cons_self
    have ht := ih fun d hd => h d (List.mem_cons_of_mem c hd)
    unfold withoutControls at ht ⊢
    simp [ControlState.shown, ControlState.shows, hc, ht]

theorem withoutControls_eq_self {t : Text} (h : ∀ c ∈ t, isHidden c = false) :
    withoutControls t = t := by
  simpa [withoutControls, ControlState.shown] using withoutControls_append h []

end FailureReplay.Text
