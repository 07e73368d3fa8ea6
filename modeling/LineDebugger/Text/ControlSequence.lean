/-!
# Control sequences

A terminal takes some characters of a text as orders: control characters, and sequences that an
escape character begins. A log that is not shown on a terminal is written without them.

A sequence goes on until it is complete, however many characters that takes, and what never becomes
complete takes the rest of the text with it. Two control characters cancel any sequence, and a new
escape begins another one. Inside the shorter kinds a character that lays text out, such as a
newline, is kept, and text may follow it: the sequence is only interrupted, and another control
character takes it up again, unless a character outside ASCII came first. Control strings end at
the byte `0x9C`, also where this byte is only a part of the encoding of a character; commands to the
operating system do not.

## Main definitions

* `ControlSequence.Place` — where the reader stands
* `ControlSequence.isText` — the characters that are no orders
* `Text.withoutControls` — a text without orders

## Main results

* `Text.isText_of_mem_withoutControls` — no order is left
* `Text.withoutControls_of_isText` — a text without orders stays as it is
-/

namespace LineDebugger

namespace ControlSequence

/-- What has been read of a sequence that is not complete. -/
inductive Unfinished
  /-- An escape character. -/
  | escape
  /-- An escape character and intermediate characters. -/
  | escapeIntermediate
  /-- The beginning of a control sequence. -/
  | control
  /-- The beginning of a command to the operating system. -/
  | command
  /-- The introducer of a device control string. -/
  | deviceStart
  /-- A device control string up to its parameters. -/
  | deviceParameter
  /-- A device control string up to its intermediate characters. -/
  | deviceIntermediate
  /-- A control string up to its body. -/
  | string
deriving DecidableEq

/-- Where the reader stands. -/
inductive Place
  /-- In text, which may interrupt a sequence. -/
  | outside (interrupted : Option Unfinished)
  /-- In a sequence. -/
  | inside (sequence : Unfinished)
deriving DecidableEq

/-- The control characters that lay text out. -/
def isLayout (c : Char) : Bool := c == '\t' || c == '\n' || c == '\x0c' || c == '\r'

/-- The characters that are no orders by themselves. -/
def isText (c : Char) : Bool := (' ' ≤ c && c != '\x7f') || isLayout c

/-- Does a character lie in a range? -/
def within (low high c : Char) : Bool := low ≤ c && c ≤ high

/-- Does the encoding of a character hold the byte that ends a control string? -/
def endsString (c : Char) : Bool := (String.utf8EncodeChar c).contains 0x9C

/-- The place that a character leads to where text stands. A control character takes up again the
sequence that the text interrupts, and a character outside ASCII makes the reader forget it. -/
def afterText (interrupted : Option Unfinished) (c : Char) : Place :=
  if '\x7f' < c then .outside none
  else if isText c then .outside interrupted
  else interrupted.elim (.outside none) .inside

/-- The place that a character leads to in a sequence that keeps the layout and that the characters
in `final` complete. -/
def afterShort (sequence : Unfinished) (final : Char → Bool) (c : Char) : Place :=
  if final c then .outside none
  else if isLayout c then .outside (some sequence)
  else .inside sequence

/-- The place that the character after an escape leads to. -/
def afterEscape (c : Char) : Place :=
  if within ' ' '/' c then .inside .escapeIntermediate
  else if c == '[' then .inside .control
  else if c == ']' then .inside .command
  else if c == 'P' then .inside .deviceStart
  else if c == 'X' || c == '^' || c == '_' then .inside .string
  else afterShort .escape (within '0' '~') c

/-- The place that a character of a sequence leads to. -/
def advance (sequence : Unfinished) (c : Char) : Place :=
  match sequence with
  | .escape => afterEscape c
  | .escapeIntermediate => afterShort sequence (within '0' '~') c
  | .control => afterShort sequence (within '@' '~') c
  | .command => if c == '\x07' then .outside none else .inside sequence
  | .deviceStart =>
    if within ' ' '/' c then .inside .deviceIntermediate
    else if within '0' '?' c then .inside .deviceParameter
    else if within '@' '~' c then .inside .string
    else .inside sequence
  | .deviceParameter =>
    if within ' ' '/' c then .inside .deviceIntermediate
    else if within '<' '~' c then .inside .string
    else .inside sequence
  | .deviceIntermediate => if within '0' '~' c then .inside .string else .inside sequence
  | .string => if endsString c then .outside none else .inside sequence

/-- The place that a character leads to. -/
def next (place : Place) (c : Char) : Place :=
  if c == '\x18' || c == '\x1a' then .outside none
  else if c == '\x1b' then .inside .escape
  else
    match place with
    | .outside interrupted => afterText interrupted c
    | .inside sequence => advance sequence c

/-- Is a character kept? -/
def keeps : Place → Char → Bool
  | .outside _, c => isText c
  | .inside .escape, c | .inside .escapeIntermediate, c | .inside .control, c => isLayout c
  | .inside _, _ => false

/-- The characters that are kept of what is left to read. -/
def strip : Place → List Char → List Char
  | _, [] => []
  | place, c :: cs =>
    if keeps place c then c :: strip (next place c) cs else strip (next place c) cs

theorem isText_of_keeps {place : Place} {c : Char} (h : keeps place c) : isText c := by
  cases place with
  | outside interrupted => exact h
  | inside sequence =>
    cases sequence with
    | escape | escapeIntermediate | control => rw [isText, show isLayout c from h, Bool.or_true]
    | command | deviceStart | deviceParameter | deviceIntermediate | string => cases h

theorem isText_of_mem_strip {place : Place} {cs : List Char} {c : Char} (h : c ∈ strip place cs) :
    isText c := by
  induction cs generalizing place with
  | nil => cases h
  | cons d ds ih =>
    rw [strip] at h
    split at h
    · next hd =>
      rcases List.mem_cons.1 h with rfl | h
      · exact isText_of_keeps hd
      · exact ih h
    · exact ih h

theorem afterText_of_isText {c : Char} (h : isText c) : afterText none c = .outside none := by
  rw [afterText, if_pos h, ite_self]

theorem next_outside {c : Char} (h : isText c) : next (.outside none) c = .outside none := by
  rw [next]
  split
  · rfl
  · split
    · next hc =>
      rw [beq_iff_eq.1 hc] at h
      cases h
    · exact afterText_of_isText h

theorem strip_of_isText {cs : List Char} (h : ∀ c ∈ cs, isText c) :
    strip (.outside none) cs = cs := by
  induction cs with
  | nil => rfl
  | cons c cs ih =>
    have hc := h c List.mem_cons_self
    rw [strip, next_outside hc, keeps, if_pos hc, ih fun d hd => h d (List.mem_cons_of_mem _ hd)]

end ControlSequence

namespace Text

open ControlSequence

/-- A text without the orders to a terminal in it. -/
def withoutControls (text : String) : String :=
  String.ofList (strip (.outside none) text.toList)

/-- No order is left. -/
theorem isText_of_mem_withoutControls {text : String} {c : Char}
    (h : c ∈ (withoutControls text).toList) : isText c := by
  rw [withoutControls, String.toList_ofList] at h
  exact isText_of_mem_strip h

/-- A text without orders stays as it is. -/
theorem withoutControls_of_isText {text : String} (h : ∀ c ∈ text.toList, isText c) :
    withoutControls text = text := by
  rw [withoutControls, strip_of_isText h, String.ofList_toList]

end Text

end LineDebugger
