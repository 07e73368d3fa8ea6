/-!
# Faults of a JSON text

Text is read from the front, and every function that reads answers with what it found and what is
left. Reading stops at the first fault, which says what was wrong there: the text ended too soon,
or the grammar does not allow what comes next.

Where reading stopped is told by how much of the text nobody had looked at by then. A reader knows
what is left of the text and nothing of what came before, so it can count those bytes without
knowing where it is itself. A fault shows in the first byte that is wrong, which has been looked at,
so it is not always at the edge of a character.

There are two ways to read. What is wanted is read *strictly*. What is skipped is read loosely: it
has to look right, but its surrogates need not pair up, and a number that is cut off counts as a
bad number and not as a text that ended.

## Main definitions

* `Json.Place`, `Json.Fault`, `Json.TextError` — what can be wrong with a text
* `Json.Stop`, `Json.Stop.ended`, `Json.Stop.fault` — why reading stopped, and how far it came
* `Json.Location`, `Json.Stop.location` — a place in a text, and that of a stop
* `Json.Care` — how strictly something is read
* `Json.skipBlanks` — the text after the blanks at its front
-/

namespace LineDebugger.Json

/-- Where a text can end too soon. -/
inductive Place
  | value
  | object
  | list
  | string
deriving DecidableEq

/-- What the grammar does not allow. -/
inductive Fault
  /-- No value starts like this. -/
  | expectedValue
  /-- The rest of `null`, `true` or `false` is missing. -/
  | expectedWord
  /-- A key is not followed by a colon. -/
  | expectedColon
  /-- A member is followed neither by a comma nor by the end of the object. -/
  | expectedCommaOrBrace
  /-- An element is followed neither by a comma nor by the end of the list. -/
  | expectedCommaOrBracket
  /-- A key does not start with a quote. -/
  | keyNotString
  /-- A comma stands before a closing bracket. -/
  | trailingComma
  /-- Something follows that belongs to no value. -/
  | trailingText
  /-- A number has the wrong form. -/
  | badNumber
  /-- A number is too large for a double. -/
  | numberTooLarge
  /-- A backslash is followed by something that it cannot escape. -/
  | badEscape
  /-- A control character stands in a string. -/
  | controlCharacter
  /-- The first half of a surrogate pair is not followed by an escape. -/
  | halfPair
  /-- A surrogate stands where it cannot be paired. -/
  | loneSurrogate
deriving DecidableEq

/-- Why a text could not be read on. -/
inductive TextError
  /-- The text ended. -/
  | ended (place : Place)
  /-- The grammar does not allow what comes next. -/
  | grammar (fault : Fault)
deriving DecidableEq

/-- How many bytes a text takes. -/
def byteCount : List Char → Nat
  | [] => 0
  | c :: s => c.utf8Size + byteCount s

/-- Reading stopped. -/
structure Stop (ε : Type) where
  /-- Why it stopped. -/
  reason : ε
  /-- How many bytes at the end of the text nobody has looked at. -/
  unseen : Nat
deriving DecidableEq

namespace Stop

variable {ε δ : Type}

/-- Another reason for the same stop. -/
def map (f : ε → δ) (stop : Stop ε) : Stop δ := ⟨f stop.reason, stop.unseen⟩

/-- The text ended, so all of it has been looked at. -/
def ended (place : Place) : Stop TextError := ⟨.ended place, 0⟩

/-- The grammar does not allow the text `s` to come next, as its first `seen` bytes show. -/
def fault (fault : Fault) (s : List Char) (seen : Nat) : Stop TextError :=
  ⟨.grammar fault, byteCount s - seen⟩

end Stop

/-- A place in a text, between two bytes. -/
structure Location where
  /-- The number of the line, from 1 on. -/
  line : Nat
  /-- How many bytes of the line come before. -/
  column : Nat
deriving DecidableEq

namespace Location

/-- The place after one more byte. -/
def next (l : Location) (byte : UInt8) : Location :=
  if byte == 10 then ⟨l.line + 1, 0⟩ else { l with column := l.column + 1 }

/-- The place behind the bytes at the front of a text. -/
def behind (bytes : List UInt8) : Location := bytes.foldl next ⟨1, 0⟩

theorem foldl_next_of_newline_not_mem {bytes : List UInt8} (h : 10 ∉ bytes) (l : Location) :
    bytes.foldl next l = { l with column := l.column + bytes.length } := by
  induction bytes generalizing l with
  | nil => rfl
  | cons byte bytes ih =>
    rw [List.mem_cons, not_or] at h
    have hnext : next l byte = { l with column := l.column + 1 } := by
      rw [next, if_neg (by simpa using Ne.symm h.1)]
    rw [List.foldl_cons, ih h.2, hnext, List.length_cons, Nat.add_assoc, Nat.add_comm 1]

/-- In a text of one line the column counts all the bytes before the place. -/
theorem behind_of_newline_not_mem {bytes : List UInt8} (h : 10 ∉ bytes) :
    behind bytes = ⟨1, bytes.length⟩ := by
  rw [behind, foldl_next_of_newline_not_mem h, Nat.zero_add]

end Location

/-- The place in the text at which a stop came, behind all that has been looked at. -/
def Stop.location (stop : Stop ε) (text : String) : Location :=
  .behind (text.toUTF8.data.toList.take (text.utf8ByteSize - stop.unseen))

/-- How strictly a token is read. -/
inductive Care
  /-- The value is wanted. -/
  | strict
  /-- The value is skipped. -/
  | loose
deriving DecidableEq

/-- The characters that may stand between tokens. -/
def isBlank (c : Char) : Bool := c == ' ' || c == '\t' || c == '\n' || c == '\r'

/-- The text from its first character on that is no blank. -/
def skipBlanks (s : List Char) : List Char := s.dropWhile isBlank

theorem length_dropWhile_le (p : Char → Bool) (s : List Char) :
    (s.dropWhile p).length ≤ s.length :=
  (List.dropWhile_suffix p).length_le

theorem length_skipBlanks_le (s : List Char) : (skipBlanks s).length ≤ s.length :=
  length_dropWhile_le _ s

end LineDebugger.Json
