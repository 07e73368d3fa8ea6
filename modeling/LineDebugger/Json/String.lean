import LineDebugger.Json.TextError

/-!
# Strings of JSON

A string stands between quotes. A backslash starts an escape: a letter for itself or for a control
character, or `u` and four hexadecimal digits for a number of 16 bits. Read strictly, the two
halves of a surrogate pair have to follow each other and make one character.

Written, a string has an escape only where it must have one: for the quote, the backslash and the
control characters below the space. Everything else stands as it is, so a written string never
holds a newline.

## Main definitions

* `Json.escape` — reading what follows a backslash
* `Json.stringBody` — reading up to the closing quote
* `Json.writeString` — writing a string
-/

namespace LineDebugger.Json

/-- The value of a hexadecimal digit. -/
def hexDigit? (c : Char) : Option Nat :=
  if c.isDigit then some (c.toNat - '0'.toNat)
  else if 'a' ≤ c ∧ c ≤ 'f' then some (c.toNat - 'a'.toNat + 10)
  else if 'A' ≤ c ∧ c ≤ 'F' then some (c.toNat - 'A'.toNat + 10)
  else none

/-- The value of four hexadecimal digits. -/
def hexValue? (a b c d : Char) : Option Nat := do
  return (((← hexDigit? a) * 16 + (← hexDigit? b)) * 16 + (← hexDigit? c)) * 16 + (← hexDigit? d)

/-- The number after `\u`. Only a text with fewer than four bytes left counts as one that ended. -/
def codeUnit : List Char → Except (Stop TextError) (Nat × List Char)
  | a :: b :: c :: d :: r =>
    match hexValue? a b c d with
    | some n => .ok (n, r)
    | none => .error (.fault .badEscape (a :: b :: c :: d :: r) 4)
  | s => if byteCount s < 4 then .error (.ended .string) else .error (.fault .badEscape s 4)

theorem length_codeUnit_lt {s r : List Char} {n : Nat} (h : codeUnit s = .ok (n, r)) :
    r.length < s.length := by
  rw [codeUnit.eq_def] at h
  split at h
  · split at h
    · cases h; simp only [List.length_cons]; omega
    · cases h
  · split at h <;> cases h

/-- Is this the first half of a surrogate pair? -/
def isHigh (n : Nat) : Bool := 0xD800 ≤ n && n ≤ 0xDBFF

/-- Is this the second half of a surrogate pair? -/
def isLow (n : Nat) : Bool := 0xDC00 ≤ n && n ≤ 0xDFFF

/-- The second half of the surrogate pair that starts with `high`, and the character of both. -/
def secondHalf (high : Nat) : List Char → Except (Stop TextError) (Char × List Char)
  | '\\' :: 'u' :: r =>
    match codeUnit r with
    | .error e => .error e
    | .ok (low, r) =>
      if isLow low then
        .ok (Char.ofNat (0x10000 + (high - 0xD800) * 0x400 + (low - 0xDC00)), r)
      else .error (.fault .loneSurrogate r 0)
  | [] => .error (.ended .string)
  | ['\\'] => .error (.ended .string)
  | '\\' :: s => .error (.fault .halfPair s 1)
  | s => .error (.fault .halfPair s 1)

theorem length_secondHalf_lt {high : Nat} {s r : List Char} {c : Char}
    (h : secondHalf high s = .ok (c, r)) : r.length < s.length := by
  rw [secondHalf.eq_def] at h
  split at h
  · split at h
    · cases h
    · next hu =>
      split at h
      · obtain ⟨_, rfl⟩ := Prod.mk.inj (Except.ok.inj h)
        have := length_codeUnit_lt hu
        simp only [List.length_cons]
        omega
      · cases h
  all_goals cases h

/-- The character that is written after `\u`. Read loosely, a surrogate is no fault and its
character is of no interest. -/
def unicodeEscape (care : Care) (s : List Char) : Except (Stop TextError) (Char × List Char) :=
  match codeUnit s with
  | .error e => .error e
  | .ok (n, r) =>
    match care with
    | .loose => .ok (Char.ofNat n, r)
    | .strict =>
      if isLow n then .error (.fault .loneSurrogate r 0)
      else if isHigh n then secondHalf n r
      else .ok (Char.ofNat n, r)

theorem length_unicodeEscape_lt {care : Care} {s r : List Char} {c : Char}
    (h : unicodeEscape care s = .ok (c, r)) : r.length < s.length := by
  rw [unicodeEscape] at h
  split at h
  · cases h
  · next hu =>
    have := length_codeUnit_lt hu
    split at h
    · cases h; exact this
    · split at h
      · cases h
      · split at h
        · have := length_secondHalf_lt h; omega
        · cases h; exact this

/-- The escapes of one letter, each with the character it stands for. -/
def letterEscapes : List (Char × Char) :=
  [('\x22', '\x22'), ('\\', '\\'), ('/', '/'), ('b', '\x08'), ('f', '\x0c'), ('n', '\n'),
    ('r', '\r'), ('t', '\t')]

/-- The character that is written after a backslash. -/
def escape (care : Care) : List Char → Except (Stop TextError) (Char × List Char)
  | [] => .error (.ended .string)
  | c :: r =>
    match letterEscapes.lookup c with
    | some meant => .ok (meant, r)
    | none => if c == 'u' then unicodeEscape care r else .error (.fault .badEscape (c :: r) 1)

theorem length_escape_lt {care : Care} {s r : List Char} {c : Char}
    (h : escape care s = .ok (c, r)) : r.length < s.length := by
  rw [escape.eq_def] at h
  split at h
  · cases h
  · split at h
    · cases h; simp
    · split at h
      · have := length_unicodeEscape_lt h
        simp only [List.length_cons]
        omega
      · cases h

/-- How much of a control character has been looked at when it is refused. Read loosely, it is not
taken first. -/
def Care.controlSeen : Care → Nat
  | strict => 1
  | loose => 0

/-- The rest of a string, up to and with its closing quote; `past` is what was read so far, its
last character first. -/
def stringBody (care : Care) (past s : List Char) : Except (Stop TextError) (String × List Char) :=
  match s with
  | [] => .error (.ended .string)
  | c :: r =>
    if c == '\x22' then .ok (String.ofList past.reverse, r)
    else if c == '\\' then
      match _ : escape care r with
      | .error e => .error e
      | .ok (meant, r) => stringBody care (meant :: past) r
    else if c.toNat < 0x20 then .error (.fault .controlCharacter (c :: r) care.controlSeen)
    else stringBody care (c :: past) r
termination_by s.length
decreasing_by
  · rename_i h
    have := length_escape_lt h
    simp only [List.length_cons]
    omega
  · simp

theorem length_stringBody_lt {care : Care} {past s r : List Char} {t : String}
    (h : stringBody care past s = .ok (t, r)) : r.length < s.length := by
  fun_induction stringBody care past s with
  | case1 => cases h
  | case2 => cases h; simp
  | case3 => cases h
  | case4 past c r' _ _ meant r'' he ih =>
    have := length_escape_lt he
    have := ih h
    simp only [List.length_cons]
    omega
  | case5 => cases h
  | case6 past c r' _ _ _ ih =>
    have := ih h
    simp only [List.length_cons]
    omega

/-! ### Writing -/

/-- A character as it is written inside a string. -/
def writeChar (c : Char) : List Char :=
  if c == '\x22' then ['\\', '\x22']
  else if c == '\\' then ['\\', '\\']
  else if c == '\x08' then ['\\', 'b']
  else if c == '\x0c' then ['\\', 'f']
  else if c == '\n' then ['\\', 'n']
  else if c == '\r' then ['\\', 'r']
  else if c == '\t' then ['\\', 't']
  else if c.toNat < 0x20 then
    ['\\', 'u', '0', '0', Nat.digitChar (c.toNat / 16), Nat.digitChar (c.toNat % 16)]
  else [c]

/-- A string with its quotes. -/
def writeString (text : String) : String :=
  String.ofList ('\x22' :: text.toList.flatMap writeChar ++ ['\x22'])

end LineDebugger.Json
