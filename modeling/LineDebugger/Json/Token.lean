import LineDebugger.Json.Number
import LineDebugger.Json.String

/-!
# Tokens of JSON

A token is a scalar value or an opening bracket. What it is shows in its first character.

Every token takes at least one character, which is what makes reading end.

## Main definitions

* `Json.Token` — a scalar or an opening bracket
* `Json.token` — the first token of a text

## Main results

* `Json.length_token_lt` — a token takes at least one character
-/

namespace LineDebugger.Json

/-- A scalar value or an opening bracket. -/
inductive Token
  | null
  | boolean (b : Bool)
  | number (negative : Bool) (text : NumberText)
  | string (text : String)
  | list
  | object
deriving DecidableEq

/-- The rest of a word that has to come next. -/
def word : List Char → List Char → Except (Stop TextError) (List Char)
  | [], s => .ok s
  | _ :: _, [] => .error (.ended .value)
  | w :: ws, c :: s => if w == c then word ws s else .error (.fault .expectedWord (c :: s) 1)

theorem length_word_le {w s r : List Char} (h : word w s = .ok r) : r.length ≤ s.length := by
  induction w generalizing s with
  | nil => cases h; exact Nat.le_refl _
  | cons a w ih =>
    cases s with
    | nil => cases h
    | cons c s =>
      rw [word] at h
      split at h
      · have := ih h; simp only [List.length_cons]; omega
      · cases h

/-- What a number that is cut off counts as. -/
def cutNumber : Care → Stop TextError
  | .strict => .ended .value
  | .loose => .fault .badNumber [] 1

/-- A reader's answer with another value. -/
def mapValue (f : α → β) :
    Except (Stop TextError) (α × List Char) → Except (Stop TextError) (β × List Char)
  | .ok (a, r) => .ok (f a, r)
  | .error e => .error e

/-- The answer of a reader that only passes over characters, with a value. -/
def withValue (b : β) :
    Except (Stop TextError) (List Char) → Except (Stop TextError) (β × List Char)
  | .ok r => .ok (b, r)
  | .error e => .error e

/-- The token that starts with the character `c`. -/
def tokenFrom (care : Care) (c : Char) (r : List Char) :
    Except (Stop TextError) (Token × List Char) :=
  if c == 'n' then withValue .null (word ['u', 'l', 'l'] r)
  else if c == 't' then withValue (.boolean true) (word ['r', 'u', 'e'] r)
  else if c == 'f' then withValue (.boolean false) (word ['a', 'l', 's', 'e'] r)
  else if c == '-' then mapValue (.number true) (numberText (cutNumber care) r)
  else if c.isDigit then mapValue (.number false) (numberText (cutNumber care) (c :: r))
  else if c == '\x22' then mapValue .string (stringBody care [] r)
  else if c == '[' then .ok (.list, r)
  else if c == '\x7b' then .ok (.object, r)
  else .error (.fault .expectedValue (c :: r) 1)

/-- The first token of a text, after blanks. -/
def token (care : Care) (s : List Char) : Except (Stop TextError) (Token × List Char) :=
  match skipBlanks s with
  | [] => .error (.ended .value)
  | c :: r => tokenFrom care c r

theorem mapValue_eq_ok {f : α → β} {x : Except (Stop TextError) (α × List Char)} {b : β}
    {r : List Char} (h : mapValue f x = .ok (b, r)) : ∃ a, x = .ok (a, r) := by
  rw [mapValue.eq_def] at h
  split at h
  · cases h; exact ⟨_, rfl⟩
  · cases h

theorem withValue_eq_ok {b b' : β} {x : Except (Stop TextError) (List Char)} {r : List Char}
    (h : withValue b x = .ok (b', r)) : x = .ok r := by
  rw [withValue.eq_def] at h
  split at h
  · cases h; rfl
  · cases h

theorem length_tokenFrom_le {care : Care} {c : Char} {s r : List Char} {t : Token}
    (h : tokenFrom care c s = .ok (t, r)) : r.length ≤ s.length := by
  rw [tokenFrom] at h
  repeat' split at h
  · exact length_word_le (withValue_eq_ok h)
  · exact length_word_le (withValue_eq_ok h)
  · exact length_word_le (withValue_eq_ok h)
  · obtain ⟨_, hn⟩ := mapValue_eq_ok h
    exact Nat.le_of_lt (length_numberText_lt hn)
  · obtain ⟨_, hn⟩ := mapValue_eq_ok h
    exact Nat.le_of_lt_succ (length_numberText_lt hn)
  · obtain ⟨_, hs⟩ := mapValue_eq_ok h
    exact Nat.le_of_lt (length_stringBody_lt hs)
  · cases h; exact Nat.le_refl _
  · cases h; exact Nat.le_refl _
  · cases h

/-- A token takes at least one character. -/
theorem length_token_lt {care : Care} {s r : List Char} {t : Token}
    (h : token care s = .ok (t, r)) : r.length < s.length := by
  have hblanks := length_skipBlanks_le s
  rw [token] at h
  split at h
  · cases h
  · next hs =>
    rw [hs, List.length_cons] at hblanks
    have := length_tokenFrom_le h
    omega

end LineDebugger.Json
