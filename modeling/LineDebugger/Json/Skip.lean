import LineDebugger.Json.Token

/-!
# Skipping a value

A member that nobody asked for is passed over. Its value still has to be JSON, but it is read
loosely and never built. The brackets that are open are kept as a list with the innermost first,
so a value may nest as deeply as it likes.

## Main definitions

* `Json.Bracket` — the two kinds of brackets
* `Json.key`, `Json.colon` — what stands before the value of a member
* `Json.closeBrackets` — what follows a value: closing brackets, then perhaps a comma
* `Json.skipValue` — passing over a value

## Main results

* `Json.length_skipValue_lt` — skipping takes at least one character
-/

namespace LineDebugger.Json

/-- The two kinds of brackets. -/
inductive Bracket
  | list
  | object
deriving DecidableEq

/-- The character that closes a bracket. -/
def Bracket.closing : Bracket → Char
  | list => ']'
  | object => '\x7d'

/-- The place that a bracket opens. -/
def Bracket.place : Bracket → Place
  | list => .list
  | object => .object

/-- What is wrong if neither a comma nor the end follows a value. -/
def Bracket.fault : Bracket → Fault
  | list => .expectedCommaOrBracket
  | object => .expectedCommaOrBrace

/-- The colon after a key. -/
def colon (s : List Char) : Except (Stop TextError) (List Char) :=
  match skipBlanks s with
  | [] => .error (.ended .object)
  | c :: r => if c == ':' then .ok r else .error (.fault .expectedColon (c :: r) 1)

theorem length_colon_le {s r : List Char} (h : colon s = .ok r) : r.length ≤ s.length := by
  have hblanks := length_skipBlanks_le s
  rw [colon] at h
  split at h
  · cases h
  · next hs =>
    rw [hs, List.length_cons] at hblanks
    split at h
    · cases h; omega
    · cases h

/-- A key that is skipped, with its colon. -/
def skipKey (s : List Char) : Except (Stop TextError) (List Char) :=
  match skipBlanks s with
  | [] => .error (.ended .object)
  | c :: r =>
    if c == '\x22' then
      match stringBody .loose [] r with
      | .error e => .error e
      | .ok (_, r) => colon r
    else .error (.fault .keyNotString (c :: r) 1)

theorem length_skipKey_le {s r : List Char} (h : skipKey s = .ok r) : r.length ≤ s.length := by
  have hblanks := length_skipBlanks_le s
  rw [skipKey] at h
  split at h
  · cases h
  · next hs =>
    rw [hs, List.length_cons] at hblanks
    split at h
    · split at h
      · cases h
      · next hb =>
        have := length_stringBody_lt hb
        have := length_colon_le h
        omega
    · cases h

/-- What stands before the next value inside a bracket. -/
def nextValue : Bracket → List Char → Except (Stop TextError) (List Char)
  | .list, s => .ok s
  | .object, s => skipKey s

theorem length_nextValue_le {b : Bracket} {s r : List Char} (h : nextValue b s = .ok r) :
    r.length ≤ s.length := by
  cases b with
  | list => cases h; exact Nat.le_refl _
  | object => exact length_skipKey_le h

/-- Closes as many brackets as follow and, if any is still open, goes on to the next value in it.
Only after a value may a comma stand. -/
def closeBrackets :
    List Bracket → Bool → List Char → Except (Stop TextError) (List Bracket × List Char)
  | [], _, s => .ok ([], s)
  | bracket :: outer, afterValue, s =>
    match skipBlanks s with
    | [] => .error (.ended bracket.place)
    | c :: r =>
      if c == ',' && afterValue then withValue (bracket :: outer) (nextValue bracket r)
      else if c == bracket.closing then closeBrackets outer true r
      else if afterValue then .error (.fault bracket.fault (c :: r) 1)
      else withValue (bracket :: outer) (nextValue bracket (c :: r))

theorem length_closeBrackets_le {stack stack' : List Bracket} {afterValue : Bool}
    {s r : List Char} (h : closeBrackets stack afterValue s = .ok (stack', r)) :
    r.length ≤ s.length := by
  induction stack generalizing afterValue s with
  | nil => cases h; exact Nat.le_refl _
  | cons bracket outer ih =>
    have hblanks := length_skipBlanks_le s
    rw [closeBrackets] at h
    split at h
    · cases h
    · next hs =>
      rw [hs, List.length_cons] at hblanks
      repeat' split at h
      · have := length_nextValue_le (withValue_eq_ok h); omega
      · have := ih h; omega
      · cases h
      · have := length_nextValue_le (withValue_eq_ok h)
        simp only [List.length_cons] at this
        omega

/-- The brackets that are open after a token, and whether the token was a whole value. -/
def openBrackets (stack : List Bracket) : Token → List Bracket × Bool
  | .list => (.list :: stack, false)
  | .object => (.object :: stack, false)
  | _ => (stack, true)

/-- Passes over a value, inside the brackets that are open, and over all that follows it up to the
outermost of them. -/
def skipInside (stack : List Bracket) (s : List Char) : Except (Stop TextError) (List Char) :=
  match _ : token .loose s with
  | .error e => .error e
  | .ok (t, r) =>
    match _ : closeBrackets (openBrackets stack t).1 (openBrackets stack t).2 r with
    | .error e => .error e
    | .ok ([], r) => .ok r
    | .ok (bracket :: outer, r) => skipInside (bracket :: outer) r
termination_by s.length
decreasing_by
  rename_i ht hc
  have := length_token_lt ht
  have := length_closeBrackets_le hc
  omega

theorem length_skipInside_lt {stack : List Bracket} {s r : List Char}
    (h : skipInside stack s = .ok r) : r.length < s.length := by
  fun_induction skipInside stack s with
  | case1 => cases h
  | case2 => cases h
  | case3 stack s t r' ht r'' hc =>
    cases h
    have := length_token_lt ht
    have := length_closeBrackets_le hc
    omega
  | case4 stack s t r' ht bracket outer r'' hc ih =>
    have := length_token_lt ht
    have := length_closeBrackets_le hc
    have := ih h
    omega

/-- Passes over a value. -/
def skipValue (s : List Char) : Except (Stop TextError) (List Char) := skipInside [] s

theorem length_skipValue_lt {s r : List Char} (h : skipValue s = .ok r) : r.length < s.length :=
  length_skipInside_lt h

end LineDebugger.Json
