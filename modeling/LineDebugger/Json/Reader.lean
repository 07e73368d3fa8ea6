import LineDebugger.Json.Error

/-!
# Readers

A reader takes a value of one type from the front of a text. It carries a proof that it takes at
least one character when it succeeds, so a list of whatever a reader reads can itself be read by
plain recursion on what is left.

What is left has a type that does not depend on the text it came from; only so can a reader be
evaluated step by step on a text that is put together from pieces.

## Main definitions

* `Json.Reader` — reading one value
* `Json.Reader.natural`, `count`, `string`, `boolean`, `optionalString`, `list` — the kinds of
  values
* `Json.decode` — a text that is one value and nothing more
-/

namespace LineDebugger.Json

/-- A way to take a value from the front of a text. -/
structure Reader (α : Type) where
  run : List Char → Except (Stop Reason) (α × List Char)
  shrinks : ∀ {s a r}, run s = .ok (a, r) → r.length < s.length

/-- The head of the first value of a text. -/
def readHead (s : List Char) : Except (Stop Reason) (Head × List Char) :=
  match token .strict s with
  | .error e => .error (e.map .text)
  | .ok (t, r) =>
    match Head.ofToken t r with
    | .error e => .error (e.map .text)
    | .ok head => .ok (head, r)

theorem length_readHead_lt {s r : List Char} {head : Head} (h : readHead s = .ok (head, r)) :
    r.length < s.length := by
  rw [readHead] at h
  split at h
  · cases h
  · next ht =>
    split at h
    · cases h
    · cases h; exact length_token_lt ht

namespace Reader

/-- Reads a scalar and makes something of it. -/
def scalar (f : Head → Except Mismatch α) : Reader α where
  run s :=
    match readHead s with
    | .error e => .error e
    | .ok (head, r) =>
      match f head with
      | .error m => .error (head.stop r m)
      | .ok a => .ok (a, r)
  shrinks h := by
    split at h
    · cases h
    · next hr =>
      split at h
      · cases h
      · cases h; exact length_readHead_lt hr

/-- A number of 64 bits as what is wanted, if it is one. -/
def wanted (kind : Wanted) : Head → Except Mismatch UInt64
  | .number (.natural n) => .ok n
  | .number (.negative n) => .error (.range (.number (.negative n)) kind)
  | found => .error (.kind found kind)

/-- Reads a number of 64 bits. -/
def natural : Reader UInt64 := scalar (wanted .natural)

/-- Reads a count. -/
def count : Reader Nat := scalar fun head => (wanted .count head).map UInt64.toNat

/-- Reads a string. -/
def string : Reader String :=
  scalar fun
    | .string text => .ok text
    | found => .error (.kind found .string)

/-- Reads a string, or `null` in its place. -/
def optionalString : Reader (Option String) :=
  scalar fun
    | .null => .ok none
    | .string text => .ok (some text)
    | found => .error (.kind found .string)

/-- Reads a truth value. -/
def boolean : Reader Bool :=
  scalar fun
    | .boolean b => .ok b
    | found => .error (.kind found .boolean)

/-- Reads a value and applies a function to it. -/
def map (f : α → β) (reader : Reader α) : Reader β where
  run s :=
    match reader.run s with
    | .error e => .error e
    | .ok (a, r) => .ok (f a, r)
  shrinks h := by
    split at h
    · cases h
    · next hr => cases h; exact reader.shrinks hr

end Reader

/-! ### Lists -/

/-- Is there another element? If there is, what is left starts with it, else with the bracket that
closes the list. -/
def nextElement (first : Bool) (s : List Char) : Except (Stop TextError) (Bool × List Char) :=
  match skipBlanks s with
  | [] => .error (.ended .list)
  | c :: r =>
    if c == ']' then .ok (false, c :: r)
    else if first then .ok (true, c :: r)
    else if c == ',' then
      match skipBlanks r with
      | [] => .error (.ended .value)
      | d :: r =>
        if d == ']' then .error (.fault .trailingComma (d :: r) 1) else .ok (true, d :: r)
    else .error (.fault .expectedCommaOrBracket (c :: r) 1)

theorem length_nextElement_le {first more : Bool} {s r : List Char}
    (h : nextElement first s = .ok (more, r)) : r.length ≤ s.length := by
  have hblanks := length_skipBlanks_le s
  rw [nextElement] at h
  split at h
  · cases h
  · next c t hs =>
    rw [hs, List.length_cons] at hblanks
    have hblanks' := length_skipBlanks_le t
    repeat' split at h
    · cases h; exact hblanks
    · cases h; exact hblanks
    · cases h
    · cases h
    · next hs' _ =>
      cases h
      rw [hs'] at hblanks'
      omega
    · cases h

/-- The bracket that closes a list. -/
def closeList (s : List Char) : Except (Stop TextError) (List Char) :=
  match skipBlanks s with
  | [] => .error (.ended .list)
  | c :: r =>
    if c == ']' then .ok r
    else if c == ',' then
      let s := skipBlanks r
      .error (.fault (if s.head? == some ']' then .trailingComma else .trailingText) s 1)
    else .error (.fault .trailingText (c :: r) 1)

theorem length_closeList_lt {s r : List Char} (h : closeList s = .ok r) :
    r.length < s.length := by
  have hblanks := length_skipBlanks_le s
  rw [closeList] at h
  split at h
  · cases h
  · next hs =>
    rw [hs, List.length_cons] at hblanks
    repeat' split at h
    · cases h; omega
    · cases h
    · cases h

/-- The elements of a list up to its end; `past` are those read so far, the last one first. -/
def elements (item : Reader α) (first : Bool) (past : List α) (s : List Char) :
    Except (Stop Reason) (List α × List Char) :=
  match _ : nextElement first s with
  | .error e => .error (e.map .text)
  | .ok (false, r) =>
    match closeList r with
    | .error e => .error (e.map .text)
    | .ok r => .ok (past.reverse, r)
  | .ok (true, r) =>
    match _ : item.run r with
    | .error e => .error e
    | .ok (a, r) => elements item false (a :: past) r
termination_by s.length
decreasing_by
  rename_i hn hr
  have := length_nextElement_le hn
  have := item.shrinks hr
  omega

theorem length_elements_lt {item : Reader α} {first : Bool} {past as : List α}
    {s r : List Char} (h : elements item first past s = .ok (as, r)) : r.length < s.length := by
  fun_induction elements item first past s with
  | case1 => cases h
  | case2 => cases h
  | case3 first past s r' hn r'' hc =>
    cases h
    have := length_nextElement_le hn
    have := length_closeList_lt hc
    omega
  | case4 => cases h
  | case5 first past s r' hn a r'' hr ih =>
    have := length_nextElement_le hn
    have := item.shrinks hr
    have := ih h
    omega

/-- Reads a list. -/
def Reader.list (item : Reader α) : Reader (List α) where
  run s :=
    match readHead s with
    | .error e => .error e
    | .ok (.list, r) => elements item true [] r
    | .ok (found, r) => .error (found.stop r (.kind found .list))
  shrinks h := by
    split at h
    · cases h
    · next hr => exact Nat.lt_trans (length_elements_lt h) (length_readHead_lt hr)
    · cases h

/-- The value at the front of a text, if only blanks follow it. -/
def Reader.whole (reader : Reader α) (s : List Char) : Except (Stop Reason) α :=
  match reader.run s with
  | .error e => .error e
  | .ok (a, r) =>
    match skipBlanks r with
    | [] => .ok a
    | c :: r => .error ((Stop.fault .trailingText (c :: r) 1).map .text)

/-- The value that a text describes, if that and blanks are all that it holds. -/
def decode (reader : Reader α) (text : String) : Except Error α :=
  match reader.whole text.toList with
  | .error e => .error ⟨e.reason, e.location text⟩
  | .ok a => .ok a

/-- An error is placed behind some of the bytes of the text. -/
theorem exists_location_of_decode_eq_error {reader : Reader α} {text : String} {error : Error}
    (h : decode reader text = .error error) :
    ∃ seen, error.location = .behind (text.toUTF8.data.toList.take seen) := by
  rw [decode] at h
  split at h
  · cases h
    exact ⟨_, rfl⟩
  · cases h

end LineDebugger.Json
