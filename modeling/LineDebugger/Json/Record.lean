import LineDebugger.Json.Reader
import LineDebugger.Json.Skip

/-!
# Records

A record has named fields in a fixed order. It is read from an object, whose members may come in
any order and with others among them that are skipped, or from a list, whose elements are the
fields in order.

A field that need not be there keeps the value it has in the blank record. In a list only fields
at the end can be left out. A member that comes twice is an error at its second key, and a field
that is missing is an error where the object ends; of several missing ones the first is named. A
record that is given up is still closed if its bracket comes next, and the error is placed behind
that.

## Main definitions

* `Json.Field` — a field and how it is read
* `Json.Record` — the fields of a record, and the record without any
* `Json.Record.reader` — reading a record
-/

namespace LineDebugger.Json

/-- A field of a record. -/
structure Field (α : Type) where
  name : String
  /-- Must the field be there? -/
  required : Bool
  /-- Reads the field; the answer puts it into a record. -/
  update : Reader (α → α)

/-- A kind of record. -/
structure Record (α : Type) where
  name : String
  /-- The record before any field was read. -/
  blank : α
  /-- The fields in order. -/
  fields : List (Field α)

/-- A key of an object that is read, or none at the end of the object. -/
def nextKey (first : Bool) (s : List Char) : Except (Stop TextError) (Option String × List Char) :=
  match skipBlanks s with
  | [] => .error (.ended .object)
  | c :: r =>
    if c == '\x7d' then .ok (none, r)
    else if first then
      if c == '\x22' then mapValue some (stringBody .strict [] r)
      else .error (.fault .keyNotString (c :: r) 1)
    else if c == ',' then
      match skipBlanks r with
      | [] => .error (.ended .value)
      | d :: r =>
        if d == '\x22' then mapValue some (stringBody .strict [] r)
        else
          .error (.fault (if d == '\x7d' then .trailingComma else .keyNotString) (d :: r) 1)
    else .error (.fault .expectedCommaOrBrace (c :: r) 1)

theorem length_nextKey_lt {first : Bool} {key : Option String} {s r : List Char}
    (h : nextKey first s = .ok (key, r)) : r.length < s.length := by
  have hblanks := length_skipBlanks_le s
  rw [nextKey] at h
  split at h
  · cases h
  · next c t hs =>
    rw [hs, List.length_cons] at hblanks
    have hblanks' := length_skipBlanks_le t
    repeat' split at h
    · cases h; omega
    · obtain ⟨_, hb⟩ := mapValue_eq_ok h
      have := length_stringBody_lt hb
      omega
    · cases h
    · cases h
    · next hs' _ =>
      obtain ⟨_, hb⟩ := mapValue_eq_ok h
      have := length_stringBody_lt hb
      rw [hs', List.length_cons] at hblanks'
      omega
    · cases h
    · cases h
    · cases h

namespace Record

variable {α : Type}

/-- The first field that must be there and was not given. -/
def missing? (record : Record α) (given : List String) : Option String :=
  (record.fields.find? fun field => field.required && !given.contains field.name).map Field.name

/-- What is left of a text that stops being read behind a key: blanks are still passed over, and
then the bracket that would close the object. -/
def abandoned (s : List Char) : List Char :=
  match skipBlanks s with
  | '\x7d' :: r => r
  | r => r

/-- The value of a member, put into the record that was read so far. `given` are the names of the
fields that were read already. -/
def member (record : Record α) (given : List String) (a : α) (key : String) (s : List Char) :
    Except (Stop Reason) ((List String × α) × List Char) :=
  match record.fields.find? (·.name == key) with
  | none =>
    match colon s with
    | .error e => .error (e.map .text)
    | .ok r =>
      match skipValue r with
      | .error e => .error (e.map .text)
      | .ok r => .ok ((given, a), r)
  | some field =>
    if given.contains key then .error ⟨.mismatch (.duplicate key), byteCount (abandoned s)⟩
    else
      match colon s with
      | .error e => .error (e.map .text)
      | .ok r =>
        match field.update.run r with
        | .error e => .error e
        | .ok (put, r) => .ok ((key :: given, put a), r)

theorem length_member_lt {record : Record α} {given : List String} {a : α} {key : String}
    {s r : List Char} {x : List String × α} (h : record.member given a key s = .ok (x, r)) :
    r.length < s.length := by
  rw [member] at h
  split at h
  · split at h
    · cases h
    · next hc =>
      split at h
      · cases h
      · next hv =>
        cases h
        exact Nat.lt_of_lt_of_le (length_skipValue_lt hv) (length_colon_le hc)
  · split at h
    · cases h
    · split at h
      · cases h
      · next hc =>
        split at h
        · cases h
        · next hu =>
          cases h
          exact Nat.lt_of_lt_of_le (Field.update _ |>.shrinks hu) (length_colon_le hc)

/-- The members of an object up to its end. -/
def members (record : Record α) (first : Bool) (given : List String) (a : α) (s : List Char) :
    Except (Stop Reason) (α × List Char) :=
  match _ : nextKey first s with
  | .error e => .error (e.map .text)
  | .ok (none, r) =>
    match record.missing? given with
    | some name => .error ⟨.mismatch (.missing name), byteCount r⟩
    | none => .ok (a, r)
  | .ok (some key, r) =>
    match _ : record.member given a key r with
    | .error e => .error e
    | .ok ((given, a), r) => members record false given a r
termination_by s.length
decreasing_by
  rename_i hk hm
  have := length_nextKey_lt hk
  have := length_member_lt hm
  omega

theorem length_members_lt {record : Record α} {first : Bool} {given : List String} {a b : α}
    {s r : List Char} (h : record.members first given a s = .ok (b, r)) :
    r.length < s.length := by
  fun_induction members record first given a s with
  | case1 => cases h
  | case2 => cases h
  | case3 first given a s r' hk _ =>
    cases h
    exact length_nextKey_lt hk
  | case4 => cases h
  | case5 first given a s key r' hk given' a' r'' hm ih =>
    have := length_nextKey_lt hk
    have := length_member_lt hm
    have := ih h
    omega

/-- The fields from number `index` on, as elements of a list up to its end. -/
def elements (record : Record α) :
    List (Field α) → Nat → α → List Char → Except (Stop Reason) (α × List Char)
  | [], _, a, s =>
    match closeList s with
    | .error e => .error (e.map .text)
    | .ok r => .ok (a, r)
  | field :: fields, index, a, s =>
    match nextElement (index == 0) s with
    | .error e => .error (e.map .text)
    | .ok (false, r) =>
      if field.required then
        .error ⟨.mismatch (.length index record.name record.fields.length), byteCount r.tail⟩
      else elements record fields (index + 1) a r
    | .ok (true, r) =>
      match field.update.run r with
      | .error e => .error e
      | .ok (put, r) => elements record fields (index + 1) (put a) r

theorem length_elements_lt {record : Record α} {fields : List (Field α)} {index : Nat} {a b : α}
    {s r : List Char} (h : record.elements fields index a s = .ok (b, r)) :
    r.length < s.length := by
  induction fields generalizing index a s with
  | nil =>
    rw [elements] at h
    split at h
    · cases h
    · next hc => cases h; exact length_closeList_lt hc
  | cons field fields ih =>
    rw [elements] at h
    split at h
    · cases h
    · next hn =>
      have := length_nextElement_le hn
      split at h
      · cases h
      · have := ih h; omega
    · next hn =>
      have := length_nextElement_le hn
      split at h
      · cases h
      · next hu =>
        have := field.update.shrinks hu
        have := ih h
        omega

/-- Reads a record. -/
def reader (record : Record α) : Reader α where
  run s :=
    match readHead s with
    | .error e => .error e
    | .ok (.object, r) => record.members true [] record.blank r
    | .ok (.list, r) => record.elements record.fields 0 record.blank r
    | .ok (found, r) => .error (found.stop r (.kind found (.record record.name)))
  shrinks h := by
    split at h
    · cases h
    · next hr => exact Nat.lt_trans (length_members_lt h) (length_readHead_lt hr)
    · next hr => exact Nat.lt_trans (length_elements_lt h) (length_readHead_lt hr)
    · cases h

end Record

end LineDebugger.Json
