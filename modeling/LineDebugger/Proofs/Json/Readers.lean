import LineDebugger.Json.Record
import LineDebugger.Proofs.Json.Scalars
import Mathlib.Data.List.Forall2

/-!
# Values are read as they were written

A reader takes a value from the front of a text, so to say that it reads a written value back is to
say what it does on the written text with more behind it. `Reads` says this, for whatever may
follow a value. It also says that the text starts like a value, for that is what the readers of
lists ask before they leave an element to its own reader.

A list is then read element by element and an object member by member, each by the fact about
itself alone. The members of an object may come in any order and some may be absent, so what is
known of an object is kept apart from its text: `Record.Fills` says which record the members make,
and with it which names have been given.

## Main definitions

* `Json.Reads` — a text is read as a value wherever a value may stand
* `Json.Record.Fills` — some members make one record out of another

## Main results

* `Json.Reads.list` — a written list is read as the list
* `Json.Record.Fills.reads` — a written object is read as the record that its members make
* `Json.Reads.decode` — a text that is read as a value is decoded as that value
-/

namespace LineDebugger.Json

open Numeral

variable {α β : Type} {text : String} {r : List Char}

/-- The text is read as this value wherever a value may stand. -/
structure Reads (read : List Char → Except (Stop Reason) (α × List Char)) (text : String) (a : α) :
    Prop where
  /-- It starts neither with a blank nor with the bracket that closes a list. -/
  starts : ∃ c cs, text.toList = c :: cs ∧ isBlank c = false ∧ c ≠ ']'
  run : ∀ {r}, Delimited r → read (text.toList ++ r) = .ok (a, r)

/-! ### Scalars -/

theorem reads_writeString (text : String) : Reads readHead (writeString text) (.string text) where
  starts := by
    refine ⟨'\x22', text.toList.flatMap writeChar ++ ['\x22'], ?_, by decide, by decide⟩
    simpa using toList_writeString text []
  run _ := readHead_writeString text _

theorem reads_writeBoolean (b : Bool) : Reads readHead (writeBoolean b) (.boolean b) where
  starts := by
    cases b
    · exact ⟨'f', _, rfl, by decide, by decide⟩
    · exact ⟨'t', _, rfl, by decide, by decide⟩
  run _ := readHead_writeBoolean b _

theorem reads_toString (n : UInt64) :
    Reads readHead (toString n.toNat) (.number (.natural n)) where
  starts := by
    obtain ⟨c, cs, hdigits, -⟩ := exists_cons_toDigits n.toNat
    have hc : c.isDigit := isDigit_of_mem_toDigits (n := n.toNat) (by simp [hdigits])
    exact ⟨c, cs, (toList_toString _).trans hdigits, isBlank_of_isDigit hc,
      beq_eq_false_iff_ne.1 (beq_eq_false_of_isDigit hc rfl)⟩
  run h := by
    rw [readHead_toString n.toNat_lt_size h, UInt64.ofNat_toNat]

theorem Reads.scalar {f : Head → Except Mismatch α} {head : Head} {a : α}
    (h : Reads readHead text head) (hf : f head = .ok a) : Reads (Reader.scalar f).run text a where
  starts := h.starts
  run hr := by
    simp only [Reader.scalar, h.run hr, hf]

theorem Reads.map {reader : Reader α} {a : α} (h : Reads reader.run text a) (f : α → β) :
    Reads (reader.map f).run text (f a) where
  starts := h.starts
  run hr := by
    simp only [Reader.map, h.run hr]

/-! ### Lists -/

theorem toList_intercalate_cons (first : String) (more : List String) :
    (",".intercalate (first :: more)).toList =
      first.toList ++ more.flatMap fun text => ',' :: text.toList := by
  induction more generalizing first with
  | nil => simp
  | cons second more ih =>
    rw [String.intercalate_cons_cons, String.toList_append, ih]
    simp

theorem nextElement_close (first : Bool) (r : List Char) :
    nextElement first (']' :: r) = .ok (false, ']' :: r) := rfl

theorem Reads.nextElement_first {read : List Char → Except (Stop Reason) (α × List Char)} {a : α}
    (h : Reads read text a) (r : List Char) :
    nextElement true (text.toList ++ r) = .ok (true, text.toList ++ r) := by
  obtain ⟨c, cs, htext, hblank, hclose⟩ := h.starts
  rw [htext, List.cons_append, nextElement, skipBlanks_cons hblank]
  simp [hclose]

theorem Reads.nextElement_next {read : List Char → Except (Stop Reason) (α × List Char)} {a : α}
    (h : Reads read text a) (r : List Char) :
    nextElement false (',' :: (text.toList ++ r)) = .ok (true, text.toList ++ r) := by
  obtain ⟨c, cs, htext, hblank, hclose⟩ := h.starts
  have hcomma : isBlank ',' = false := rfl
  simp [htext, nextElement, skipBlanks_cons hcomma, skipBlanks_cons hblank, hclose]

theorem elements_of_close {item : Reader α} (first : Bool) (past : List α) (r : List Char) :
    elements item first past (']' :: r) = .ok (past.reverse, r) := by
  have hclose : closeList (']' :: r) = .ok r := rfl
  rw [elements]
  split
  · next hnext => rw [nextElement_close] at hnext; cases hnext
  · next hnext => rw [nextElement_close] at hnext; cases hnext; simp only [hclose]
  · next hnext => rw [nextElement_close] at hnext; cases hnext

theorem elements_of_next {item : Reader α} {first : Bool} {past : List α} {s r' : List Char} {a : α}
    (hnext : nextElement first s = .ok (true, r)) (hitem : item.run r = .ok (a, r')) :
    elements item first past s = elements item false (a :: past) r' := by
  rw [elements]
  split
  · next h => rw [hnext] at h; cases h
  · next h => rw [hnext] at h; cases h
  · next h =>
    rw [hnext] at h
    cases h
    split
    · next h' => rw [hitem] at h'; cases h'
    · next h' => rw [hitem] at h'; cases h'; rfl

theorem delimited_elements (texts : List String) (r : List Char) :
    Delimited ((texts.flatMap fun text => ',' :: text.toList) ++ ']' :: r) := by
  cases texts with
  | nil => exact delimited_cons (.inr (.inl rfl))
  | cons text texts => exact delimited_cons (.inl rfl)

/-- Elements that are read each by itself are read one after another up to the closing bracket. -/
theorem elements_of_reads {item : Reader α} {texts : List String} {as : List α}
    (h : List.Forall₂ (Reads item.run) texts as) (past : List α) (r : List Char) :
    elements item false past ((texts.flatMap fun text => ',' :: text.toList) ++ ']' :: r) =
      .ok (past.reverse ++ as, r) := by
  induction h generalizing past with
  | nil => simpa using elements_of_close false past r
  | @cons text a texts as hitem hrest ih =>
    rw [List.flatMap_cons, List.cons_append, List.cons_append, List.append_assoc,
      elements_of_next (hitem.nextElement_next _) (hitem.run (delimited_elements texts r)), ih]
    simp

theorem toList_writeList (texts : List String) (r : List Char) :
    (writeList texts).toList ++ r = '[' :: ((",".intercalate texts).toList ++ ']' :: r) := by
  simp [writeList]

/-- A written list is read as the list. -/
theorem Reads.list {item : Reader α} {texts : List String} {as : List α}
    (h : List.Forall₂ (Reads item.run) texts as) :
    Reads (Reader.list item).run (writeList texts) as where
  starts := by
    refine ⟨'[', (",".intercalate texts).toList ++ [']'], ?_, by decide, by decide⟩
    simpa using toList_writeList texts []
  run := by
    intro r _
    have helements : elements item true [] ((",".intercalate texts).toList ++ ']' :: r) =
        .ok (as, r) := by
      cases h with
      | nil => exact elements_of_close true [] r
      | @cons text a texts as hitem hrest =>
        rw [toList_intercalate_cons, List.append_assoc,
          elements_of_next (hitem.nextElement_first _) (hitem.run (delimited_elements texts r)),
          elements_of_reads hrest]
        rfl
    rw [toList_writeList]
    exact helements

/-- A list of strings is read as it was written. -/
theorem reads_writeList_writeString (lines : List String) :
    Reads (Reader.list Reader.string).run (writeList (lines.map writeString)) lines := by
  refine Reads.list ?_
  rw [List.forall₂_map_left_iff]
  exact List.forall₂_same.2 fun line _ => (reads_writeString line).scalar rfl

/-! ### Records -/

/-- With the names that were given before, these members make one record out of another. -/
inductive Record.Fills (record : Record α) :
    List String → α → List (String × String) → List String → α → Prop
  | done (given : List String) (a : α) : Fills record given a [] given a
  | member {given given' : List String} {a b : α} {key text : String} {field : Field α}
      {put : α → α} {members : List (String × String)}
      (hfield : record.fields.find? (·.name == key) = some field)
      (hnew : given.contains key = false) (hread : Reads field.update.run text put)
      (hrest : Fills record (key :: given) (put a) members given' b) :
      Fills record given a ((key, text) :: members) given' b

/-- A member as it is written. -/
def writeMember (member : String × String) : String := writeString member.1 ++ ":" ++ member.2

theorem nextKey_close (first : Bool) (r : List Char) :
    nextKey first ('\x7d' :: r) = .ok (none, r) := rfl

theorem nextKey_first (key : String) (r : List Char) :
    nextKey true ((writeString key).toList ++ r) = .ok (some key, r) := by
  rw [toList_writeString]
  show mapValue some (stringBody .strict [] _) = _
  rw [stringBody_written]
  rfl

theorem nextKey_next (key : String) (r : List Char) :
    nextKey false (',' :: ((writeString key).toList ++ r)) = .ok (some key, r) := by
  rw [toList_writeString]
  show mapValue some (stringBody .strict [] _) = _
  rw [stringBody_written]
  rfl

theorem Record.members_of_close {record : Record α} {given : List String}
    (hgiven : record.missing? given = none) (first : Bool) (a : α) (r : List Char) :
    record.members first given a ('\x7d' :: r) = .ok (a, r) := by
  rw [members]
  split
  · next h => rw [nextKey_close] at h; cases h
  · next h => rw [nextKey_close] at h; cases h; simp only [hgiven]
  · next h => rw [nextKey_close] at h; cases h

theorem Record.members_of_next {record : Record α} {given given' : List String} {a b : α}
    {first : Bool} {key : String} {s r' : List Char} (hkey : nextKey first s = .ok (some key, r))
    (hmember : record.member given a key r = .ok ((given', b), r')) :
    record.members first given a s = record.members false given' b r' := by
  rw [members]
  split
  · next h => rw [hkey] at h; cases h
  · next h => rw [hkey] at h; cases h
  · next h =>
    rw [hkey] at h
    cases h
    split
    · next h' => rw [hmember] at h'; cases h'
    · next h' => rw [hmember] at h'; cases h'; rfl

theorem Record.member_of_reads {record : Record α} {given : List String} {key : String}
    {field : Field α} {put : α → α} (hfield : record.fields.find? (·.name == key) = some field)
    (hnew : given.contains key = false) (hread : Reads field.update.run text put) (a : α)
    (hr : Delimited r) :
    record.member given a key (':' :: (text.toList ++ r)) = .ok ((key :: given, put a), r) := by
  have hcolon : colon (':' :: (text.toList ++ r)) = .ok (text.toList ++ r) := rfl
  simp only [member, hfield, hnew, hcolon, hread.run hr]
  rfl

theorem delimited_members (members : List (String × String)) (r : List Char) :
    Delimited ((members.flatMap fun m => ',' :: (writeMember m).toList) ++ '\x7d' :: r) := by
  cases members with
  | nil => exact delimited_cons (.inr (.inr rfl))
  | cons m members => exact delimited_cons (.inl rfl)

theorem toList_writeMember (key text : String) (r : List Char) :
    (writeMember (key, text)).toList ++ r =
      (writeString key).toList ++ ':' :: (text.toList ++ r) := by
  simp [writeMember]

/-- Members that are read each by itself are read one after another up to the closing bracket. -/
theorem Record.Fills.members {record : Record α} {given given' : List String} {a b : α}
    {ms : List (String × String)} (h : record.Fills given a ms given' b)
    (hgiven : record.missing? given' = none) (r : List Char) :
    record.members false given a
        ((ms.flatMap fun m => ',' :: (writeMember m).toList) ++ '\x7d' :: r) = .ok (b, r) := by
  induction h with
  | done given a => exact Record.members_of_close hgiven false a r
  | @member given given' a b key text field put ms hfield hnew hread hrest ih =>
    rw [List.flatMap_cons, List.cons_append, List.cons_append, List.append_assoc,
      toList_writeMember, Record.members_of_next (nextKey_next key _)
        (Record.member_of_reads hfield hnew hread a (delimited_members ms r))]
    exact ih hgiven

theorem toList_writeObject (ms : List (String × String)) (r : List Char) :
    (writeObject ms).toList ++ r =
      '\x7b' :: ((",".intercalate (ms.map writeMember)).toList ++ '\x7d' :: r) := by
  have hwritten : writeObject ms = "\x7b" ++ ",".intercalate (ms.map writeMember) ++ "\x7d" := rfl
  simp [hwritten]

/-- A written object is read as the record that its members make. -/
theorem Record.Fills.reads {record : Record α} {given : List String} {a : α}
    {ms : List (String × String)} (h : record.Fills [] record.blank ms given a)
    (hgiven : record.missing? given = none) : Reads record.reader.run (writeObject ms) a where
  starts := by
    refine ⟨'\x7b', (",".intercalate (ms.map writeMember)).toList ++ ['\x7d'], ?_, by decide,
      by decide⟩
    simpa using toList_writeObject ms []
  run := by
    intro r _
    have hmembers : record.members true [] record.blank
        ((",".intercalate (ms.map writeMember)).toList ++ '\x7d' :: r) = .ok (a, r) := by
      cases h with
      | done => exact Record.members_of_close hgiven true _ r
      | @member _ _ _ _ key text field put ms hfield hnew hread hrest =>
        rw [List.map_cons, toList_intercalate_cons, List.flatMap_map, List.append_assoc,
          toList_writeMember, Record.members_of_next (nextKey_first key _)
            (Record.member_of_reads hfield hnew hread _ (delimited_members ms r))]
        exact hrest.members hgiven r
    rw [toList_writeObject]
    exact hmembers

/-! ### Whole texts -/

/-- A text that is read as a value is decoded as that value. -/
theorem Reads.decode {reader : Reader α} {a : α} (h : Reads reader.run text a) :
    Json.decode reader text = .ok a := by
  have hrun := h.run delimited_nil
  rw [List.append_nil] at hrun
  rw [Json.decode, Reader.whole, hrun]
  rfl

theorem eq_ok_of_toOption {result : Except Error α} {a : α} (h : result.toOption = some a) :
    result = .ok a := by
  rcases result with error | b
  · cases h
  · exact congrArg Except.ok (Option.some.inj h)

end LineDebugger.Json
