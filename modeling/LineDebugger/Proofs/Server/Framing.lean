import LineDebugger.Proofs.Server.Requests
import LineDebugger.Proofs.Server.Wire
import LineDebugger.Proofs.Text.Cutting
import LineDebugger.Proofs.Text.Words

/-!
# One line in, one line out

The server keeps responses apart by newlines, and a response quotes whatever a request said: an
error holds the text of a command or of a program line with every control character in it. What
keeps a response on its line is the way strings are written, with an escape for each of these
characters; the rest of a response has no characters of its own but brackets, commas, colons,
letters and digits.

The lines of the input are read up to the first that is not text, and of those the blank ones are
passed over. What the server does is therefore told by a list of texts, which is computed from the
bytes alone, and serving an input is handling these texts one after another. Two inputs have their
texts one after the other if the first leaves no line open and is text throughout.

## Main definitions

* `Server.readable` — the texts before the first line that is not text
* `Server.asked` — those of an input that are not blank

## Main results

* `Response.newline_not_mem_encode` — a written response is on one line
* `Server.serve_eq` — serving lines is handling the texts among them
* `Server.location_of_mem_asked` — a refusal points into the line that is refused
* `Server.serve_frames` — what an input makes the server write
-/

namespace LineDebugger

/-! ### Written values are on one line -/

namespace Json

theorem newline_not_mem_writeChar (c : Char) : '\n' ∉ writeChar c := by
  have hdigit : ∀ n < 16, '\n' ≠ Nat.digitChar n := by decide
  rw [writeChar]
  split_ifs with _ _ _ _ hn _ _ hcontrol
  all_goals try decide
  · simp only [List.mem_cons, List.not_mem_nil, or_false, not_or]
    exact ⟨by decide, by decide, by decide, by decide, hdigit _ (by omega), hdigit _ (by omega)⟩
  · rw [List.mem_singleton]
    rintro rfl
    exact hn rfl

theorem newline_not_mem_writeString (text : String) : '\n' ∉ (writeString text).toList := by
  rw [writeString, String.toList_ofList, List.mem_append, List.mem_cons, List.mem_flatMap]
  rintro ((h | ⟨c, -, h⟩) | h)
  · exact absurd h (by decide)
  · exact newline_not_mem_writeChar c h
  · exact absurd h (by decide)

theorem newline_not_mem_toString (n : Nat) : '\n' ∉ (toString n).toList := by
  rw [Numeral.toList_toString]
  intro h
  exact absurd (Numeral.isDigit_of_mem_toDigits h) (by decide)

theorem newline_not_mem_intercalate {texts : List String}
    (h : ∀ text ∈ texts, '\n' ∉ text.toList) : '\n' ∉ (",".intercalate texts).toList := by
  rcases texts with _ | ⟨first, more⟩
  · decide
  · rw [List.forall_mem_cons] at h
    rw [toList_intercalate_cons, List.mem_append, List.mem_flatMap]
    rintro (hfirst | ⟨text, htext, hmem⟩)
    · exact h.1 hfirst
    · rcases List.mem_cons.1 hmem with hcomma | hmem
      · exact absurd hcomma (by decide)
      · exact h.2 text htext hmem

theorem newline_not_mem_writeList {texts : List String}
    (h : ∀ text ∈ texts, '\n' ∉ text.toList) : '\n' ∉ (writeList texts).toList := by
  have hitems := newline_not_mem_intercalate h
  simpa [writeList] using hitems

theorem newline_not_mem_writeObject {members : List (String × String)}
    (h : ∀ m ∈ members, '\n' ∉ m.2.toList) : '\n' ∉ (writeObject members).toList := by
  have hmembers : ∀ text ∈ members.map writeMember, '\n' ∉ text.toList := by
    intro text htext
    obtain ⟨⟨key, value⟩, hm, rfl⟩ := List.mem_map.1 htext
    have hkey := newline_not_mem_writeString key
    have hvalue : '\n' ∉ value.toList := h _ hm
    simpa [writeMember] using ⟨hkey, hvalue⟩
  have hobject := toList_writeObject members []
  rw [List.append_nil] at hobject
  rw [hobject]
  have hitems := newline_not_mem_intercalate hmembers
  simpa using hitems

end Json

/-- A written response is on one line, whatever it says. -/
theorem Response.newline_not_mem_encode (r : Response) : '\n' ∉ r.encode.toList := by
  refine Json.newline_not_mem_writeObject ?_
  simp only [List.mem_append, List.mem_cons, List.not_mem_nil, or_false, Option.mem_toList]
  rintro m (((rfl | rfl) | h) | h)
  · exact Json.newline_not_mem_toString _
  · cases r.success <;> decide
  · split at h
    · cases h
    · rw [List.mem_singleton.1 h]
      refine Json.newline_not_mem_writeList ?_
      rintro _ hmem
      obtain ⟨line, -, rfl⟩ := List.mem_map.1 hmem
      exact Json.newline_not_mem_writeString line
  · obtain ⟨message, -, rfl⟩ := Option.map_eq_some_iff.1 h
    exact Json.newline_not_mem_writeString message

namespace Server

/-! ### The texts that are asked -/

variable {s : Session} {lines more : List InputLine}

/-- The texts before the first line that is not text. -/
def readable (lines : List (Option String)) : List String :=
  (lines.takeWhile Option.isSome).filterMap id

/-- The texts among these that are not blank. -/
def nonBlank (texts : List String) : List String :=
  texts.filter fun text => Text.trim text != ""

/-- The texts of an input that the server answers: its lines that are not blank, up to the first
that is not UTF-8. -/
def asked (input : List UInt8) : List String :=
  nonBlank (readable ((InputLine.cut input).map InputLine.decode?))

@[simp] theorem readable_nil : readable [] = [] := rfl

@[simp] theorem readable_none_cons (lines : List (Option String)) :
    readable (none :: lines) = [] := rfl

@[simp] theorem readable_some_cons (text : String) (lines : List (Option String)) :
    readable (some text :: lines) = text :: readable lines := rfl

theorem readable_append {lines : List (Option String)} (h : none ∉ lines)
    (more : List (Option String)) : readable (lines ++ more) = readable lines ++ readable more := by
  induction lines with
  | nil => rfl
  | cons line lines ih =>
    rw [List.mem_cons, not_or] at h
    rcases line with _ | text
    · exact absurd rfl h.1
    · simp [ih h.2]

theorem nonBlank_cons (text : String) (texts : List String) :
    nonBlank (text :: texts) =
      if Text.isAllBlank text then nonBlank texts else text :: nonBlank texts := by
  simp only [nonBlank, List.filter_cons, bne_iff_ne, ne_eq, ← Text.isAllBlank_iff, ite_not]

/-! ### Serving lines -/

/-- Serving lines is handling the texts among them one after another, blank ones apart, up to the
first line that is not text; and such a line is the only reason to fail. -/
theorem serve_eq (s : Session) (lines : List InputLine) :
    (serve s lines).session = after s (nonBlank (readable (lines.map InputLine.unwrapped?))) ∧
      (serve s lines).responses =
        responses s (nonBlank (readable (lines.map InputLine.unwrapped?))) ∧
      ((serve s lines).error? = none ↔ none ∉ lines.map InputLine.unwrapped?) := by
  induction lines generalizing s with
  | nil => exact ⟨rfl, rfl, by simp [serve]⟩
  | cons line lines ih =>
    rw [List.map_cons]
    cases htext : line.unwrapped? with
    | none =>
      have hturn : turn s line = .unreadable := by rw [turn, htext]
      rw [serve, hturn]
      exact ⟨rfl, rfl, by simp⟩
    | some text =>
      rw [readable_some_cons, nonBlank_cons]
      by_cases hblank : Text.isAllBlank text
      · have hturn : turn s line = .passed := by simp only [turn, htext, hblank, if_true]
        rw [serve, hturn, if_pos hblank]
        simpa using ih s
      · have hturn : turn s line = .answered (handleLine s text) := by
          simp only [turn, htext, hblank, Bool.false_eq_true, if_false]
        obtain ⟨hsession, hresponses, herror⟩ := ih (handleLine s text).session
        rw [serve, hturn, if_neg hblank]
        exact ⟨hsession, congrArg _ hresponses, by simpa using herror⟩

/-- After lines that are all text, the server goes on as from the session that they lead to. -/
theorem serve_append (h : (serve s lines).error? = none) (more : List InputLine) :
    (serve s (lines ++ more)).session = (serve (serve s lines).session more).session ∧
      (serve s (lines ++ more)).responses =
        (serve s lines).responses ++ (serve (serve s lines).session more).responses ∧
      ((serve s (lines ++ more)).error? = none ↔
        (serve (serve s lines).session more).error? = none) := by
  obtain ⟨hsession, hresponses, herror⟩ := serve_eq s lines
  obtain ⟨hsession', hresponses', herror'⟩ := serve_eq (serve s lines).session more
  obtain ⟨hsession'', hresponses'', herror''⟩ := serve_eq s (lines ++ more)
  have htext := herror.1 h
  have hasked : nonBlank (readable ((lines ++ more).map InputLine.unwrapped?)) =
      nonBlank (readable (lines.map InputLine.unwrapped?)) ++
        nonBlank (readable (more.map InputLine.unwrapped?)) := by
    rw [List.map_append, readable_append htext, nonBlank, List.filter_append]
    rfl
  rw [hasked] at hsession'' hresponses''
  refine ⟨?_, ?_, ?_⟩
  · rw [hsession'', after_append, ← hsession, ← hsession']
  · rw [hresponses'', responses_append, ← hsession, ← hresponses, ← hresponses']
  · rw [herror'', herror', List.map_append, List.mem_append, not_or]
    exact and_iff_right htext

/-! ### What is written -/

/-- Every response is on a line of its own, and nothing is behind the last. -/
theorem pieces_responseLines (rs : List Response) :
    Text.pieces (String.join (rs.map responseLine)) = rs.map Response.encode ++ [""] := by
  rw [Text.pieces_eq]
  induction rs with
  | nil => decide
  | cons r rs ih =>
    have hfirst : (String.join ((r :: rs).map responseLine)).toList =
        r.encode.toList ++ '\n' :: (String.join (rs.map responseLine)).toList := by
      simp [responseLine, String.join_cons]
    rw [hfirst, List.splitOn_append_cons_self_of_not_mem r.newline_not_mem_encode, List.map_cons,
      ih, String.ofList_toList]
    rfl

/-! ### Where a refusal points -/

/-- The lines of an input hold no newline. -/
theorem newline_not_mem_of_mem_cut {input line : List UInt8} (h : line ∈ InputLine.cut input) :
    10 ∉ line := by
  have hpiece : ∀ piece ∈ input.splitOn 10, 10 ∉ piece := fun _ => Text.not_mem_of_mem_splitOn
  rw [InputLine.cut, List.mem_append] at h
  rcases h with h | h
  · obtain ⟨piece, hmem, rfl⟩ := List.mem_map.1 h
    have hnot := hpiece piece (List.dropLast_subset _ hmem)
    rw [InputLine.withoutReturn]
    split
    · exact fun hlast => hnot (List.dropLast_subset _ hlast)
    · exact hnot
  · exact hpiece line (List.mem_of_getLast? (Option.mem_toList.1 (List.mem_of_mem_filter h)))

/-- A line that is answered is one of the lines of the input. -/
theorem bytes_mem_cut_of_mem_asked {input : List UInt8} {line : String} (h : line ∈ asked input) :
    InputLine.bytes line ∈ InputLine.cut input := by
  obtain ⟨text?, hmem, rfl⟩ := List.mem_filterMap.1 (List.mem_of_mem_filter h)
  obtain ⟨piece, hpiece, htext⟩ := List.mem_map.1 ((List.takeWhile_sublist _).subset hmem)
  exact InputLine.decode?_eq_some_iff.1 htext ▸ hpiece

/-- A refusal points into the line that is refused: the only line there is, and not behind its
last byte. -/
theorem location_of_mem_asked {input : List UInt8} {line : String} {error : Json.Error}
    (h : line ∈ asked input) (herror : Request.decode line = .error error) :
    error.location.line = 1 ∧ error.location.column ≤ line.utf8ByteSize := by
  have hline := newline_not_mem_of_mem_cut (bytes_mem_cut_of_mem_asked h)
  obtain ⟨seen, hlocation⟩ := Json.exists_location_of_decode_eq_error herror
  have hseen : 10 ∉ line.toUTF8.data.toList.take seen := fun hmem =>
    hline (List.mem_of_mem_take hmem)
  rw [hlocation, Json.Location.behind_of_newline_not_mem hseen]
  exact ⟨rfl, List.length_take_le' _ _⟩

example : (handleLine (.initial 5) "\x7b\x22seq\x22: 1\x7d").response.message? =
    some "invalid request: missing field \x60command\x60 at line 1 column 10" := by
  decide +kernel

/-! ### The whole input -/

/-- **One line in, one line out.** From whatever session the server starts, what it writes for an
input is the response to each of its lines in turn, blank ones apart, up to the first that is not
UTF-8, each response on a line of its own. Nothing in a response can end its line, so cutting at
the newlines and reading each piece gives the responses back. The service fails if and only if a
line is not UTF-8. And if an input is empty or ends in a newline and is served without failing,
then what follows it is served as if it came alone to the session that is left. -/
theorem serve_frames (s : Session) (input : List UInt8) :
    let service := serve s (InputLine.ofBytes input)
    (service.responses = responses s (asked input) ∧ service.session = after s (asked input) ∧
        service.written =
          String.join ((responses s (asked input)).map fun r => r.encode ++ "\n")) ∧
      (∀ r : Response, '\n' ∉ r.encode.toList) ∧
      (Text.pieces service.written =
          (responses s (asked input)).map Response.encode ++ [""] ∧
        (Text.pieces service.written).dropLast.map Response.decode =
          (responses s (asked input)).map .ok) ∧
      (service.error?.isSome ↔
        ∃ line ∈ InputLine.cut input, ∀ text, line ≠ InputLine.bytes text) ∧
      ∀ more : List UInt8, (input = [] ∨ input.getLast? = some 10) → service.error? = none →
        let later := serve service.session (InputLine.ofBytes more)
        (serve s (InputLine.ofBytes (input ++ more))).written =
            service.written ++ later.written ∧
          (serve s (InputLine.ofBytes (input ++ more))).session = later.session ∧
          ((serve s (InputLine.ofBytes (input ++ more))).error?.isSome ↔ later.error?.isSome) := by
  intro service
  obtain ⟨hsession, hresponses, herror⟩ := serve_eq s (InputLine.ofBytes input)
  rw [InputLine.map_unwrapped?_ofBytes] at hsession hresponses herror
  have hlines : Text.pieces service.written =
      (responses s (asked input)).map Response.encode ++ [""] := by
    rw [Service.written, pieces_responseLines, hresponses]
    rfl
  refine ⟨⟨hresponses, hsession, ?_⟩, Response.newline_not_mem_encode, ⟨hlines, ?_⟩, ?_, ?_⟩
  · rw [Service.written, hresponses]
    rfl
  · rw [hlines, List.dropLast_concat, List.map_map]
    exact List.map_congr_left fun r _ => r.decode_encode
  · rw [← Option.ne_none_iff_isSome, ne_eq, herror, not_not, List.mem_map]
    simp only [InputLine.decode?_eq_none_iff]
  · intro more hend hnone later
    obtain ⟨hsession', hresponses', herror'⟩ := serve_append hnone (InputLine.ofBytes more)
    rw [InputLine.ofBytes_append hend]
    refine ⟨?_, hsession', ?_⟩
    · rw [Service.written, hresponses', List.map_append, String.join_append]
      rfl
    · rw [← Option.ne_none_iff_isSome, ← Option.ne_none_iff_isSome]
      exact not_congr herror'

/-- A request that ends in a carriage return and a newline, and a line of two blanks. -/
def quietInput : List UInt8 :=
  "[1,\x22set code\x22]\r\n\t \n".toUTF8.data.toList

/-- Something that is no request, a line that is not UTF-8, and a request behind it. -/
def spoiltInput : List UInt8 := [0x78, 0x0a, 0xff, 0x0a] ++ "[2,\x22run\x22]".toUTF8.data.toList

/-- Served one after the other, the two have one response each: the blank line has none, and the
last request is not read. -/
theorem spoiltInput_framed :
    quietInput.getLast? = some 10 ∧
      (serve (.initial 5) (InputLine.ofBytes quietInput)).error? = none ∧
      (serve (.initial 5) (InputLine.ofBytes (quietInput ++ spoiltInput))).written =
        "\x7b\x22request_seq\x22:1,\x22success\x22:true\x7d\n" ++
          (serve (serve (.initial 5) (InputLine.ofBytes quietInput)).session
            (InputLine.ofBytes spoiltInput)).written ∧
      (serve (.initial 5) (InputLine.ofBytes (quietInput ++ spoiltInput))).error?.isSome ∧
      (asked spoiltInput).length = 1 := by
  have hend : quietInput.getLast? = some 10 := by decide +kernel
  have hnone : (serve (.initial 5) (InputLine.ofBytes quietInput)).error? = none := by
    decide +kernel
  obtain ⟨-, -, -, -, htwo⟩ := serve_frames (.initial 5) quietInput
  obtain ⟨hwritten, -, herror⟩ := htwo spoiltInput (.inr hend) hnone
  have hfirst : (serve (.initial 5) (InputLine.ofBytes quietInput)).written =
      "\x7b\x22request_seq\x22:1,\x22success\x22:true\x7d\n" := by decide +kernel
  rw [hwritten, hfirst, herror]
  exact ⟨hend, hnone, rfl, by decide +kernel, by decide +kernel⟩

end Server

end LineDebugger
