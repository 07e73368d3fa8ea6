import LineDebugger.Proofs.Json.Readers
import LineDebugger.Server.Message

/-!
# Messages survive the wire

A request or a response that is written and read again is the same one. A request has two members
and always the same shape. A response has four shapes: the member for its output is left out when
there is none, and the member for its message when there is no message, and a reader that misses
one of them puts nothing in its place. An empty message is not the same as no message, and is
written.

A message can come in other texts than the one that is written for it: with blanks, with its
members in another order or in a list, with others among them. What is read from such a text is a
message all the same, so written again and read again it is the same message, in the same text.

## Main results

* `Request.reads`, `Response.reads` — a written message is read back, whatever follows it
* `Server.messages_survive_wire` — both directions, for requests and for responses
-/

namespace LineDebugger

open Json

theorem Request.reads (r : Request) : Reads record.reader.run r.encode r := by
  obtain ⟨seq, command⟩ := r
  have hseq := (reads_toString seq).scalar (f := Reader.wanted .natural) rfl
  have hcommand : Reads Reader.string.run (writeString command) command :=
    (reads_writeString command).scalar rfl
  have hfills : record.Fills [] record.blank
      [("seq", toString seq.toNat), ("command", writeString command)] ["command", "seq"]
      ⟨seq, command⟩ :=
    .member rfl rfl (hseq.map _) (.member rfl rfl (hcommand.map _) (.done _ _))
  exact hfills.reads rfl

namespace Response

/-- The members that are left out when there is nothing to say. -/
theorem fills_optional (seq : UInt64) (success : Bool) (output : List String)
    (message? : Option String) :
    ∃ given, record.missing? given = none ∧
      record.Fills ["success", "request_seq"] ⟨seq, success, [], none⟩
        ((if output.isEmpty then [] else [("output", writeList (output.map writeString))]) ++
          (message?.map fun message => ("message", writeString message)).toList)
        given ⟨seq, success, output, message?⟩ := by
  have houtput := reads_writeList_writeString output
  have hmessage : ∀ message,
      Reads Reader.optionalString.run (writeString message) (some message) :=
    fun message => (reads_writeString message).scalar rfl
  rcases output with _ | ⟨line, output⟩ <;> rcases message? with _ | message
  · exact ⟨_, rfl, .done _ _⟩
  · exact ⟨_, rfl, .member rfl rfl ((hmessage message).map _) (.done _ _)⟩
  · exact ⟨_, rfl, .member rfl rfl (houtput.map _) (.done _ _)⟩
  · exact ⟨_, rfl, .member rfl rfl (houtput.map _)
      (.member rfl rfl ((hmessage message).map _) (.done _ _))⟩

theorem reads (r : Response) : Reads record.reader.run r.encode r := by
  obtain ⟨seq, success, output, message?⟩ := r
  have hseq := (reads_toString seq).scalar (f := Reader.wanted .natural) rfl
  have hsuccess : Reads Reader.boolean.run (writeBoolean success) success :=
    (reads_writeBoolean success).scalar rfl
  obtain ⟨given, hgiven, hoptional⟩ := fills_optional seq success output message?
  have hfills : record.Fills [] record.blank
      (("request_seq", toString seq.toNat) :: ("success", writeBoolean success) :: _) given
      ⟨seq, success, output, message?⟩ :=
    .member rfl rfl (hseq.map _) (.member rfl rfl (hsuccess.map _) hoptional)
  exact hfills.reads hgiven

end Response

/-- A written request is decoded as the request. -/
theorem Request.decode_encode (r : Request) : decode r.encode = .ok r := r.reads.decode

/-- A written response is decoded as the response. -/
theorem Response.decode_encode (r : Response) : decode r.encode = .ok r := r.reads.decode

namespace Server

/-- **Messages survive the wire.** Every request and every response is read as it was written. So
what is read from any text, however that was written, is the same message when it is written and
read again, and a second writing gives the text of the first. -/
theorem messages_survive_wire :
    (∀ r : Request, Request.decode r.encode = .ok r) ∧
      (∀ r : Response, Response.decode r.encode = .ok r) ∧
      (∀ text r, Request.decode text = .ok r →
        Request.decode r.encode = .ok r ∧
          (Request.decode r.encode).map Request.encode = .ok r.encode) ∧
      ∀ text r, Response.decode text = .ok r →
        Response.decode r.encode = .ok r ∧
          (Response.decode r.encode).map Response.encode = .ok r.encode := by
  refine ⟨Request.decode_encode, Response.decode_encode, ?_, ?_⟩
  · intro text r _
    rw [Request.decode_encode]
    exact ⟨rfl, rfl⟩
  · intro text r _
    rw [Response.decode_encode]
    exact ⟨rfl, rfl⟩

/-- A request by another hand: its members in another order with another one among them, blanks
between them, and an escape in place of a letter. -/
def foreignRequest : String :=
  "\x7b\x22command\x22 : \x22r\\u0075n\x22, \x22id\x22: [\x7b\x7d], " ++
    "\x22seq\x22: 18446744073709551615\x7d"

/-- A response as a list, with one empty line of output and no message. -/
def foreignResponse : String := "[ 3, true, [\x22\x22], null ]"

/-- Both are read, and what is read from them survives. -/
theorem foreign_messages_survive :
    (Request.decode foreignRequest = .ok ⟨18446744073709551615, "run"⟩ ∧
        Request.decode (Request.encode ⟨18446744073709551615, "run"⟩) =
          .ok ⟨18446744073709551615, "run"⟩) ∧
      Response.decode foreignResponse = .ok ⟨3, true, [""], none⟩ ∧
        Response.decode (Response.encode ⟨3, true, [""], none⟩) = .ok ⟨3, true, [""], none⟩ := by
  obtain ⟨-, -, hrequests, hresponses⟩ := messages_survive_wire
  have hrequest : Request.decode foreignRequest = .ok ⟨18446744073709551615, "run"⟩ :=
    eq_ok_of_toOption (by decide +kernel)
  have hresponse : Response.decode foreignResponse = .ok ⟨3, true, [""], none⟩ :=
    eq_ok_of_toOption (by decide +kernel)
  exact ⟨⟨hrequest, (hrequests _ _ hrequest).1⟩, hresponse, (hresponses _ _ hresponse).1⟩

end Server

end LineDebugger
