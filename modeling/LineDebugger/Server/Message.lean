import LineDebugger.Json.Record
import LineDebugger.Json.Writer

/-!
# Requests and responses

A request is one line for the session, with a number by which its response can be told. The
response holds the lines of output that the request caused and, if it failed, a message; what is
empty or absent is not written.

## Main definitions

* `Request`, `Response` — what goes in, what comes out
* `Request.encode`, `Response.encode` — writing them
* `Request.decode`, `Response.decode` — reading them
-/

namespace LineDebugger

/-- A line for the session. -/
structure Request where
  seq : UInt64
  command : String
deriving DecidableEq

/-- What came of a request. -/
structure Response where
  requestSeq : UInt64
  success : Bool
  output : List String
  message? : Option String
deriving DecidableEq

namespace Request

/-- Writes a request. -/
def encode (r : Request) : String :=
  Json.writeObject
    [("seq", toString r.seq.toNat), ("command", Json.writeString r.command)]

/-- The request as a record. -/
def record : Json.Record Request where
  name := "Request"
  blank := ⟨0, ""⟩
  fields :=
    [⟨"seq", true, Json.Reader.natural.map fun n r => { r with seq := n }⟩,
      ⟨"command", true, Json.Reader.string.map fun c r => { r with command := c }⟩]

/-- Reads a request. -/
def decode (text : String) : Except Json.Error Request := Json.decode record.reader text

end Request

namespace Response

/-- Writes a response. -/
def encode (r : Response) : String :=
  Json.writeObject <|
    [("request_seq", toString r.requestSeq.toNat), ("success", Json.writeBoolean r.success)] ++
      (if r.output.isEmpty then []
        else [("output", Json.writeList (r.output.map Json.writeString))]) ++
      (r.message?.map fun message => ("message", Json.writeString message)).toList

/-- The response as a record. -/
def record : Json.Record Response where
  name := "Response"
  blank := ⟨0, false, [], none⟩
  fields :=
    [⟨"request_seq", true, Json.Reader.natural.map fun n r => { r with requestSeq := n }⟩,
      ⟨"success", true, Json.Reader.boolean.map fun b r => { r with success := b }⟩,
      ⟨"output", false,
        (Json.Reader.list Json.Reader.string).map fun ls r => { r with output := ls }⟩,
      ⟨"message", false, Json.Reader.optionalString.map fun m r => { r with message? := m }⟩]

/-- Reads a response. -/
def decode (text : String) : Except Json.Error Response := Json.decode record.reader text

end Response

end LineDebugger
