import LineDebugger.Json.String

/-!
# Writing JSON

Values are written without any blanks. A record is written as an object with its members in a
fixed order.

## Main definitions

* `Json.writeBoolean`, `Json.writeList`, `Json.writeObject` — the kinds of values beside strings
-/

namespace LineDebugger.Json

/-- A truth value. -/
def writeBoolean : Bool → String
  | true => "true"
  | false => "false"

/-- A list of values that are written already. -/
def writeList (items : List String) : String := "[" ++ ",".intercalate items ++ "]"

/-- An object of values that are written already, each after its key. -/
def writeObject (members : List (String × String)) : String :=
  "\x7b" ++ ",".intercalate (members.map fun (key, value) => writeString key ++ ":" ++ value) ++
    "\x7d"

end LineDebugger.Json
