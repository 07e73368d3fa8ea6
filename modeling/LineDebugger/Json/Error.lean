import LineDebugger.Decimal.Shortest
import LineDebugger.Json.Token
import LineDebugger.Text.Quoted

/-!
# Errors of decoding

Decoding a text into a value fails in two ways. The text itself can be at fault, or the text is in
order so far but does not describe the value that is wanted. The second kind of error is found
while reading, so it wins over any fault further on. Either way an error is shown with the line and
the column behind what has been looked at.

A value of the wrong kind is described by its *head*: a scalar is shown, of a list or an object
nothing has been read but its bracket. A double is shown as its shortest decimal, always with a
point or an exponent.

## Main definitions

* `Json.Head` — how a value begins
* `Json.Mismatch` — why a text does not describe the value that is wanted
* `Json.Reason` — why decoding failed
* `Json.Error`, `Json.Error.category`, `Json.Error.message` — why and where it failed
-/

namespace LineDebugger.Json

/-! ### Doubles -/

/-- The layout of a double: the places of the leading digit at which the double is written out
without an exponent, counted from the place before the point. -/
structure FloatFormat where
  leastPlain : Int
  greatestPlain : Int

/-- From a hundred-thousandth up to 16 digits before the point, a double is written out; any other
has an exponent with its sign, a plus included, and with no more digits than it needs. -/
def floatFormat : FloatFormat := ⟨-5, 15⟩

/-- The text of the decimal `digits * 10 ^ exponent`. -/
def decimalText (f : FloatFormat) (d : Decimal) : String :=
  let digits := Nat.toDigits 10 d.digits
  let zeros (n : Nat) := List.replicate n '0'
  let leading : Int := d.exponent + digits.length - 1
  String.ofList <|
    if f.leastPlain ≤ leading && leading ≤ f.greatestPlain then
      if 0 ≤ d.exponent then digits ++ zeros d.exponent.toNat ++ ['.', '0']
      else if 0 ≤ leading then
        digits.take (leading.toNat + 1) ++ '.' :: digits.drop (leading.toNat + 1)
      else '0' :: '.' :: zeros ((-leading).toNat - 1) ++ digits
    else
      digits.take 1 ++ (if digits.length = 1 then [] else '.' :: digits.drop 1) ++
        ['e', if leading < 0 then '-' else '+'] ++ Nat.toDigits 10 leading.natAbs

/-- The text of a finite double. -/
def floatText (x : Float) : String :=
  let negative := x.toBits >>> 63 == 1
  let magnitude :=
    if x == 0 then "0.0"
    else decimalText floatFormat (Decimal.Shortest.decimal (Decimal.Binary.ofFloat x))
  if negative then "-" ++ magnitude else magnitude

/-! ### Heads -/

/-- How a value begins: all of a scalar, or the kind of a container. -/
inductive Head
  | null
  | boolean (b : Bool)
  | number (n : Number)
  | string (text : String)
  | list
  | object

/-- A head in words. -/
def Head.message : Head → String
  | null => "null"
  | boolean b => "boolean \x60" ++ toString b ++ "\x60"
  | number (.natural n) => "integer \x60" ++ toString n.toNat ++ "\x60"
  | number (.negative n) => "integer \x60" ++ toString n.toInt ++ "\x60"
  | number (.float x) => "floating point \x60" ++ floatText x ++ "\x60"
  | string text => "string " ++ Text.quoted text
  | list => "sequence"
  | object => "map"

/-- The head that a token makes, unless it is a number too large for a double; `r` is what follows
the token. -/
def Head.ofToken (t : Token) (r : List Char) : Except (Stop TextError) Head :=
  match t with
  | .null => .ok .null
  | .boolean b => .ok (.boolean b)
  | .number negative text =>
    match text.value? negative with
    | some n => .ok (.number n)
    | none => .error ⟨.grammar .numberTooLarge, byteCount r + text.unseen⟩
  | .string text => .ok (.string text)
  | .list => .ok .list
  | .object => .ok .object

/-- How many bytes at the front of a value have not been looked at when its head is known: a list or
an object is known by its bracket before that is taken. -/
def Head.unseen : Head → Nat
  | list | object => 1
  | _ => 0

/-! ### Errors -/

/-- What kind of value is wanted. -/
inductive Wanted
  /-- A number of 64 bits. -/
  | natural
  /-- A count. -/
  | count
  | string
  | boolean
  | list
  /-- A record of this name. -/
  | record (name : String)
deriving DecidableEq

/-- What is wanted, in words. -/
def Wanted.message : Wanted → String
  | natural => "u64"
  | count => "usize"
  | string => "a string"
  | boolean => "a boolean"
  | list => "a sequence"
  | record name => s!"struct {name}"

/-- Why a text does not describe the value that is wanted. -/
inductive Mismatch
  /-- A value of another kind stands here. -/
  | kind (found : Head) (wanted : Wanted)
  /-- A value of the right kind stands here, but it is out of range. -/
  | range (found : Head) (wanted : Wanted)
  /-- A list is too short to be the record. -/
  | length (found : Nat) (record : String) (fields : Nat)
  /-- A member that must be there is not. -/
  | missing (field : String)
  /-- A member is there twice. -/
  | duplicate (field : String)

/-- Why decoding failed. -/
inductive Reason
  | text (error : TextError)
  | mismatch (m : Mismatch)

/-- Decoding stops at a value because of its head; `r` is what follows the head. -/
def Head.stop (head : Head) (r : List Char) (m : Mismatch) : Stop Reason :=
  ⟨.mismatch m, byteCount r + head.unseen⟩

/-- Why and where decoding failed. -/
structure Error where
  reason : Reason
  location : Location

/-- The three categories of errors. -/
inductive Category
  /-- The text ended too soon. -/
  | incomplete
  /-- The grammar does not allow the text. -/
  | grammar
  /-- The text describes something else. -/
  | content
deriving DecidableEq

/-- The category of an error. -/
def Error.category (e : Error) : Category :=
  match e.reason with
  | .text (.ended _) => .incomplete
  | .text (.grammar _) => .grammar
  | .mismatch _ => .content

/-- A place in words. -/
def Place.message : Place → String
  | value => "a value"
  | object => "an object"
  | list => "a list"
  | string => "a string"

/-- A fault in words. -/
def Fault.message : Fault → String
  | expectedValue => "expected value"
  | expectedWord => "expected ident"
  | expectedColon => "expected \x60:\x60"
  | expectedCommaOrBrace => "expected \x60,\x60 or \x60\x7d\x60"
  | expectedCommaOrBracket => "expected \x60,\x60 or \x60]\x60"
  | keyNotString => "key must be a string"
  | trailingComma => "trailing comma"
  | trailingText => "trailing characters"
  | badNumber => "invalid number"
  | numberTooLarge => "number out of range"
  | badEscape => "invalid escape"
  | controlCharacter =>
    "control character (\\u0000-\\u001F) found while parsing a string"
  | halfPair => "unexpected end of hex escape"
  | loneSurrogate => "lone leading surrogate in hex escape"

/-- A mismatch in words. -/
def Mismatch.message : Mismatch → String
  | kind found wanted => s!"invalid type: {found.message}, expected {wanted.message}"
  | range found wanted => s!"invalid value: {found.message}, expected {wanted.message}"
  | length found record fields =>
    s!"invalid length {found}, expected struct {record} with {fields} elements"
  | missing field => "missing field \x60" ++ field ++ "\x60"
  | duplicate field => "duplicate field \x60" ++ field ++ "\x60"

/-- A reason in words. -/
def Reason.message : Reason → String
  | text (.ended place) => s!"EOF while parsing {place.message}"
  | text (.grammar fault) => fault.message
  | mismatch m => m.message

/-- An error in words. -/
def Error.message (e : Error) : String :=
  s!"{e.reason.message} at line {e.location.line} column {e.location.column}"

end LineDebugger.Json
