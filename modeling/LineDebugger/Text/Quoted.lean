import LineDebugger.Text.Printable

/-!
# Quoted text

Log lines and some messages show a text between double quotes, so that its beginning and end can
be seen. A quote and a backslash get a backslash before them, four control characters have a
letter, and any other character that cannot be shown on its own appears as its code point in
lower-case hexadecimal.

## Main definitions

* `Text.quoteChar` — how one character appears
* `Text.quoted` — a text between double quotes
* `Text.quotedList` — a list of texts between brackets
-/

namespace LineDebugger.Text

/-- A character as it appears between double quotes. -/
def quoteChar (c : Char) : List Char :=
  if c == '\x22' then ['\\', '\x22']
  else if c == '\\' then ['\\', '\\']
  else if c == '\n' then ['\\', 'n']
  else if c == '\r' then ['\\', 'r']
  else if c == '\t' then ['\\', 't']
  else if c == '\x00' then ['\\', '0']
  else if isPrintable c then [c]
  else ['\\', 'u', '\x7b'] ++ Nat.toDigits 16 c.toNat ++ ['\x7d']

/-- A text between double quotes. -/
def quoted (text : String) : String :=
  String.ofList ('\x22' :: text.toList.flatMap quoteChar ++ ['\x22'])

/-- A list of texts, each quoted, between brackets. -/
def quotedList (texts : List String) : String :=
  "[" ++ ", ".intercalate (texts.map quoted) ++ "]"

end LineDebugger.Text
