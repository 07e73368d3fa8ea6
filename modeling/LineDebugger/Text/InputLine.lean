/-!
# Lines of input

Input arrives as bytes and is cut at newlines before it is decoded, so a line that is not UTF-8
spoils itself and nothing before it. The newline is not part of a line. The last line may lack
one; a line that holds nothing and has no newline is no line at all.

A line remembers whether a newline ended it, because the two readers of input treat a carriage
return differently: one drops a single carriage return that stood before a newline, the other
drops all that stand at the end.

## Main definitions

* `InputLine` — a decoded line, or one that cannot be decoded
* `InputLine.ofBytes` — the lines of an input
* `InputLine.unwrapped?`, `InputLine.stripped?` — the text under the two rules
-/

namespace LineDebugger

/-- One line of input. -/
structure InputLine where
  /-- The text before the newline, unless its bytes are not UTF-8. -/
  text? : Option String
  /-- Did a newline end the line? -/
  ended : Bool
deriving DecidableEq

namespace InputLine

/-- Bytes as text, if they are UTF-8. -/
def decode? (bytes : List UInt8) : Option String := String.fromUTF8? ⟨bytes.toArray⟩

/-- The lines of an input. -/
def ofBytes (bytes : List UInt8) : List InputLine :=
  let pieces := bytes.splitOn 10
  pieces.dropLast.map (⟨decode? ·, true⟩) ++
    (pieces.getLast?.toList.filter (!·.isEmpty)).map (⟨decode? ·, false⟩)

/-- The text without the carriage return of a line that ended in a carriage return and a
newline. -/
def unwrapped? (line : InputLine) : Option String :=
  line.text?.map fun text =>
    match line.ended, text.toList.reverse with
    | true, '\r' :: cs => String.ofList cs.reverse
    | _, _ => text

/-- The text without any carriage returns at its end. -/
def stripped? (line : InputLine) : Option String :=
  line.text?.map fun text => String.ofList (text.toList.reverse.dropWhile (· == '\r')).reverse

end InputLine

end LineDebugger
