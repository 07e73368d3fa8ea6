/-!
# Shell words

A file name on the console is written the way a POSIX shell reads one: words are separated by
spaces, tabs and newlines, single quotes keep everything, double quotes keep everything but a
few escapes, and a backslash keeps the character after it. A `#` where a word could begin starts
a comment that runs to the end of the line. No other blank separates words.

Reading is one pass over the characters. A text is refused when it ends inside quotes or straight
after a backslash.

## Main definitions

* `ShellWords.Place` — where in a word the reader stands
* `ShellWords.split?` — the words of a text
-/

namespace LineDebugger.ShellWords

/-- Where the reader stands. -/
inductive Place
  /-- Between two words. -/
  | gap
  /-- In a comment. -/
  | comment
  /-- In a word, outside quotes. -/
  | bare
  /-- After a backslash outside quotes. -/
  | bareEscape
  /-- Between single quotes. -/
  | single
  /-- Between double quotes. -/
  | double
  /-- After a backslash between double quotes. -/
  | doubleEscape
deriving DecidableEq

/-- The characters that separate words. -/
def isGap (c : Char) : Bool := c == ' ' || c == '\t' || c == '\n'

/-- The characters that lose their backslash between double quotes. -/
def isEscapable (c : Char) : Bool := c == '$' || c == '\x60' || c == '\x22' || c == '\\'

/-- What a character that separates no words does to the word being read, outside quotes. The
word is kept with its last character first. -/
def bareStep (word : List Char) (c : Char) : Place × List Char :=
  if c == '\x22' then (.double, word)
  else if c == '\x27' then (.single, word)
  else if c == '\\' then (.bareEscape, word)
  else (.bare, c :: word)

/-- What a character does inside a word that goes on after it. -/
def step : Place → List Char → Char → Place × List Char
  | .gap, _, c => if c == '#' then (.comment, []) else bareStep [] c
  | .comment, word, c => if c == '\n' then (.gap, word) else (.comment, word)
  | .bare, word, c => bareStep word c
  | .bareEscape, word, c => (.bare, if c == '\n' then word else c :: word)
  | .single, word, c => if c == '\x27' then (.bare, word) else (.single, c :: word)
  | .double, word, c =>
    if c == '\x22' then (.bare, word)
    else if c == '\\' then (.doubleEscape, word)
    else (.double, c :: word)
  | .doubleEscape, word, c =>
    (.double, if c == '\n' then word else if isEscapable c then c :: word else c :: '\\' :: word)

/-- The words of what is left to read. -/
def splitFrom : Place → List Char → List Char → Option (List String)
  | .gap, _, [] => some []
  | .comment, _, [] => some []
  | .bare, word, [] => some [String.ofList word.reverse]
  | _, _, [] => none
  | .gap, word, c :: cs =>
    if isGap c then splitFrom .gap [] cs
    else splitFrom (step .gap word c).1 (step .gap word c).2 cs
  | .bare, word, c :: cs =>
    if isGap c then (splitFrom .gap [] cs).map (String.ofList word.reverse :: ·)
    else splitFrom (step .bare word c).1 (step .bare word c).2 cs
  | place, word, c :: cs => splitFrom (step place word c).1 (step place word c).2 cs

/-- The words of a text, unless it ends in the middle of a quotation. -/
def split? (text : String) : Option (List String) := splitFrom .gap [] text.toList

end LineDebugger.ShellWords
