/-!
# Runs and words

A text is cut into *runs*: maximal stretches of characters that are not separators. Both places
where the language cuts text are runs of one kind or another. A program is the runs between
newlines, which is why empty lines vanish and why no other character is ever lost. A line is the
runs between blanks, its words.

Blanks are the whole Unicode property `White_Space`, not only the ASCII part of it that
`Char.isWhitespace` knows: program texts may hold any character.

## Main definitions

* `Text.runs` — the maximal runs of characters that are not separators
* `Text.isBlank` — the property `White_Space`
* `Text.words` — the runs between blanks
* `Text.isAllBlank` — is there nothing but blanks?
* `Text.trim` — a text without the blanks at its ends
-/

namespace LineDebugger.Text

/-- The maximal runs of characters of `text` that `cut` does not hold of, in order. -/
def runs (cut : Char → Bool) (text : String) : List String :=
  ((text.toList.splitOnP cut).filter (!·.isEmpty)).map String.ofList

/-- A run is never empty: two separators side by side have nothing between them. -/
theorem ne_empty_of_mem_runs {cut : Char → Bool} {text run : String} (h : run ∈ runs cut text) :
    run ≠ "" := by
  obtain ⟨cs, hcs, rfl⟩ := List.mem_map.1 h
  intro he
  have := congrArg String.toList he
  simp_all

/-- The characters with the Unicode property `White_Space`. -/
def isBlank (c : Char) : Bool :=
  let n := c.toNat
  (0x09 ≤ n && n ≤ 0x0D) || n == 0x20 || n == 0x85 || n == 0xA0 || n == 0x1680 ||
    (0x2000 ≤ n && n ≤ 0x200A) || n == 0x2028 || n == 0x2029 || n == 0x202F || n == 0x205F ||
    n == 0x3000

/-- The words of a text: its runs between blanks. -/
def words (text : String) : List String := runs isBlank text

/-- Is there nothing but blanks in the text? -/
def isAllBlank (text : String) : Bool := text.toList.all isBlank

/-- The text without the blanks at its ends. -/
def trim (text : String) : String :=
  String.ofList ((text.toList.dropWhile isBlank).reverse.dropWhile isBlank).reverse

end LineDebugger.Text
