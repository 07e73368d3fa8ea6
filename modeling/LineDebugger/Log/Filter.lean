import LineDebugger.Log.Entry
import LineDebugger.Text.Words

/-!
# Which log entries are shown

A filter is written as directives between commas. A directive is a level for everything, or the
beginning of an origin's name with a level for it, or such a beginning alone, which shows all of
it. Of the directives that apply to an entry the one with the longest name decides; an entry to
which none applies is not shown. A filter without directives shows errors only. After a slash a
text may follow that an entry's message has to contain.

A word that is no level is taken for a name. Most such words are the beginning of no origin, so
nothing is shown then.

A directive that makes no sense is left out with a warning.

## Main definitions

* `Log.Directive`, `Log.Filter` — what is to be shown
* `Log.Filter.ofText` — reading a filter, with warnings
* `Log.Filter.shows` — is an entry shown?
-/

namespace LineDebugger.Log

/-- A directive: entries from origins with this beginning are shown up to a rank. -/
structure Directive where
  /-- The beginning of the origin's name; none for all origins. -/
  name? : Option String
  /-- The greatest rank that is shown. -/
  rank : Nat
deriving DecidableEq

/-- What is to be shown. -/
structure Filter where
  directives : List Directive
  /-- A text that messages have to contain. -/
  pattern? : Option String
deriving DecidableEq

/-- The words for ranks, from no entries at all to more than there are. -/
def rankWords : List String := ["off", "error", "warn", "info", "debug", "trace"]

/-- The rank that a word stands for, in capitals or not. -/
def rankOfWord? (word : String) : Option Nat := rankWords.findIdx? (· == word.map Char.toLower)

/-- The rank at which everything is shown. -/
def fullRank : Nat := 5

namespace Directive

/-- Reads a directive; the alternative is a warning. -/
def ofText (text : String) : Except String Directive :=
  match (text.toList.splitOn '=').map String.ofList with
  | [word] =>
    match rankOfWord? word with
    | some rank => .ok ⟨none, rank⟩
    | none => .ok ⟨some word, fullRank⟩
  | [name, word] =>
    if Text.isAllBlank word then .ok ⟨some name, fullRank⟩
    else
      match rankOfWord? (Text.trim word) with
      | some rank => .ok ⟨some name, rank⟩
      | none => .error s!"invalid logging spec '{Text.trim word}'"
  | _ => .error s!"invalid logging spec '{text}'"

/-- The length of the name. -/
def weight (d : Directive) : Nat := d.name?.elim 0 String.utf8ByteSize

/-- Does the directive apply to an origin? -/
def appliesTo (d : Directive) (origin : Origin) : Bool :=
  d.name?.all fun name => name.toList.isPrefixOf origin.target.toList

end Directive

namespace Filter

/-- Adds a directive, in the place of one with the same name if there is one. -/
def insert (directives : List Directive) (d : Directive) : List Directive :=
  if directives.any (·.name? == d.name?) then
    directives.map fun old => if old.name? == d.name? then d else old
  else directives ++ [d]

/-- Reads the directives between commas, with warnings. -/
def readDirectives (text : String) : List Directive × List String :=
  let parts := ((text.toList.splitOn ',').map fun cs => Text.trim (String.ofList cs)).filter
    (· != "")
  parts.foldl
    (fun (directives, warnings) part =>
      match Directive.ofText part with
      | .ok d => (insert directives d, warnings)
      | .error warning => (directives, warnings ++ [warning]))
    ([], [])

/-- The filter of some directives; without any, errors are shown. -/
def ofDirectives (directives : List Directive) (pattern? : Option String) : Filter :=
  ⟨if directives.isEmpty then [⟨none, Level.error.rank⟩] else directives, pattern?⟩

/-- Reads a filter, with warnings. -/
def ofText (text : String) : Filter × List String :=
  match (text.toList.splitOn '/').map String.ofList with
  | [directives, pattern] =>
    let (ds, warnings) := readDirectives directives
    (ofDirectives ds (some pattern), warnings)
  | _ :: _ :: _ => (ofDirectives [] none, [s!"invalid logging spec '{text}' (too many '/'s)"])
  | _ =>
    let (ds, warnings) := readDirectives text
    (ofDirectives ds none, warnings)

/-- The directive that decides about an origin: the last one of those with the longest name. -/
def deciding? (filter : Filter) (origin : Origin) : Option Directive :=
  (filter.directives.filter (·.appliesTo origin)).foldl
    (fun best? d =>
      match best? with
      | none => some d
      | some best => if best.weight ≤ d.weight then some d else best?)
    none

/-- Is the entry shown? -/
def shows (filter : Filter) (entry : Entry) : Bool :=
  (filter.deciding? entry.origin).any (entry.level.rank ≤ ·.rank) &&
    filter.pattern?.all fun pattern => (entry.message.splitOn pattern).length > 1 || pattern == ""

end Filter

end LineDebugger.Log
