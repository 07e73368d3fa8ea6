import LineDebugger.Error
import LineDebugger.Json.Record

/-!
# Configuration

The configuration says how deeply calls may nest and which log entries are shown. It is a record of
JSON in which every field may be left out.

## Main definitions

* `Config` — the configuration
* `Config.ofText` — reading a configuration
* `ConfigError` — why a configuration file could not be used
-/

namespace LineDebugger

/-- The configuration. -/
structure Config where
  /-- How many calls may be under way at once. -/
  depthLimit : Nat
  /-- Which log entries are shown, if nothing else says so. -/
  logLevel? : Option String
deriving DecidableEq

namespace Config

/-- The configuration when nothing is configured. -/
def standard : Config := ⟨1000, none⟩

/-- The configuration as a record. -/
def record : Json.Record Config where
  name := "DebuggerConfig"
  blank := standard
  fields :=
    [⟨"max_call_depth", false, Json.Reader.count.map fun n c => { c with depthLimit := n }⟩,
      ⟨"log_level", false, Json.Reader.optionalString.map fun l c => { c with logLevel? := l }⟩]

/-- Reads a configuration. -/
def ofText (text : String) : Except Json.Error Config := Json.decode record.reader text

end Config

/-- Why a configuration file could not be used. -/
inductive ConfigError
  /-- It could not be read. -/
  | read (error : ReadError)
  /-- It holds no configuration. -/
  | decode (error : Json.Error)

/-- The error in words. -/
def ConfigError.message : ConfigError → String
  | read error => s!"IO error: {error.message}"
  | decode error => s!"config error: {error.message}"

end LineDebugger
