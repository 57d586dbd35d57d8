/-!
# The log

Records of what the program does, each with a level. A logger shows the
records from its level on; one that has no level of its own shows
warnings and what is worse.
-/

namespace Reckoner

/-- How grave a record is. -/
structure Level where
  rank : Int
  deriving DecidableEq, Repr

namespace Level

def debug : Level := ⟨10⟩
def info : Level := ⟨20⟩
def warning : Level := ⟨30⟩
def error : Level := ⟨40⟩
def critical : Level := ⟨50⟩

/-- The name of a level; one between those with a name goes by its
rank. -/
def name (l : Level) : String :=
  if l = debug then "DEBUG"
  else if l = info then "INFO"
  else if l = warning then "WARNING"
  else if l = error then "ERROR"
  else if l = critical then "CRITICAL"
  else s!"Level {l.rank}"

end Level

/-- A record of the log. -/
structure LogRecord where
  level : Level
  text : String
  deriving DecidableEq, Repr

/-- Records in the order in which they were made. -/
abbrev Log := List LogRecord

/-- The line that shows a record. -/
def LogRecord.line (r : LogRecord) (time : String) : String :=
  s!"{time} - {r.level.name} - {r.text}\n"

/-- **A logger:** its level, and how many outlets it writes to. A level of
rank zero is none. -/
structure Logger where
  level : Level := ⟨0⟩
  outlets : Nat := 0

namespace Logger

/-- Sets the level, and opens an outlet if there is none; so however often
a logger is set up, a record is shown once. -/
def configure (l : Logger) (level : Level) : Logger :=
  ⟨level, if l.outlets = 0 then 1 else l.outlets⟩

/-- The least rank shown. -/
def threshold (l : Logger) : Int :=
  if l.level.rank = 0 then Level.warning.rank else l.level.rank

/-- Whether a record is shown. One of no positive rank never is. -/
def shows (l : Logger) (r : LogRecord) : Bool :=
  0 < r.level.rank && l.threshold ≤ r.level.rank

/-- The text that shows a log. -/
def render (l : Logger) (time : String) (log : Log) : String :=
  String.join ((log.filter l.shows).map (·.line time))

end Logger

end Reckoner
