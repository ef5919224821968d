/-!
# Log records

What the library reports beside its results: a level, the part that reports, and a text.
-/

namespace Teletype

/-- How grave a record is. -/
inductive Level where
  | info
  | warning
deriving DecidableEq, Repr

/-- The part of the library that reports. -/
inductive Topic where
  | config
  | session
  | manager
deriving DecidableEq, Repr

/-- A line of the log. -/
structure LogRecord where
  level : Level
  topic : Topic
  message : String
deriving DecidableEq, Repr

namespace LogRecord

def levelName : Level → String
  | .info => "INFO"
  | .warning => "WARNING"

def topicName : Topic → String
  | .config => "config"
  | .session => "session"
  | .manager => "manager"

/-- A record as it stands in the log. -/
def line (r : LogRecord) : String :=
  levelName r.level ++ " " ++ topicName r.topic ++ ": " ++ r.message

end LogRecord

end Teletype
