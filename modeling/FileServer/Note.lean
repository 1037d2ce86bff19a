/-!
# Notes

While it works, the server notes what it does. A note has a level, a text and
named details, and is shown as one line: the level, the text, and the details as
`name=value` in the order in which they were given.
-/

namespace FileServer

/-- How much a note matters. -/
inductive Level
  | trace
  | debug
  | info
  | warn
  deriving DecidableEq, Repr

/-- The level as it is shown. -/
def Level.text : Level → String
  | trace => "TRACE"
  | debug => "DEBUG"
  | info => "INFO"
  | warn => "WARN"

/-- One thing worth noting. -/
structure Note where
  level : Level
  text : String
  details : List (String × String) := []
  deriving DecidableEq, Repr

/-- The note on one line. -/
def Note.line (n : Note) : String :=
  " ".intercalate (n.level.text :: n.text :: n.details.map fun (name, value) => name ++ "=" ++ value)

end FileServer
