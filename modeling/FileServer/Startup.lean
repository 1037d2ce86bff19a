import FileServer.Server
import FileServer.Settings.Document

/-!
# Starting the program

The program loads its settings and binds a server. If either fails, it ends with a report
of what it was doing and of the chain of causes: a single cause stands alone, several are
numbered. Lines of a cause after the first are set in as far as its first.
-/

namespace FileServer.Startup

/-- What the program was doing when it failed, and why it failed. -/
structure Failure where
  doing : String
  causes : List String
  deriving DecidableEq, Repr

/-- Sets the lines of a text in behind the first. -/
def setIn (margin text : String) : String := ("\n" ++ margin).intercalate (text.splitOn "\n")

/-- One of several causes. -/
def numbered (n : Nat) (cause : String) : String :=
  let digits := toString n
  String.ofList (List.replicate (5 - digits.length) ' ') ++ digits ++ ": " ++
    setIn "       " cause

/-- The causes as they are listed. -/
def listed : List String → List String
  | [cause] => ["    " ++ setIn "    " cause]
  | causes => causes.mapIdx numbered

/-- The report of a failure. -/
def Failure.report (f : Failure) : String :=
  let causes := if f.causes = [] then "" else "\n\nCaused by:\n" ++ "\n".intercalate (listed f.causes)
  s!"Error: {f.doing}{causes}\n"

/-- The exit code of a program that failed. -/
def failureCode : UInt32 := 1

/-- Loads the settings and starts a server. -/
def start {S : Type} (t : FileTree) (n : Network) : Except Failure (Server S × Network) := do
  let s ← (Settings.load t).mapError fun e => ⟨"loading configuration", e.message :: e.causes⟩
  (Server.bind n s).mapError fun e => ⟨"starting server", e.message :: e.causes⟩

end FileServer.Startup
