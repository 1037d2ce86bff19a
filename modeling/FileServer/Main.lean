import FileServer.Socket.Duplex
import FileServer.Startup

/-!
# The command line

The program takes no arguments. It looks for its settings in the working directory and
starts a server; if that fails it reports why and ends with an exit code. Events come to a
started server from outside, so the program then only waits.
-/

namespace FileServer

/-- The working directory, as far as settings are concerned. -/
def readWorkingDirectory : IO FileTree := do
  try
    let content ← IO.FS.readBinFile Settings.fileName
    return (FileTree.empty.write Settings.fileName content.toList).toOption.getD FileTree.empty
  catch
    | .noFileOrDirectory .. => return FileTree.empty
    | _ => return (FileTree.empty.makeDirectory Settings.fileName).toOption.getD FileTree.empty

/-- Waits for ever. -/
partial def waitForEver : IO UInt32 := do
  IO.sleep 1000
  waitForEver

end FileServer

open FileServer in
/-- Starts the server or reports why it cannot start. -/
def main : IO UInt32 := do
  let started : Except Startup.Failure (Server Duplex × Network) :=
    Startup.start (← readWorkingDirectory) {}
  match started with
  | .error failure =>
    IO.eprint failure.report
    return Startup.failureCode
  | .ok _ => waitForEver
