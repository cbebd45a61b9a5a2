/-
# The program

It reads its command line and its settings, and says which request the command begins with.
-/

import Refetch.Client
import Refetch.ClientConfig.Document

namespace Refetch

/-- The settings in a file. -/
def loadConfig (path : Option String) : IO (Except ClientConfig.Error ClientConfig) := do
  match path with
  | none => return .error .missingPath
  | some path =>
    try
      return ClientConfig.ofBytes (← IO.FS.readBinFile path)
    catch _ => return .error (.unreadable .notFound)

end Refetch

open Refetch in
/-- Carries out a command line and answers with a code for success or failure. -/
def main (args : List String) : IO UInt32 := do
  match CommandLine.read (← IO.getEnv CommandLine.configVariable) args with
  | .error e =>
    if e.isAnswer then
      IO.println e.message
      return 0
    else
      IO.eprintln e.message
      return 2
  | .ok line =>
    match ← loadConfig line.config with
    | .error e =>
      IO.eprintln e.message
      return 1
    | .ok config =>
      match Client.ofConfig? config with
      | none =>
        IO.eprintln Endpoint.badKeyMessage
        return 1
      | some client =>
        IO.println (client.describe (Client.request line.command))
        return 0
