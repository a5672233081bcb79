import Cadence.Session

/-!
The command line: reads the environment and what is typed, runs a session, and
writes what it leaves.
-/

namespace Cadence.CommandLine

def sessionVariables : List String :=
  [Environment.cyclesVariable, Environment.frameTimeVariable,
    Environment.refreshVariable, Environment.logFileVariable,
    Environment.filterVariable]

def readEnvironment : IO Environment :=
  sessionVariables.filterMapM fun name => do
    return (← IO.getEnv name).map fun value => (name, value.toUTF8)

/-- Opens a file for writing. -/
def openingOf (path : Option ByteArray) : IO Log.Opening := do
  match path with
  | none => return .opened
  | some bytes =>
      try
        IO.FS.writeFile (Text.lossy bytes) ""
        return .opened
      catch error => return .refused (toString error)

/-- Runs a session on what is typed in one line; its end quits. -/
def runSession : IO UInt32 := do
  let environment ← readEnvironment
  let path := environment.logFile?
  let opening ← openingOf path
  let hasTerminal ← (← IO.getStdout).isTty
  let typed ← (← IO.getStdin).getLine
  let outcome := Session.run
    ⟨environment, typed.toList ++ ['\x1b'], hasTerminal, opening⟩
  for row in outcome.screen do IO.println row
  for line in outcome.errorText do IO.eprintln line
  if path.isSome && opening == .opened then
    IO.FS.writeFile (Text.lossy (path.getD .empty))
      (String.join (outcome.fileText.map (· ++ "\n")))
  return UInt32.ofNat outcome.exitCode

end Cadence.CommandLine

def main : IO UInt32 := Cadence.CommandLine.runSession
