import SessionTokens.Command.Run
import Std.Time.DateTime.Timestamp

/-! # The program

Collects what a run may need from the system, and writes what it leaves behind. Which files are
looked for and which variables are known is asked of the library; a question is put only to somebody
at a terminal.
-/

namespace SessionTokens.Main

/-- The text of a file, if there is one that can be read. -/
def readText (path : String) : IO (Option String) := do
  try
    return some (← IO.FS.readFile path)
  catch _ => return none

/-- The texts of the files at the given paths. -/
def readTexts (paths : List String) : IO (List (String × String)) := do
  let texts ← paths.mapM fun path => do return (path, ← readText path)
  return texts.filterMap fun t => t.2.map fun text => (t.1, text)

/-- The variables that give settings. -/
def readVariables : IO (List (String × String)) := do
  let values ← Settings.keys.mapM fun key => do
    let name := Settings.variableOf key
    return (name, ← IO.getEnv name)
  return values.filterMap fun v => v.2.map fun value => (v.1, value)

/-- The paths at which a command line's settings are looked for. -/
def pathsOf (args : List String) : List String :=
  match Arguments.parse args with
  | .error _ => []
  | .ok i =>
    match i.origin with
    | .file path => settingsPaths path
    | .environment name =>
      let paths := Settings.environmentPaths name
      settingsPaths paths.1 ++ settingsPaths paths.2

/-- Puts a question to whoever is at the terminal. -/
def askAt (stdin stderr : IO.FS.Stream) (question : String) : IO (Option Bool) := do
  if ← stdin.isTty then
    stderr.putStr (question ++ " [y/N] ")
    stderr.flush
    let answer ← stdin.getLine
    return some (answer.trimAscii.toString.toLower = "y")
  else return none

/-- The answer that a plan needs. -/
def answerFor (plan : Plan) : IO (Option Bool) := do
  match plan with
  | .done _ => return none
  | .ask question _ _ _ => askAt (← IO.getStdin) (← IO.getStderr) question

end SessionTokens.Main

open SessionTokens in
/-- Runs the command line. -/
def main (args : List String) : IO UInt32 := do
  let texts ← Main.readTexts (Main.pathsOf args)
  let s : Surroundings :=
    { text? := fun path => (texts.find? (·.1 = path)).map (·.2)
      environment := ← Main.readVariables }
  let now ← Std.Time.Timestamp.now
  let plan := Command.run s now.toMillisecondsSinceUnixEpoch.val.toNat args
  let report := plan.settle (← Main.answerFor plan)
  (← IO.getStdout).putStr report.out
  (← IO.getStderr).putStr report.err
  return report.code.toUInt32
