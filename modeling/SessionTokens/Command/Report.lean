import SessionTokens.Calendar
import SessionTokens.Command.Arguments
import SessionTokens.Command.Table
import SessionTokens.Error
import SessionTokens.Json.Pretty
import SessionTokens.Outcome
import SessionTokens.Token.Payload

/-! # Reports

What a command leaves behind: an exit code and two texts. A command that has to ask before it goes
on gives a report for every answer, so that only the asking itself is left to whoever runs it.
-/

namespace SessionTokens

/-- The exit code of a command and what it writes to its two outputs. -/
structure Report where
  code : UInt8
  out : String
  err : String
deriving DecidableEq, Repr

namespace Report

/-- Success, with one line of its own. -/
def success (line : String) : Report := ⟨0, "✓ " ++ line ++ "\n", ""⟩

/-- Success, with a result. -/
def result (text : String) : Report := ⟨0, text ++ "\n", ""⟩

/-- A failed command. -/
def failure (e : ServiceError) : Report := ⟨1, "", "Error: " ++ e.text ++ "\n"⟩

/-- A token that was turned down, or a failure to handle it. -/
def tokenFailure : TokenError → Report
  | .internal cause => failure cause
  | .rejected why =>
    let shown := s!"✗ Token rejected: {why.message} ({why.name})\n"
    { failure (.rejected why) with err := shown ++ (failure (.rejected why)).err }

/-- Settings that could not be loaded. -/
def notLoaded (e : ServiceError) : Report :=
  ⟨1, "", "Failed to load configuration: " ++ e.text ++ "\n"⟩

/-- A number left its range. -/
def overflow : Report := ⟨101, "", "arithmetic overflow\n"⟩

/-- The report on an outcome. -/
def ofOutcome {ε α : Type} (onError : ε → Report) (onOk : α → Report) : Outcome ε α → Report
  | .ok a => onOk a
  | .error e => onError e
  | .outOfRange => overflow

end Report

/-- What a command comes to. -/
inductive Plan where
  | done (r : Report)
  /-- A question to ask, and the reports for yes, for no, and for nobody there to ask. -/
  | ask (question : String) (yes no nobody : Report)
deriving DecidableEq, Repr

namespace Plan

/-- The report, given the answer of whoever is there. -/
def settle (answer : Option Bool) : Plan → Report
  | .done r => r
  | .ask _ yes no nobody =>
    match answer with
    | some true => yes
    | some false => no
    | none => nobody

end Plan

/-- A text with a name: the cell of a column, or a field. -/
abbrev Labelled := List (String × String)

namespace Labelled

/-- A row as a JSON object. -/
def toJson (row : Labelled) : Json := .ofFields (row.map fun f => (f.1, .ofString f.2))

/-- The table of rows that have the same columns. -/
def table (rows : List Labelled) : String :=
  Table.render ((rows.headD []).map (·.1)) (rows.map fun row => row.map (·.2))

/-- One row, in the given format. -/
def one (row : Labelled) : OutputFormat → String
  | .table => table [row]
  | .json => (toJson row).prettyText

/-- Any number of rows, in the given format. -/
def many (rows : List Labelled) : OutputFormat → String
  | .table => if rows.isEmpty then "No keys found." else table rows
  | .json => (Json.array (rows.map toJson)).prettyText

end Labelled

/-- What is shown of a verified token; a dash stands for what its mode does not have. -/
def Payload.row (p : Payload) : Labelled :=
  [("sub", p.sub), ("mode", p.mode.name), ("session_id", p.sessionId.getD "-"),
    ("jti", p.jti.getD "-"), ("expires_at", Calendar.textOffset p.exp.toInt)]

end SessionTokens
