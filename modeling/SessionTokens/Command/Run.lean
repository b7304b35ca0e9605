import SessionTokens.Command.Report
import SessionTokens.Command.Setup
import SessionTokens.Settings.Load
import SessionTokens.Token.Verify

/-! # Running a command

The command line is read first, then the settings, then the store is opened, and only then is
anything done. Each of these can end the run with a report of its own.
-/

namespace SessionTokens.Command

/-- The name and the version of the program. -/
def versionText : String := "sessionguard 0.1.0"

/-- How the program is used. -/
def helpText : String :=
  "\n".intercalate
    ["Usage: sessionguard [OPTIONS] <COMMAND>",
      "",
      "Commands:",
      "  verify        Verify a token against the session store",
      "  revoke        Revoke sessions of a user",
      "  inspect-keys  List the session keys of a user",
      "  health        Check that the session store is reachable",
      "  help          Print this message",
      "",
      "Options:",
      "  -c, --config <CONFIG>  Path to configuration file",
      "  -e, --env <ENV>        Environment whose configuration is used",
      "  -f, --format <FORMAT>  Output format: table or json",
      "  -h, --help             Print help",
      "  -V, --version          Print version"]

/-- The report on a command line that has no command. -/
def stopReport : Stop → Report
  | .help => .result helpText
  | .version => .result versionText
  | .refused why => ⟨2, "", "error: " ++ why.message ++ "\n"⟩

/-- Opens the store, and gives the world of a command at a time of day. -/
def openWorld (settings : Settings) (wall : Nat) : Except ServiceError World :=
  match Provider.openStore settings.store.provider settings.store.remote.url with
  | .error e => .error e
  | .ok store => .ok { World.initial wall with store }

/-- Does something with the store. -/
def withStore (settings : Settings) (wall : Nat) (run : World → Plan) : Plan :=
  match openWorld settings wall with
  | .error e => .done (.failure e)
  | .ok w => run w

/-- Does something with the service over the store. -/
def withService (settings : Settings) (wall : Nat) (run : Service → World → Plan) : Plan :=
  withStore settings wall fun w =>
    match Service.build settings.tokens settings.store.scanBatchSize.toNat
        settings.password.minLength.toNat .argon2 with
    | .error e => .done (.failure e)
    | .outOfRange => .done .overflow
    | .ok svc => run svc w

/-- Verifies a token of a kind. -/
def verifyAs (svc : Service) (token : String) : TokenKind → Action TokenError Payload
  | .session => svc.verify token
  | .verification => svc.verifyPurpose token .verification
  | .resetPassword => svc.verifyPurpose token .resetPassword

/-- What is shown of a key, unless it has expired since it was found. -/
def keyRow (ns key : String) : Action ServiceError (Option Labelled) := do
  match ← Store.get key with
  | none => return none
  | some value =>
    let ttl ← Store.ttlRemaining key
    let seconds :=
      match ttl with
      | some ms => toString (ms / 1000)
      | none => "-"
    return some [("namespace", ns), ("key", key), ("value", value), ("ttl_seconds", seconds)]

/-- What is shown of keys. -/
def keyRows (ns : String) : List String → Action ServiceError (List Labelled)
  | [] => pure []
  | key :: keys => do
    let row ← keyRow ns key
    let rows ← keyRows ns keys
    return row.toList ++ rows

/-- What is shown of a user's keys in the namespaces. -/
def namespaceRows (batch : Nat) (user : String) :
    List Namespace → Action ServiceError (List Labelled)
  | [] => pure []
  | ns :: rest => do
    let found ← Store.scan (Key.subjectPattern ns.name user) batch
    let rows ← keyRows ns.name (found.filter fun key => Key.belongsTo key ns.name user)
    let later ← namespaceRows batch user rest
    return rows ++ later

/-- The report on an operation. -/
def report {ε α : Type} (onError : ε → Report) (onOk : α → Report) (w : World)
    (m : Action ε α) : Report :=
  Report.ofOutcome onError onOk (m w).1

/-- Ends all sessions of a user. -/
def revokeAll (svc : Service) (w : World) (user : String) : Report :=
  report .failure (fun n => .success s!"All sessions of user '{user}' revoked ({n} keys removed)") w
    (svc.invalidateAll user)

/-- Does what is to be done. Ending all sessions of a user asks first, unless it is forced. -/
def execute (settings : Settings) (format : OutputFormat) (wall : Nat) : Command → Plan
  | .verify token kind => withService settings wall fun svc w =>
      .done (report .tokenFailure (fun p => .result (p.row.one format)) w (verifyAs svc token kind))
  | .revoke user (some session) _ => withService settings wall fun _ w =>
      .done (report .failure (fun n => .success s!"Session {session} revoked ({n} keys removed)") w
        (Service.invalidateSession user session))
  | .revoke user none true => withService settings wall fun svc w => .done (revokeAll svc w user)
  | .revoke user none false => withService settings wall fun svc w =>
      .ask s!"Revoke ALL sessions of user '{user}'?" (revokeAll svc w user) (.result "Cancelled.")
        (.failure .noTerminal)
  | .inspectKeys user => withStore settings wall fun w =>
      .done (report .failure (fun rows => .result (Labelled.many rows format)) w
        (namespaceRows settings.store.scanBatchSize.toNat user Namespace.session))
  | .health => withStore settings wall fun w =>
      .done (report .failure (fun answers =>
        if answers then .success s!"Session store '{settings.store.provider}' is healthy"
        else .failure .storeSilent) w Store.health)

/-- The settings that a command line asks for. -/
def loadSettings (s : Surroundings) : SettingsOrigin → Except ServiceError Settings
  | .file path => Settings.loadFrom s path
  | .environment name => Settings.load s name

/-- Runs a command line at a time of day. -/
def run (s : Surroundings) (wall : Nat) (args : List String) : Plan :=
  match Arguments.parse args with
  | .error stop => .done (stopReport stop)
  | .ok i =>
    match loadSettings s i.origin with
    | .error e => .done (.notLoaded e)
    | .ok settings => execute settings i.format wall i.command

end SessionTokens.Command
