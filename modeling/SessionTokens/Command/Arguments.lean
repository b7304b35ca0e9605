/-! # Arguments of a command line

Switches stand in front of the command and after it, each where it belongs: those in front say where
the settings come from and how results are shown, those after it are the command's own. A switch is
given once at most, and its value never looks like a switch. Arguments are read from left to right,
so what asks for help or for the version counts if nothing before it is wrong.
-/

namespace SessionTokens

/-- How results are shown. -/
inductive OutputFormat where
  | table
  | json
deriving DecidableEq, Repr

/-- What kind of token is verified. -/
inductive TokenKind where
  | session
  | verification
  | resetPassword
deriving DecidableEq, Repr

/-- What is to be done. -/
inductive Command where
  | verify (token : String) (kind : TokenKind)
  /-- Ends the sessions of a user, or the given one alone. -/
  | revoke (user : String) (session : Option String) (force : Bool)
  | inspectKeys (user : String)
  | health
deriving DecidableEq, Repr

/-- Where the settings come from. -/
inductive SettingsOrigin where
  | file (path : String)
  | environment (name : String)
deriving DecidableEq, Repr

/-- A complete command line. -/
structure Invocation where
  origin : SettingsOrigin
  format : OutputFormat
  command : Command
deriving DecidableEq, Repr

/-- What is wrong with a command line. -/
inductive UsageError where
  | missingCommand
  | unknownCommand (name : String)
  | unknownSwitch (argument : String)
  | missingValue (switch : String)
  | unexpectedValue (switch : String)
  | invalidValue (switch value : String)
  | repeatedSwitch (switch : String)
  | conflictingSwitches (one other : String)
  | missingArgument (name : String)
  | unexpectedArgument (argument : String)
deriving DecidableEq, Repr

/-- The error in words. -/
def UsageError.message : UsageError → String
  | .missingCommand => "a command is required"
  | .unknownCommand name => s!"unknown command '{name}'"
  | .unknownSwitch argument => s!"unknown switch '{argument}'"
  | .missingValue switch => s!"'--{switch}' needs a value"
  | .unexpectedValue switch => s!"'--{switch}' takes no value"
  | .invalidValue switch value => s!"'{value}' is no value of '--{switch}'"
  | .repeatedSwitch switch => s!"'--{switch}' is given twice"
  | .conflictingSwitches one other => s!"'--{one}' cannot be used with '--{other}'"
  | .missingArgument name => s!"<{name}> is required"
  | .unexpectedArgument argument => s!"unexpected argument '{argument}'"

/-- Why reading a command line ends before there is a command. -/
inductive Stop where
  | help
  | version
  | refused (why : UsageError)
deriving DecidableEq, Repr

namespace Arguments

/-- What a switch does to what has been read so far. -/
inductive Effect (σ : Type) where
  | alone (run : σ → Except Stop σ)
  | withValue (run : String → σ → Except Stop σ)

/-- A switch: `--long`, or `-s` if it has a short form. -/
structure Switch (σ : Type) where
  long : String
  short : Option Char
  effect : Effect σ

/-- What an argument is by itself. -/
inductive Piece (σ : Type) where
  | word (w : String)
  /-- Nothing after it is a switch. -/
  | separator
  | applied (run : σ → Except Stop σ)
  /-- The switch's value is the next argument. -/
  | awaiting (switch : String) (run : String → σ → Except Stop σ)

variable {σ : Type}

/-- Refuses the command line. -/
def refuse {α : Type} (why : UsageError) : Except Stop α := .error (.refused why)

/-- Looks at one argument. A value may be attached to its switch: after an equals sign, or right
after the short form. No switch without a value has a short form but those that end the reading, so
what is attached to one does not matter. -/
def piece (switches : List (Switch σ)) (argument : String) : Except Stop (Piece σ) :=
  match argument.toList with
  | ['-', '-'] => .ok .separator
  | '-' :: '-' :: name =>
    match switches.find? fun s => s.long.toList = name.takeWhile (· ≠ '=') with
    | none => refuse (.unknownSwitch argument)
    | some s =>
      match s.effect, name.dropWhile (· ≠ '=') with
      | .alone run, [] => .ok (.applied run)
      | .alone _, _ => refuse (.unexpectedValue s.long)
      | .withValue run, [] => .ok (.awaiting s.long run)
      | .withValue run, _ :: value => .ok (.applied (run (.ofList value)))
  | '-' :: c :: attached =>
    match switches.find? (·.short = some c) with
    | none => refuse (.unknownSwitch argument)
    | some s =>
      match s.effect, attached with
      | .alone run, _ => .ok (.applied run)
      | .withValue run, [] => .ok (.awaiting s.long run)
      | .withValue run, '=' :: value => .ok (.applied (run (.ofList value)))
      | .withValue run, value => .ok (.applied (run (.ofList value)))
  | _ => .ok (.word argument)

/-- The argument is none that stands for itself. -/
def looksLikeSwitch (argument : String) : Bool :=
  match argument.toList with
  | '-' :: _ :: _ => true
  | _ => false

/-- What has been read: the effect of the switches, the words, and the arguments left over. -/
structure Reading (σ : Type) where
  state : σ
  words : List String
  rest : List String

/-- Reads switches and words. In front of the command the first word ends the reading, and so does a
separator, which names no command. -/
def read (switches : List (Switch σ)) (stopAtWord : Bool) (s : σ) :
    List String → Except Stop (Reading σ)
  | [] => .ok ⟨s, [], []⟩
  | argument :: rest =>
    match piece switches argument with
    | .error stop => .error stop
    | .ok (.word w) =>
      if stopAtWord then .ok ⟨s, [w], rest⟩
      else
        match read switches stopAtWord s rest with
        | .error stop => .error stop
        | .ok r => .ok { r with words := w :: r.words }
    | .ok .separator => if stopAtWord then .ok ⟨s, [argument], rest⟩ else .ok ⟨s, rest, []⟩
    | .ok (.applied run) =>
      match run s with
      | .error stop => .error stop
      | .ok s => read switches stopAtWord s rest
    | .ok (.awaiting switch run) =>
      match rest with
      | [] => refuse (.missingValue switch)
      | value :: rest =>
        if looksLikeSwitch value then refuse (.missingValue switch)
        else
          match run value s with
          | .error stop => .error stop
          | .ok s => read switches stopAtWord s rest

/-- Sets what may be set only once. -/
def once {α : Type} (switch : String) (a : α) : Option α → Except Stop (Option α)
  | none => .ok (some a)
  | some _ => refuse (.repeatedSwitch switch)

/-- The value that a name stands for. -/
def named {α : Type} (switch : String) (choices : List (String × α)) (name : String) :
    Except Stop α :=
  match choices.find? (·.1 = name) with
  | some c => .ok c.2
  | none => refuse (.invalidValue switch name)

/-- The switch that asks for help. -/
def help : Switch σ := ⟨"help", some 'h', .alone fun _ => .error .help⟩

/-! ## In front of the command -/

/-- What is said in front of the command. -/
structure Preamble where
  file : Option String
  environment : Option String
  format : Option OutputFormat

/-- The names of the output formats. -/
def formats : List (String × OutputFormat) := [("table", .table), ("json", .json)]

/-- The switches in front of the command. -/
def preambleSwitches : List (Switch Preamble) :=
  [⟨"config", some 'c', .withValue fun v p => do return { p with file := ← once "config" v p.file }⟩,
    ⟨"env", some 'e', .withValue fun v p => do
      return { p with environment := ← once "env" v p.environment }⟩,
    ⟨"format", some 'f', .withValue fun v p => do
      return { p with format := ← once "format" (← named "format" formats v) p.format }⟩,
    help,
    ⟨"version", some 'V', .alone fun _ => .error .version⟩]

/-! ## Commands -/

/-- The only word that a command takes. -/
def onlyWord (name : String) : List String → Except Stop String
  | [] => refuse (.missingArgument name)
  | [w] => .ok w
  | _ :: w :: _ => refuse (.unexpectedArgument w)

/-- The names of the kinds of tokens. -/
def kinds : List (String × TokenKind) :=
  [("session", .session), ("verification", .verification), ("reset-password", .resetPassword)]

/-- The switches of the command that verifies a token. -/
def verifySwitches : List (Switch (Option TokenKind)) :=
  [⟨"kind", none, .withValue fun v k => do once "kind" (← named "kind" kinds v) k⟩, help]

/-- What the switches of the command that ends sessions say. -/
structure RevokeSwitches where
  session : Option String
  force : Option Unit

/-- The switches of the command that ends sessions. -/
def revokeSwitches : List (Switch RevokeSwitches) :=
  [⟨"session", none, .withValue fun v r => do
      return { r with session := ← once "session" v r.session }⟩,
    ⟨"force", none, .alone fun r => do return { r with force := ← once "force" () r.force }⟩,
    help]

/-- The names of the commands. -/
def commandNames : List String := ["verify", "revoke", "inspect-keys", "health", "help"]

/-- Reads a command's own arguments. -/
def readCommand (name : String) (rest : List String) : Except Stop Command :=
  match name with
  | "verify" => do
    let r ← read verifySwitches false none rest
    let token ← onlyWord "TOKEN" r.words
    return .verify token (r.state.getD .session)
  | "revoke" => do
    let r ← read revokeSwitches false ⟨none, none⟩ rest
    let user ← onlyWord "USER_ID" r.words
    return .revoke user r.state.session r.state.force.isSome
  | "inspect-keys" => do
    let r ← read [help] false () rest
    return .inspectKeys (← onlyWord "USER_ID" r.words)
  | "health" => do
    let r ← read [help] false () rest
    match r.words with
    | [] => return .health
    | w :: _ => refuse (.unexpectedArgument w)
  | "help" =>
    match rest with
    | [] => .error .help
    | [topic] => if topic ∈ commandNames then .error .help else refuse (.unknownCommand topic)
    | _ :: w :: _ => refuse (.unknownCommand w)
  | _ => refuse (.unknownCommand name)

/-- Reads a command line. The settings come from a file at the usual place unless one of the two
switches says otherwise. -/
def parse (args : List String) : Except Stop Invocation := do
  let r ← read preambleSwitches true ⟨none, none, none⟩ args
  match r.words with
  | [] => refuse .missingCommand
  | name :: _ =>
    let command ← readCommand name r.rest
    let format := r.state.format.getD .table
    match r.state.environment, r.state.file with
    | some _, some _ => refuse (.conflictingSwitches "env" "config")
    | some name, none => return ⟨.environment name, format, command⟩
    | none, file => return ⟨.file (file.getD "config/default.toml"), format, command⟩

end Arguments

end SessionTokens
