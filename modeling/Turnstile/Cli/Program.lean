import Turnstile.Cli.Command
import Turnstile.Cli.Format
import Turnstile.Config.Load
import Turnstile.Credential.Verify
import Turnstile.Credential.State
import Turnstile.Credential.Match
import Turnstile.Encoding.Json
import Turnstile.Log.Level
import Turnstile.Log.Record

/-!
# The keygate command

The command line of the service, `keygate`, with these commands:

* `check` evaluates a token for one tier as the service would, and exits 0 when
  it passes, 2 when it is refused;
* `hash` prints the public token of a key;
* `validate` loads the configuration and reports each tier's state, with
  warnings for settings that work but are likely unintended;
* `run` loads the configuration and starts the service; with `--dry-run` it
  stops once the configuration and the log settings are known to be good;
* `version`, `help`, and `completion`, whose shell scripts are not part of this
  model.

Every command that loads the configuration reads the file named by `--config`,
or only defaults and the environment when it is empty.  A command's failure is
written to the error stream with status 1, except a refused token, status 2.
Results are written as text or as JSON indented by two spaces.
-/

namespace Turnstile.Cli

open Turnstile.Host Turnstile.Config Turnstile.Credential Turnstile.Secrets Turnstile.Text

/-- Why a command failed. -/
inductive Failure where
  /-- A message of its own. -/
  | plain (message : String)
  /-- A configuration problem, in a field or in general (empty field). -/
  | config (field message : String)
  /-- A command that could not do its work. -/
  | command (name message : String)
  /-- A credential the command refused. -/
  | denied (name message : String)
  /-- A breakdown that ends the process before any error is reported. -/
  | breakdown (message : String)
  deriving Inhabited

namespace Failure

/-- The text of a failure. -/
def text : Failure → String
  | plain m => m
  | config f m => if f.isEmpty then "config error: " ++ m else "config error in " ++ f ++ ": " ++ m
  | command n m => "command " ++ n ++ " failed: " ++ m
  | denied n m => "command " ++ n ++ " failed: " ++ m
  | breakdown m => "panic: " ++ m ++ "\n\ngoroutine 1 [running]:"

/-- The status a failure exits with. -/
def exitCode : Failure → Nat
  | denied _ _ => 2
  | breakdown _ => 2
  | _ => 1

end Failure

/-- What a command wrote, and how it failed if it did. -/
structure Effect where
  stdout : String := ""
  failure : Option Failure := none
  deriving Inhabited

/-- The outcome of a command's effect. -/
def Effect.outcome (e : Effect) : Outcome :=
  match e.failure with
  | none => { stdout := e.stdout }
  | some f => { exit := f.exitCode, stdout := e.stdout, stderr := f.text ++ "\n" }

/-- A failure before anything was written. -/
def Effect.fail (f : Failure) : Effect := { failure := some f }

/-- The version the command reports. -/
def programVersion : String := "dev"

/-- A result in the chosen format: its text form, or its JSON form indented by
two spaces; both end with a newline. -/
def formatted (format : OutputFormat) (text : String) (json : JsonValue) : String :=
  match format with
  | .text => text ++ "\n"
  | .json => JsonValue.indented true "  " 0 json ++ "\n"

/-- Load the configuration for a command. -/
def loadFor (w : World) (vs : FlagValues) : Except Failure Snapshot :=
  (Config.load w (vs.text "config")).mapError fun e => match e with
    | .breakdown m => .breakdown m
    | e => .config "" ("failed to load config: " ++ e.message)

/-- The output format a command was given. -/
def outputFormat (vs : FlagValues) : Except Failure OutputFormat :=
  (OutputFormat.parse (vs.text "output")).mapError .plain

/-- How a token fared against a tier. -/
structure CheckReport where
  tier : Tier
  state : TierState
  allowed : Bool := false
  authenticated : Bool := false
  matchKind : String := ""
  error : String := ""
  detail : String := ""
  deriving Inhabited

namespace CheckReport

/-- Evaluate a credential for a tier against the settings. -/
def evaluate (src : Source) (tier : Tier) (cred : Presented) : CheckReport :=
  let base : CheckReport := { tier, state := stateOf src tier }
  match verifyTier src tier cred with
  | .error d => { base with error := d.kind, detail := d.detail }
  | .ok d =>
    { base with allowed := true, authenticated := d.authenticated,
                matchKind := if d.authenticated then d.matchKind.name else "" }

/-- The text form of a report. -/
def text (r : CheckReport) : String :=
  if !r.allowed then r.tier.name ++ ": denied (" ++ r.error ++ "): " ++ r.detail
  else if !r.authenticated then r.tier.name ++ ": allowed (tier is " ++ r.state.name ++ ")"
  else r.tier.name ++ ": allowed (" ++ r.matchKind ++ " match)"

/-- The JSON form of a report; empty texts after the flags are left out. -/
def json (r : CheckReport) : JsonValue :=
  let optional := [("match", r.matchKind), ("error", r.error), ("detail", r.detail)].filterMap
    fun (k, v) => if v.isEmpty then none else some (k, JsonValue.string v)
  .object ([("tier", .string r.tier.name), ("state", .string r.state.name),
    ("allowed", .bool r.allowed), ("authenticated", .bool r.authenticated)] ++ optional)

end CheckReport

/-- The credential `check` presents: standard input without trailing line
ends, the `--token` value when given, or none. -/
def checkCredential (vs : FlagValues) (stdin : String) : Presented :=
  if vs.isOn "stdin" then .bearer (trimEndBy (fun c => c == '\r' || c == '\n') stdin)
  else if vs.isGiven "token" then .bearer (vs.text "token")
  else .absent

/-- The `check` command. -/
def checkCommand (w : World) (stdin : String) (vs : FlagValues) : Effect :=
  match outputFormat vs with
  | .error f => .fail f
  | .ok format =>
    match Tier.ofName? (vs.text "tier") with
    | none => .fail (.command "check" ("unknown tier: " ++ quote (vs.text "tier")))
    | some tier =>
      let cred := checkCredential vs stdin
      match loadFor w vs with
      | .error f => .fail f
      | .ok snap =>
        let r := CheckReport.evaluate snap.settings.source tier cred
        { stdout := formatted format r.text r.json
          failure := if r.allowed then none else some (.denied "check" r.detail) }

/-- The `hash` command. -/
def hashCommand (stdin : String) (vs : FlagValues) (args : List String) : Effect :=
  match outputFormat vs with
  | .error f => .fail f
  | .ok format =>
    let secret := if vs.isOn "stdin" then some stdin else args.head?
    match secret with
    | none => .fail (.command "hash" "a secret argument or --stdin is required")
    | some s =>
      if (trimBlank s).isEmpty then .fail (.command "hash" "secret must not be empty")
      else
        let token := publicToken s
        { stdout := formatted format token (.object [("token", .string token)]) }

/-- The warnings about settings that work but are likely unintended. -/
def credentialWarnings (src : Source) : List String :=
  (if trimBlank (src.text loginKeySetting defaultLoginKey) == defaultLoginKey then
    ["app.app_key uses the built-in default; set a private login key"] else []) ++
  (if stateOf src .admin = .open then
    ["app.api_key is empty; the admin tier is open to everyone"] else []) ++
  (if stateOf src .public = .open then
    ["app.public_enabled is set without app.public_key; the public tier is open"] else [])

/-- The text form of a validation report. -/
def validateText (path : String) (src : Source) (warnings : List String) : String :=
  let shown := if path.isEmpty then "(defaults and environment)" else path
  let lines := ["Configuration valid: " ++ shown] ++
    Tier.all.map (fun t => "  " ++ padRight t.name 7 ++ " " ++ (stateOf src t).name) ++
    warnings.map ("warning: " ++ ·)
  "\n".intercalate lines

/-- The JSON form of a validation report; no warnings leaves the list out. -/
def validateJson (path : String) (src : Source) (warnings : List String) : JsonValue :=
  .object ([("path", .string path),
    ("tiers", .object (Tier.all.map fun t => (t.name, .string (stateOf src t).name)))] ++
    (if warnings.isEmpty then [] else [("warnings", .array (warnings.map .string))]))

/-- The `validate` command. -/
def validateCommand (w : World) (vs : FlagValues) : Effect :=
  match outputFormat vs with
  | .error f => .fail f
  | .ok format =>
    match loadFor w vs with
    | .error f => .fail f
    | .ok snap =>
      let src := snap.settings.source
      let warnings := credentialWarnings src
      { stdout := formatted format (validateText snap.path src warnings)
          (validateJson snap.path src warnings) }

/-- The logging settings `run` uses: the configuration's, with the flags'
overrides; `--verbose` sets the level to debug. -/
def runLogging (cfg : Config) (vs : FlagValues) : Config.Logging :=
  let l := cfg.telemetry.logging
  let l := if (vs.text "log-level").isEmpty then l else { l with level := vs.text "log-level" }
  if vs.isOn "verbose" then { l with level := "debug" } else l

/-- What `run` writes as the service starts and, once told to, stops. -/
def startLines (snap : Snapshot) (cfg : Config) (lg : Log.Logger) : String :=
  let src := snap.settings.source
  let keys : Log.Record :=
    { level := .debug, message := "configuration keys",
      attrs := [("keys", .text (",".intercalate snap.settings.keys))] }
  let warnings : List Log.Record := (credentialWarnings src).map fun w =>
    { level := .warn, message := w }
  let logs := (keys :: warnings).filterMap lg.line
  let banner := ["Keygate v" ++ programVersion,
    "Loading configuration from: " ++ (if snap.path.isEmpty then "defaults and environment" else snap.path),
    "✓ Configuration loaded"] ++
    (if cfg.security.tls.enabled then ["✓ TLS enabled (" ++ cfg.security.tls.certFile ++ ")"] else [])
  let listening := ["✓ Listening on " ++ cfg.server.listenAddress] ++
    Tier.all.map fun t => "  /auth/" ++ t.name ++ " (" ++ (stateOf src t).name ++ ")"
  String.join ((banner ++ logs ++ listening ++ ["✓ Server stopped"]).map (· ++ "\n"))

/-- The `run` command. -/
def runCommand (w : World) (vs : FlagValues) : Effect :=
  match loadFor w vs with
  | .error f => .fail f
  | .ok snap =>
    let cfg := snap.config
    let cfg := if (vs.text "listen").isEmpty then cfg
      else { cfg with server := { cfg.server with listenAddress := vs.text "listen" } }
    let logging := runLogging cfg vs
    match Log.parseLevel logging.level, Log.parseFormat logging.format with
    | .error e, _ => .fail (.config "telemetry.logging" ("invalid log level: " ++ e))
    | _, .error e => .fail (.config "telemetry.logging" ("invalid log format: " ++ e))
    | .ok level, .ok format =>
      if vs.isOn "dry-run" then { stdout := "✓ Configuration valid\n" }
      else
        let lg : Log.Logger := { format := format, threshold := level, redact := logging.redact }
        { stdout := startLines snap cfg lg }

/-- The `version` command. -/
def versionCommand : Effect :=
  { stdout := "Keygate v" ++ programVersion ++ "\nGit commit: unknown\nBuilt: unknown\nGo version: unknown\n" }

/-- The output format flag shared by the commands that print a result. -/
def outputFlag : Flag := Flag.text "output" (some 'o') "output format: text, json" "text"

/-- How to load the completion script of a shell, for the help of its
completion command. -/
def completionLong (shell : String) : String :=
  let name := "keygate"
  let tail := "You will need to start a new shell for this setup to take effect.\n"
  if shell == "bash" then
    "Generate the autocompletion script for the bash shell.\n\n" ++
    "This script depends on the 'bash-completion' package.\n" ++
    "If it is not installed already, you can install it via your OS's package manager.\n\n" ++
    "To load completions in your current shell session:\n\n" ++
    "\tsource <(" ++ name ++ " completion bash)\n\n" ++
    "To load completions for every new session, execute once:\n\n" ++
    "#### Linux:\n\n" ++
    "\t" ++ name ++ " completion bash > /etc/bash_completion.d/" ++ name ++ "\n\n" ++
    "#### macOS:\n\n" ++
    "\t" ++ name ++ " completion bash > $(brew --prefix)/etc/bash_completion.d/" ++ name ++ "\n\n" ++
    tail
  else if shell == "zsh" then
    "Generate the autocompletion script for the zsh shell.\n\n" ++
    "If shell completion is not already enabled in your environment you will need\n" ++
    "to enable it.  You can execute the following once:\n\n" ++
    "\techo \"autoload -U compinit; compinit\" >> ~/.zshrc\n\n" ++
    "To load completions in your current shell session:\n\n" ++
    "\tsource <(" ++ name ++ " completion zsh)\n\n" ++
    "To load completions for every new session, execute once:\n\n" ++
    "#### Linux:\n\n" ++
    "\t" ++ name ++ " completion zsh > \"$\x7bfpath[1]\x7d/_" ++ name ++ "\"\n\n" ++
    "#### macOS:\n\n" ++
    "\t" ++ name ++ " completion zsh > $(brew --prefix)/share/zsh/site-functions/_" ++ name ++ "\n\n" ++
    tail
  else if shell == "fish" then
    "Generate the autocompletion script for the fish shell.\n\n" ++
    "To load completions in your current shell session:\n\n" ++
    "\t" ++ name ++ " completion fish | source\n\n" ++
    "To load completions for every new session, execute once:\n\n" ++
    "\t" ++ name ++ " completion fish > ~/.config/fish/completions/" ++ name ++ ".fish\n\n" ++
    tail
  else
    "Generate the autocompletion script for powershell.\n\n" ++
    "To load completions in your current shell session:\n\n" ++
    "\t" ++ name ++ " completion powershell | Out-String | Invoke-Expression\n\n" ++
    "To load completions for every new session, add the output of the above command\n" ++
    "to your powershell profile.\n"

/-- A shell's completion command. -/
def completionFor (shell : String) : CommandTree :=
  .node { use := shell, short := "Generate the autocompletion script for " ++ shell,
          long := completionLong shell, arity := .none, flagsInUse := false,
          flags := [Flag.switch "no-descriptions" none "disable completion descriptions"] } []

/-- The command tree of `keygate`, children in the order they are added. -/
def program : CommandTree :=
  .node
    { use := "keygate"
      short := "Keygate - credential verification for the grok2api access tiers"
      long := "Keygate verifies bearer credentials for the three grok2api access tiers:\n\n" ++
        "  - admin:  management API, guarded by app.api_key\n" ++
        "  - login:  web login, guarded by app.app_key\n" ++
        "  - public: public-facing API, guarded by app.public_key and app.public_enabled\n\n" ++
        "It runs as a forward-auth service next to a reverse proxy and re-reads its\n" ++
        "configuration on file change, on a schedule, or on SIGHUP.\n\n" ++
        "When --config is empty only defaults and KEYGATE_* environment variables apply."
      runnable := false
      version := programVersion
      persistent := [Flag.text "config" (some 'c') "config file path" "",
        Flag.switch "verbose" (some 'v') "verbose output"] }
    [.node
      { use := "check"
        short := "Check a token against the configured credentials"
        long := "Evaluate a token for one tier exactly as the running service would.\n\n" ++
          "Without --token or --stdin the request is treated as carrying no\n" ++
          "credential. The command exits 0 when the request would be let through,\n" ++
          "2 when it would be rejected, and 1 on any other error.\n\n" ++
          "Examples:\n" ++
          "  keygate check --tier admin --token \"$ADMIN_KEY\"\n" ++
          "  keygate check --tier public --token public-3f2a...\n" ++
          "  keygate check --tier public\n" ++
          "  printf '%s' \"$KEY\" | keygate check --tier login --stdin --output json"
        arity := .none
        flags := [Flag.text "tier" (some 't') "tier to check: admin, login, public" "",
          Flag.text "token" none "bearer token to present" "",
          Flag.switch "stdin" none "read the token from standard input", outputFlag]
        required := ["tier"]
        exclusive := [["token", "stdin"]] } [],
     .node
      { use := "hash [secret]"
        short := "Print the hashed public token for a public key"
        long := "Print the token a browser client derives from a public key.\n\n" ++
          "Clients may present either the raw public key or this hashed form. Use\n" ++
          "--stdin to keep the secret out of shell history.\n\n" ++
          "Examples:\n" ++
          "  keygate hash my-public-key\n" ++
          "  printf 'my-public-key' | keygate hash --stdin\n" ++
          "  keygate hash --output json my-public-key"
        arity := .atMost 1
        flags := [Flag.switch "stdin" none "read the secret from standard input", outputFlag] } [],
     .node
      { use := "run"
        short := "Start the keygate forward-auth server"
        long := "Start the keygate forward-auth server with the specified configuration.\n\n" ++
          "The server answers GET /auth/admin, /auth/login and /auth/public with 200\n" ++
          "and a JSON decision, or 401 with a \x7b\"detail\": ...\x7d body. Point a reverse\n" ++
          "proxy's auth-request hook at the route for the tier it protects.\n\n" ++
          "The configuration is reloaded when the file changes (reload.watch), on\n" ++
          "the reload.schedule cron expression, and on SIGHUP.\n\n" ++
          "Examples:\n" ++
          "  # Start with defaults and KEYGATE_* environment variables\n" ++
          "  keygate run\n\n" ++
          "  # Start with a config file\n" ++
          "  keygate run --config /etc/keygate/config.yaml\n\n" ++
          "  # Override listen address\n" ++
          "  keygate run --listen 0.0.0.0:8080\n\n" ++
          "  # Validate config without starting server\n" ++
          "  keygate run --dry-run"
        arity := .none
        flags := [Flag.text "listen" (some 'l') "override listen address" "",
          Flag.text "log-level" none "override log level (debug, info, warn, error)" "",
          Flag.switch "dry-run" none "validate config without starting server"] } [],
     .node
      { use := "validate"
        short := "Validate the configuration and show tier states"
        long := "Load and validate the configuration, then report how each tier\n" ++
          "treats requests under it: protected, open, or disabled.\n\n" ++
          "Credential values are never printed.\n\n" ++
          "Examples:\n" ++
          "  keygate validate --config /etc/keygate/config.yaml\n" ++
          "  keygate validate --output json"
        arity := .none
        flags := [outputFlag] } [],
     .node
      { use := "version"
        short := "Print version information"
        long := "Print the version, git commit, build date, and Go version of keygate." } [],
     .node
      { use := "help [command]"
        short := "Help about any command"
        long := "Help provides help for any command in the application.\n" ++
          "Simply type keygate help [path to command] for full details."
        isHelp := true } [],
     .node
      { use := "completion"
        short := "Generate the autocompletion script for the specified shell"
        long := "Generate the autocompletion script for keygate for the specified shell.\n" ++
          "See each sub-command's help for details on how to use the generated script.\n"
        arity := .none
        runnable := false }
      (["bash", "zsh", "fish", "powershell"].map completionFor)]

/-- Run `keygate` with its arguments and standard input in a world. -/
def execute (w : World) (args : List String) (stdin : String) : Outcome :=
  match readCommandLine program args with
  | .done o => o
  | .run p vs words =>
    match p.cmd.name with
    | "check" => (checkCommand w stdin vs).outcome
    | "hash" => (hashCommand stdin vs words).outcome
    | "validate" => (validateCommand w vs).outcome
    | "run" => (runCommand w vs).outcome
    | "version" => versionCommand.outcome
    | _ => {}

/-- The configuration file a command line names, when it runs a command. -/
def configPath (args : List String) : String :=
  match readCommandLine program args with
  | .run _ vs _ => vs.text "config"
  | .done _ => ""

/-- Whether a command line reads standard input. -/
def readsInput (args : List String) : Bool :=
  match readCommandLine program args with
  | .run p vs _ => vs.isOn "stdin" && (p.cmd.name == "check" || p.cmd.name == "hash")
  | .done _ => false

/-- The secret directory a configuration file names, with the environment's
override, and the files in it its credentials refer to. -/
def secretPaths (w : World) (path : String) : List String :=
  let text := if path.isEmpty then "" else (w.files.readFile path).toOption.getD ""
  match Snapshot.parse text with
  | .error _ => []
  | .ok s =>
    let s := applyEnvironment w.env s
    let dir := s.config.security.secrets.dir
    if dir.isEmpty then []
    else
      let names := credentialKeys.flatMap fun key =>
        match s.settings.find? key with
        | some (.str raw) => (pieces raw.toList).filterMap Piece.name?
        | _ => []
      dir :: names.filterMap fun n => (secretPath w.files.cwd dir n).toOption

end Turnstile.Cli
