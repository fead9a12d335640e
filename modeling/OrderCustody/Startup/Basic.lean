import OrderCustody.Dotenv.Basic
import OrderCustody.Log.Filter
import OrderCustody.Settings.CommandLine
import OrderCustody.Startup.Opening

namespace OrderCustody.Startup

/-!
# Starting up

From the command line and the environment to a gateway that serves, or to the
reason why none does.  Whatever fails on the way stops the program before it
answers any request.
-/

/-- What the program finds when it starts. -/
structure Place where
  files : Files
  /-- Open a file to append to it; gives the files as they are from then on. -/
  openLog : String → Except FileFault Files
  clock : Clock
  /-- Random bytes to seal a key taken from the environment with. -/
  sourceDraw : Custody.Draw
  /-- Random bytes to seal the key of the first session with. -/
  sessionDraw : Custody.Draw
  instanceId : String

/-- Where a start ends. -/
inductive Outcome where
  /-- The command line or the environment is refused. -/
  | refused (fault : CommandLine.Fault)
  /-- The program stops before it serves. -/
  | stopped (trail : Audit.Trail)
  /-- The gateway serves at an address. -/
  | serving (listen : SocketAddress) (gateway : Gateway)

/-- A start: what it says in the log, and where it ends. -/
structure Start where
  log : List Log.Line
  outcome : Outcome

/-- How the log is shown. -/
structure LogStyle where
  filter : Log.Filter
  json : Bool

/-- The target of the log lines of the program itself. -/
def logTarget : String := "session_signer"

/-- The variable that holds the filter of the log. -/
def logFilterName : String := "RUST_LOG"

/-- The filter that the environment asks for, else the one of the log level. -/
def logFilter (environment : Environment) (settings : Settings) : Log.Filter :=
  ((environment.get? logFilterName).bind Log.Filter.parse?).getD
    (Log.Filter.parse (logTarget ++ "=" ++ settings.logLevel ++ ",info"))

/-- How the log is shown, by settings and the environment. -/
def logStyle (environment : Environment) (settings : Settings) : LogStyle where
  filter := logFilter environment settings
  json := settings.logJson

/-- How nothing is shown. -/
def LogStyle.silent : LogStyle where
  filter := []
  json := false

/-- The lines that are shown, of those that are logged. -/
def LogStyle.shown (style : LogStyle) (lines : List Log.Line) : List Log.Line :=
  lines.filter (style.filter.shows logTarget)

/-- A line that sets the banner apart. -/
def rule : Log.Line :=
  .info "======================================"

/-- Everything that is ready before the log of events is opened. -/
structure Prepared where
  settings : Settings
  keySource : Option KeySource
  desk : Desk

/-- What is logged of the settings once they have been checked. -/
def Prepared.banner (prepared : Prepared) : List Log.Line := [
  rule,
  .info "  Session Signer",
  rule,
  .info ("Instance: " ++ prepared.desk.trail.instanceId),
  .info ("Listen: " ++ prepared.settings.listen.text),
  .info ("Session TTL: " ++ Decimal.text prepared.settings.sessionSeconds.toNat ++ "s"),
  .info ("Default value limit: " ++ Decimal.text prepared.desk.defaultLimit),
  .info ("Domain: " ++ prepared.desk.domain.name ++ " v" ++ prepared.desk.domain.version ++
    " (chain " ++ Decimal.text prepared.desk.domain.chainId.toNat ++
    ", exchange " ++ prepared.settings.exchange ++ ")"),
  .info ("Key source: " ++ (prepared.keySource.map KeySource.describe).getD "none"),
  .info ("Admin routes: " ++
    if prepared.settings.adminEnabled then "enabled" else "disabled"),
  rule
]

/-- What the log says when the program has served and stops. -/
def farewell : Log.Line :=
  .info "Session signer stopped"

/-- A stop with what has been recorded, and the reason if one is given. -/
def stop (trail : Audit.Trail) (log : List Log.Line) : Start where
  log := log
  outcome := .stopped trail

/-- Check the settings and take the key source from them; the reason to stop may
be given. -/
def prepare
    (signer : Signer)
    (draw : Custody.Draw)
    (instanceId : String)
    (settings : Settings)
    (environment : Environment) :
    Except (List Log.Line) Prepared :=
  match settings.validate with
  | .error fault => .error [.error ("Configuration error: " ++ fault.message)]
  | .ok () =>
      match (settings.keySource draw environment).1 with
      | .error fault => .error [.error ("Key source error: " ++ fault.message)]
      | .ok keySource =>
          match settings.desk signer (Audit.Trail.detached instanceId) with
          | .error _ => .error []
          | .ok desk => .ok { settings, keySource, desk }

/-- What the log says when the audit trail has no file to go to. -/
def unopened (path : String) (fault : FileFault) : Log.Line :=
  .error ("Failed to open audit log " ++ path ++ ": " ++ fault.message)

/-- Serve at once, or start the first session before, if there is a key source
and it is to be used. -/
def Prepared.serve
    (prepared : Prepared)
    (clock : Clock)
    (draw : Custody.Draw)
    (files : Files) :
    Start :=
  let serving (line : Log.Line) (desk : Desk) : Start := {
    log := [line]
    outcome := .serving prepared.settings.listen
      (prepared.settings.gateway prepared.keySource clock desk)
  }
  match prepared.keySource with
  | none =>
      serving (.plain .warn "No key source configured - signing requests will be refused")
        prepared.desk
  | some source =>
      if prepared.settings.activateOnStart then
        match prepared.desk.activateFrom clock draw (source.load files) none with
        | (.ok report, desk) =>
            serving {
              level := .info
              message := "Startup session active"
              fields := [
                ("address", .text report.sessionAddress),
                ("ttl_secs", .number report.ttlSeconds.toNat)
              ]
            } desk
        | (.error refusal, desk) =>
            stop desk.trail [.error ("Startup activation failed: " ++ refusal.message)]
      else
        serving (.info "ACTIVATE_ON_START disabled - waiting for admin activation")
          prepared.desk

/-- What is prepared, with a file attached to its trail. -/
def Prepared.attach (prepared : Prepared) : Prepared :=
  { prepared with
    desk := { prepared.desk with trail := prepared.desk.trail.attach } }

/-- Attach the configured file to the trail, then serve. -/
def Prepared.start (prepared : Prepared) (place : Place) : Start :=
  match prepared.settings.auditLog with
  | none => prepared.serve place.clock place.sessionDraw place.files
  | some path =>
      match place.openLog path with
      | .error fault => stop prepared.desk.trail [unopened path fault]
      | .ok files => prepared.attach.serve place.clock place.sessionDraw files

/-- Start with some settings: prepare everything, and then start with what was prepared.
-/
def startWith
    (signer : Signer)
    (place : Place)
    (settings : Settings)
    (environment : Environment) :
    Start :=
  match prepare signer place.sourceDraw place.instanceId settings environment with
  | .error log => stop (Audit.Trail.detached place.instanceId) log
  | .ok prepared =>
      let start := prepared.start place
      { start with log := prepared.banner ++ start.log }

/-- A start with the settings it was made with, if there are any. -/
structure Launch where
  settings : Option Settings
  environment : Environment
  start : Start

/-- Start with a command line; the environment file is read first, the settings then. -/
def launch
    (signer : Signer)
    (place : Place)
    (arguments : List String)
    (environment : Environment) :
    Launch :=
  let environment := Dotenv.load place.files environment
  match Settings.read arguments environment with
  | .error fault => {
      settings := none
      environment
      start := { log := [], outcome := .refused fault }
    }
  | .ok settings => {
      settings := some settings
      environment
      start := startWith signer place settings environment
    }

/-- How lines are logged; where the settings are refused, none are. -/
def Launch.style (launch : Launch) : LogStyle :=
  match launch.settings with
  | some settings => logStyle launch.environment settings
  | none => .silent

/-- How the program ends: what it says last, what the trail holds then, and
its exit code. -/
structure Ending where
  log : List Log.Line
  trail : Audit.Trail
  exitCode : Nat

/-- The exit code for a command line that is refused. -/
def refusedCode : CommandLine.Fault → Nat
  | .help => 0
  | _ => 2

/-- The end of a start: at once, or when the gateway is told to shut down.  A
gateway that cannot listen where it should ends without a word and forgets its
session. -/
def Outcome.ending (outcome : Outcome) (listens : Bool) (clock : Clock) : Ending :=
  match outcome with
  | .refused fault => {
      log := []
      trail := Audit.Trail.detached ""
      exitCode := refusedCode fault
    }
  | .stopped trail => { log := [], trail, exitCode := 1 }
  | .serving _ gateway =>
      if listens then {
        log := [farewell]
        trail := (gateway.shutDown clock).desk.trail
        exitCode := 0
      }
      else { log := [], trail := gateway.desk.trail, exitCode := 1 }

end OrderCustody.Startup
