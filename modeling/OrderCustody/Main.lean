import OrderCustody.Secp256k1.Signer
import OrderCustody.Startup.Basic
import Std.Async
import Std.Http

namespace OrderCustody.Program

/-!
# The program

The outer layer: it reads the environment, files, clocks and random bytes, hands
them to the gateway, and carries its answers back.  It decides nothing itself.
-/

open Std.Async

/-! ## The operating system -/

/-- The fault that the operating system reports. -/
def fileFault : IO.Error → FileFault
  | .noFileOrDirectory _ _ _ => .notFound
  | .inappropriateType _ code detail =>
      if code = 20 then .notDirectory
      else if code = 21 then .isDirectory
      else .other detail
  | other => .other (toString other)

/-- The bytes of a file. -/
def readFile (path : String) : IO (Except FileFault Bytes) := do
  match ← (IO.FS.readBinFile path).toBaseIO with
  | .ok bytes => return .ok bytes.toList
  | .error error => return .error (fileFault error)

/-- Files of which there is only one. -/
def onlyFile (path : String) (content : Except FileFault Bytes) : Files :=
  fun asked => if asked = path then content else .error .notFound

/-- Bytes of the system's source of randomness. -/
def randomOctets (size : Nat) : IO (Octets size) := do
  let bytes ← IO.getRandomBytes (USize.ofNat size)
  return Octets.resize size bytes.toList

/-- What one sealing draws. -/
def randomDraw : IO Custody.Draw := do
  return {
    key := ← randomOctets 32
    nonce := ← randomOctets 12
    left := ← randomOctets 32
  }

/-- The start of 1970, some time since. -/
def epoch (elapsed : Nat) : Clock where
  elapsed := elapsed
  calendar := ⟨⟨1970, 1, 1, by decide⟩, 0, 0, by decide⟩
  regular := by decide

/-- What the clocks of the machine show. -/
def readClock : IO Clock := do
  let elapsed ← IO.monoMsNow
  let now ← Std.Time.Timestamp.now
  let nanos := now.toNanosecondsSinceUnixEpoch.val
  let calendar := Calendar.Timestamp.ofUnix? (nanos.fdiv Calendar.nanosPerSecond)
    (nanos.fmod Calendar.nanosPerSecond).toNat
  match calendar with
  | none => return epoch elapsed
  | some calendar =>
      if regular : calendar.IsRegular then return { elapsed, calendar, regular }
      else return epoch elapsed

/-- The variables that the program was started with. -/
def readEnvironment : IO Environment := do
  return (← Std.Internal.UV.System.osEnviron).toList

/-! ## The log and the audit trail -/

/-- Show those lines that the log's filter lets through. -/
def say (style : Startup.LogStyle) (lines : List Log.Line) : IO Unit := do
  let output ← IO.getStdout
  for line in style.shown lines do
    let time := (← readClock).calendar.text
    if style.json then
      let rendered := (line.toJson Startup.logTarget).render
      output.putStrLn ("\x7b\"timestamp\":\"" ++ time ++ "\"," ++ rendered.drop 1)
    else
      output.putStrLn
        (time ++ " " ++ line.level.name ++ " " ++ Startup.logTarget ++ ": " ++
          line.message ++ line.fieldsText)
  output.flush

/-- Append the events of a trail to its file; that this fails is passed over. -/
def append (file : Option IO.FS.Handle) (trail : Audit.Trail) : IO Unit := do
  if let some file := file then
    try
      file.putStr trail.text
      file.flush
    catch _ => return ()

/-! ## Serving -/

/-- The gateway with the file that its trail goes to. -/
structure Service where
  gateway : Std.Mutex Gateway
  file : Option IO.FS.Handle

/-- Let the gateway do something; what it records is appended to the file. -/
def Service.update {α : Type} (service : Service) (act : Gateway → IO (α × Gateway)) :
    IO α :=
  service.gateway.atomically do
    let (result, gateway) ← act (← get)
    append service.file gateway.desk.trail
    let kept := { gateway.desk with trail := { gateway.desk.trail with
      file := gateway.desk.trail.file.map fun _ => [] } }
    set { gateway with desk := kept }
    return result

/-- The key file, if the request is one that loads it. -/
def keyFileFor (gateway : Gateway) (request : Gateway.Request) : IO Files := do
  match gateway.admitActivation request with
  | .ok (.file path, _) => return onlyFile path (← readFile path)
  | _ => return fun _ => .error .notFound

/-- The answer to a request, at the time it is given and with bytes drawn for it. -/
def Service.answer (service : Service) (request : Gateway.Request) : IO Gateway.Response :=
  service.update fun gateway => do
    let around : Gateway.Surroundings := {
      clock := ← readClock
      files := ← keyFileFor gateway request
      draw := ← randomDraw
    }
    return gateway.handle around request

/-- The body of a request, if all of it arrives and it is not too large. -/
def bodyOf? (body : Std.Http.Body.Stream) : Async (Option Bytes) := do
  try
    let bytes : ByteArray ← body.readAll (some (UInt64.ofNat Gateway.maxBodyBytes))
    return some bytes.toList
  catch _ =>
    return none

/-- A request as the gateway looks at it. -/
def requestOf (request : Std.Http.Request Std.Http.Body.Stream) : Async Gateway.Request := do
  let headers := request.line.headers.toList.map fun (name, value) =>
    ({ name := toString name, value := Bytes.ofText (toString value) } : Gateway.HeaderField)
  let body? ← bodyOf? request.body
  return {
    method := toString request.line.method
    target := toString request.line.uri
    headers
    body := body?.getD []
    complete := body?.isSome
  }

/-- The status of an answer as the server sends it. -/
def statusOf (code : Nat) : Std.Http.Status :=
  (Std.Http.Status.ofCode none (UInt16.ofNat code)).getD .internalServerError

/-- An answer as the server sends it. -/
def send (response : Gateway.Response) :
    Async (Std.Http.Response Std.Http.Body.Any) := do
  let builder := response.headers.foldl
    (fun (builder : Std.Http.Response.Builder) (name, value) =>
      (builder.header? name value).getD builder)
    (Std.Http.Response.withStatus (statusOf response.status))
  let full ← builder.fromBytes response.body.toUTF8
  return {
    line := full.line
    body := Std.Http.Body.Any.ofBody full.body
    extensions := full.extensions
  }

/-- The address to listen at; its scope is lost. -/
def listenAddress : SocketAddress → Std.Net.SocketAddress
  | .four host port =>
      .v4 { addr := ⟨Vector.ofFn fun i => host.bytes.getD i 0⟩, port }
  | .six host _ port =>
      let group (i : Nat) : UInt16 :=
        (host.bytes.getD (2 * i) 0).toUInt16 * 256 + (host.bytes.getD (2 * i + 1) 0).toUInt16
      .v6 { addr := ⟨Vector.ofFn fun i => group i⟩, port }

/-- Serve until the program is interrupted. -/
def Service.run (service : Service) (listen : SocketAddress) : Async Unit := do
  let handler := Std.Http.Server.Handler.ofFn fun request => do
    let request ← requestOf request
    send (← service.answer request)
  let server ← Std.Http.Server.serve (listenAddress listen) handler { serverName := none }
  let interrupt ← Signal.Waiter.mk .sigint false
  let _ ← await (← interrupt.wait)
  server.shutdownAndWait

/-- Serve, then shut the gateway down. -/
def serve
    (style : Startup.LogStyle)
    (file : Option IO.FS.Handle)
    (listen : SocketAddress)
    (gateway : Gateway) :
    IO UInt32 := do
  let service : Service := { gateway := ← Std.Mutex.new gateway, file }
  try
    (service.run listen).block
  catch error =>
    IO.eprintln ("Error: Internal error: " ++ toString error)
    return 1
  service.update fun gateway => do
    return ((), gateway.shutDown (← readClock))
  say style [Startup.farewell]
  return 0

/-! ## From start to end -/

/-- Open the file of the audit trail to append to it. -/
def openTrail (path : String) : IO (Except FileFault IO.FS.Handle) := do
  match ← (IO.FS.Handle.mk path .append).toBaseIO with
  | .ok file => return .ok file
  | .error error => return .error (fileFault error)

/-- Go on to the first session, and serve. -/
def proceed
    (style : Startup.LogStyle)
    (file : Option IO.FS.Handle)
    (prepared : Startup.Prepared) :
    IO UInt32 := do
  let files : Files ← match prepared.settings.keyFile with
    | some path =>
        if prepared.settings.activateOnStart then pure (onlyFile path (← readFile path))
        else pure fun _ => .error .notFound
    | none => pure fun _ => .error .notFound
  let start := prepared.serve (← readClock) (← randomDraw) files
  say style start.log
  match start.outcome with
  | .serving listen gateway =>
      append file gateway.desk.trail
      let trail := { gateway.desk.trail with file := gateway.desk.trail.file.map fun _ => [] }
      serve style file listen { gateway with desk := { gateway.desk with trail } }
  | .stopped trail =>
      append file trail
      return 1
  | .refused _ => return 2

/-- Start with some settings, and serve if there is something to serve. -/
def runWith (settings : Settings) (environment : Environment) : IO UInt32 := do
  let style := Startup.logStyle environment settings
  let instanceId := "signer-" ++ Hex.encode (← randomOctets 4).bytes
  match Startup.prepare Secp256k1.signer (← randomDraw) instanceId settings environment with
  | .error log =>
      say style log
      return 1
  | .ok prepared =>
      if let some name := settings.keyVariable then Std.Internal.UV.System.osUnsetenv name
      say style prepared.banner
      match settings.auditLog with
      | none => proceed style none prepared
      | some path =>
          match ← openTrail path with
          | .ok file => proceed style (some file) prepared.attach
          | .error fault =>
              say style [Startup.unopened path fault]
              return 1

/-- Run the program with a command line. -/
def run (arguments : List String) : IO UInt32 := do
  let files := onlyFile Dotenv.fileName (← readFile Dotenv.fileName)
  let environment := Dotenv.load files (← readEnvironment)
  match Settings.read arguments environment with
  | .ok settings => runWith settings environment
  | .error fault =>
      match fault with
      | .help => IO.println fault.message
      | _ => IO.eprintln ("error: " ++ fault.message)
      return UInt32.ofNat (Startup.refusedCode fault)

end OrderCustody.Program

/-- Run the program. -/
def main (arguments : List String) : IO UInt32 :=
  OrderCustody.Program.run arguments
