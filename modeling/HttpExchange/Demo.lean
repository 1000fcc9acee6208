import HttpExchange.Server

/-!
A small server: it says that it is well, and it repeats a part of the path.
-/
namespace HttpExchange.Demo

/-- Says that all is well. -/
def health : Service := fun _ _ => some (Response.ok (Utf8.encode "ok"))

/-- Repeats what the path bound. -/
def echo : Service := fun _ arguments => some (Response.ok (Utf8.encode (arguments.head?.getD "")))

/-- The server with both services. -/
def server (config : ServerConfig) : Except Failure Server := do
  let server ← (Server.make config).route "/health" false health
  server.route "/echo/(.*)" true echo

/-- Why the server does not run. -/
inductive Fault
  | config (fault : ConfigFault)
  | route (failure : Failure)
  | start (fault : StartFault)
  deriving Repr, DecidableEq

/-- The fault in words. -/
def Fault.message : Fault → String
  | config fault => fault.message
  | route failure => failure.message
  | start fault => fault.message

/-- The line that reports a fault. -/
def Fault.report (fault : Fault) : String := "Error: " ++ fault.message

/-- Loads the settings and starts the server. -/
def run (environment : ServerConfig.Environment) (file : String → Option Bytes) (canBind : ListenAddress → Bool) :
    Except Fault Listening :=
  match ServerConfig.load environment file with
  | .error fault => .error (.config fault)
  | .ok config =>
    match server config with
    | .error failure => .error (.route failure)
    | .ok server => (server.start file canBind).mapError .start

end HttpExchange.Demo
