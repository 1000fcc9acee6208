import HttpExchange.Demo

/-!
The command line: reads the settings, starts the server, and serves one connection over standard input
and output, as a program that a listener starts for each connection.
-/
namespace HttpExchange.CommandLine

/-- Reads octet by octet, so as never to wait for more than the client has sent, answers each request
that they complete, and writes the answers, until one end closes. -/
partial def serve (server : Listening) (input output : IO.FS.Stream) (connection : Connection) : IO Unit := do
  let piece ← input.read 1
  let (connection, sent) := connection.exchange Packing.standard server.respond piece.toList
  output.write ⟨sent.toArray⟩
  output.flush
  if connection.stage ≠ .closed then serve server input output connection

/-- The files of a list that can be read, with their contents. -/
def readFiles (paths : List String) : IO (List (String × Bytes)) :=
  paths.filterMapM fun (path : String) => do
    try return some (path, (← IO.FS.readBinFile path).toList)
    catch _ => return none

/-- The content of a file among those that were read. -/
def contentIn (files : List (String × Bytes)) (path : String) : Option Bytes := files.lookup path

/-- The paths that settings name. -/
def certificatePaths : Except ConfigFault ServerConfig → List String
  | .ok ⟨_, _, _, _, some tls⟩ => [tls.certPath, tls.keyPath]
  | _ => []

/-- Runs the server with the settings of the environment; the result is the exit code. -/
def run : IO UInt32 := do
  let environment : ServerConfig.Environment := {
    config := ← IO.getEnv "WEFT_CONFIG"
    listen := ← IO.getEnv "WEFT_LISTEN"
    workers := ← IO.getEnv "WEFT_WORKERS"
    deadlineMs := ← IO.getEnv "WEFT_DEADLINE_MS" }
  let settings ← readFiles environment.config.toList
  let certificates ← readFiles (certificatePaths (ServerConfig.load environment (contentIn settings)))
  match Demo.run environment (contentIn (settings ++ certificates)) ListenAddress.isLocal with
  | .error fault =>
    IO.eprintln fault.report
    return 1
  | .ok server =>
    serve server (← IO.getStdin) (← IO.getStdout) .fresh
    return 0

end HttpExchange.CommandLine

def main : IO UInt32 := HttpExchange.CommandLine.run
