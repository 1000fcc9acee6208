import HttpExchange.Bytes
import HttpExchange.Duration
import HttpExchange.Text.Quoted
import HttpExchange.Text.Utf8
import HttpExchange.Yaml.Document

/-!
Settings of servers and clients, each of which has a default: read from a YAML mapping and, for
servers, from the environment.
-/
namespace HttpExchange
open Yaml (Value)

/-- Where a server finds its certificate and key. -/
structure TlsFiles where
  certPath : String
  keyPath : String
  deriving Repr, DecidableEq

/-- Settings of a server. -/
structure ServerConfig where
  listenAddr : String
  workers : Nat
  deadlineMs : Option Nat
  bufferSize : Nat
  tls : Option TlsFiles
  deriving Repr, DecidableEq

/-- Settings of a client; what is left open has a default or comes with each request. -/
structure ClientConfig where
  bufferSize : Option Nat
  connectTimeoutMs : Option Nat
  readTimeoutMs : Option Nat
  tlsContext : Option String
  userAgent : Option String
  deriving Repr, DecidableEq

/-- Why settings cannot be had. -/
inductive ConfigFault
  | unreadable (path : String)
  | invalidServer
  | invalidClient
  | noNumber (name value : String)
  deriving Repr, DecidableEq

/-- The fault in words. -/
def ConfigFault.message : ConfigFault → String
  | unreadable path => "cannot read " ++ path
  | invalidServer => "invalid server configuration"
  | invalidClient => "invalid client configuration"
  | noNumber name value => name ++ " is not a number: " ++ Text.quoted value

namespace Setting

/-- Numbers are below this bound, the number of values that 64 bits have. -/
def numberBound : Nat := 18446744073709551616

/-- A number in base 10, or in base 16, 8 or 2 after a mark; leading zeros make it a text. -/
def number? (text : String) : Option Nat :=
  let cs := match text.toList with
    | '+' :: rest => rest
    | cs => cs
  let read (base : Nat) (cs : List Char) : Option Nat := (Text.radix? base cs).filter (· < numberBound)
  match cs with
  | '0' :: 'x' :: rest => read 16 rest
  | '0' :: 'o' :: rest => read 8 rest
  | '0' :: 'b' :: rest => read 2 rest
  | '0' :: _ :: _ => none
  | cs => read 10 cs

/-- The words for no value. -/
def isNull (text : String) : Bool := ["null", "Null", "NULL", "~"].contains text

/-- The tags of numbers and of no value. -/
def numberTag : Bytes := Utf8.encode "tag:yaml.org,2002:int"
def nullTag : Bytes := Utf8.encode "tag:yaml.org,2002:null"

/-- A number: a plain scalar, or a literal block that is tagged as one. -/
def ofNumber? (v : Value) : Option Nat := do
  match ← v.scalar? with
  | (.plain, _, text) => number? text
  | (.literal, some tag, text) => if tag = numberTag then number? text else none
  | _ => none

/-- A text: any scalar. -/
def ofText? (v : Value) : Option String := v.scalar?.map fun (_, _, text) => text

/-- A value that may be missing; `some none` if it is. -/
def optional? {α : Type} (read : Value → Option α) (v : Value) : Option (Option α) :=
  match v.scalar? with
  | some (.plain, tag, text) =>
    if tag = some nullTag then (if isNull text then some none else none)
    else if tag.isNone ∧ (text.isEmpty ∨ isNull text) then some none
    else (read v).map some
  | _ => (read v).map some

/-- The pairs of a mapping, of which every key is a scalar; a missing value is an empty mapping. -/
def pairs? (v : Value) : Option (List (String × Value)) :=
  match v.pairs?, v.scalar? with
  | some pairs, _ => pairs.mapM fun (k, v) => (ofText? k).map fun k => (k, v)
  | none, some (.plain, _, "") => some []
  | _, _ => none

/-- The value of a name that is given once at most; `some none` if it is not given. -/
def field? {α : Type} (pairs : List (String × Value)) (name : String) (read : Value → Option α) :
    Option (Option α) :=
  match pairs.filter (·.1 == name) with
  | [] => some none
  | [(_, v)] => (read v).map some
  | _ => none

end Setting

namespace TlsFiles

/-- Both paths are needed. -/
def ofValue? (v : Value) : Option TlsFiles := do
  let pairs ← Setting.pairs? v
  let certPath ← ← Setting.field? pairs "cert_path" Setting.ofText?
  let keyPath ← ← Setting.field? pairs "key_path" Setting.ofText?
  return ⟨certPath, keyPath⟩

end TlsFiles

namespace ServerConfig
open Setting (field? optional? ofNumber? ofText?)

/-- The settings of a server that was told nothing. -/
def standard : ServerConfig := ⟨"127.0.0.1:8080", 2, none, 1024, none⟩

/-- Reads settings from a mapping; names that are not known are passed over. -/
def ofValue? (v : Value) : Option ServerConfig := do
  let pairs ← Setting.pairs? v
  let listenAddr ← field? pairs "listen_addr" ofText?
  let workers ← field? pairs "workers" ofNumber?
  let deadlineMs ← field? pairs "deadline_ms" (optional? ofNumber?)
  let bufferSize ← field? pairs "buffer_size" ofNumber?
  let tls ← field? pairs "tls" (optional? TlsFiles.ofValue?)
  return {
    listenAddr := listenAddr.getD standard.listenAddr
    workers := workers.getD standard.workers
    deadlineMs := deadlineMs.getD none
    bufferSize := bufferSize.getD standard.bufferSize
    tls := tls.getD none }

/-- Reads settings from YAML text. -/
def ofYaml (text : String) : Except ConfigFault ServerConfig :=
  match (Value.ofText? text).bind ofValue? with
  | some config => .ok config
  | none => .error .invalidServer

/-- Reads settings from the content of a file, `none` if it cannot be had. -/
def ofFile (path : String) (content : Option Bytes) : Except ConfigFault ServerConfig :=
  match content.bind Utf8.decode? with
  | some text => ofYaml text
  | none => .error (.unreadable path)

/-- A number in an environment variable. -/
def variableNumber (name value : String) : Except ConfigFault Nat :=
  match Text.naturalBelow? Setting.numberBound value with
  | some n => .ok n
  | none => .error (.noNumber name value)

/-- The variables that settings are read from. -/
structure Environment where
  config : Option String
  listen : Option String
  workers : Option String
  deadlineMs : Option String

/-- Reads settings from the file that the environment names, if any, and then from the other
variables, which win. -/
def load (environment : Environment) (file : String → Option Bytes) : Except ConfigFault ServerConfig := do
  let config ← match environment.config with
    | some path => ofFile path (file path)
    | none => pure standard
  let workers ← match environment.workers with
    | some value => variableNumber "WEFT_WORKERS" value
    | none => pure config.workers
  let deadlineMs ← match environment.deadlineMs with
    | some value => some <$> variableNumber "WEFT_DEADLINE_MS" value
    | none => pure config.deadlineMs
  return { config with listenAddr := environment.listen.getD config.listenAddr, workers, deadlineMs }

/-- How long a connection may last. -/
def deadline (config : ServerConfig) : Option Duration := config.deadlineMs.map Duration.milliseconds

end ServerConfig

namespace ClientConfig
open Setting (field? optional? ofNumber? ofText?)

/-- The settings of a client that was told nothing. -/
def standard : ClientConfig := ⟨none, none, none, none, none⟩

/-- Reads settings from a mapping; names that are not known are passed over. -/
def ofValue? (v : Value) : Option ClientConfig := do
  let pairs ← Setting.pairs? v
  let bufferSize ← field? pairs "buffer_size" (optional? ofNumber?)
  let connectTimeoutMs ← field? pairs "connect_timeout_ms" (optional? ofNumber?)
  let readTimeoutMs ← field? pairs "read_timeout_ms" (optional? ofNumber?)
  let tlsContext ← field? pairs "tls_context" (optional? ofText?)
  let userAgent ← field? pairs "user_agent" (optional? ofText?)
  return ⟨bufferSize.getD none, connectTimeoutMs.getD none, readTimeoutMs.getD none, tlsContext.getD none,
    userAgent.getD none⟩

/-- Reads settings from YAML text. -/
def ofYaml (text : String) : Except ConfigFault ClientConfig :=
  match (Value.ofText? text).bind ofValue? with
  | some config => .ok config
  | none => .error .invalidClient

def connectTimeout (config : ClientConfig) : Option Duration := config.connectTimeoutMs.map Duration.milliseconds

def readTimeout (config : ClientConfig) : Option Duration := config.readTimeoutMs.map Duration.milliseconds

end ClientConfig
end HttpExchange
