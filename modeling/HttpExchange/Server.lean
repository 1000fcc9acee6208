import HttpExchange.Config
import HttpExchange.Router
import HttpExchange.Server.Conversation
import HttpExchange.Tls.Acceptor
import HttpExchange.Url.Host

/-!
A server before and after its start: settings, routes, the certificate that it shows, and where it listens: at a
host and a port, parted by the last colon.
-/
namespace HttpExchange

/-- A host as it is written in front of a port. -/
inductive ListenHost
  | address4 (octets : List Nat)
  | address6 (groups : List Nat)
  | name (text : String)
  deriving Repr, DecidableEq

/-- A host with a port. -/
structure ListenAddress where
  host : ListenHost
  port : Nat
  deriving Repr, DecidableEq

namespace ListenAddress

/-- Reads a host: an address of eight groups in brackets, one of four octets, else a name. -/
def hostOf (cs : List Char) : ListenHost :=
  let bracketed := match cs with
    | '[' :: rest => if rest.getLast? = some ']' then Host.address6? rest.dropLast else none
    | _ => none
  match bracketed, (Text.splitWhere (· == '.') cs).mapM Host.octet? with
  | some groups, _ => .address6 groups
  | none, some [a, b, c, d] => .address4 [a, b, c, d]
  | none, _ => .name (.ofList cs)

/-- Reads host and port. -/
def ofText? (text : String) : Option ListenAddress :=
  let cs := text.toList.reverse
  match cs.dropWhile (· ≠ ':') with
  | [] => none
  | _ :: before =>
    (Text.naturalBelow? 65536 (.ofList (cs.takeWhile (· ≠ ':')).reverse)).map fun port =>
      ⟨hostOf before.reverse, port⟩

/-- The machine listens there without anybody else's help: on itself or on all of its addresses. -/
def isLocal (a : ListenAddress) : Bool :=
  match a.host with
  | .address4 octets => octets.head? == some 127 || octets == [0, 0, 0, 0]
  | .address6 groups => groups == [0, 0, 0, 0, 0, 0, 0, 1] || groups == List.replicate 8 0
  | .name text => text == "localhost"

end ListenAddress

/-- A server that is being set up. -/
structure Server where
  config : ServerConfig
  router : Router Service
  /-- The certificate to show in place of the one that the settings name. -/
  acceptor : Option Tls.Acceptor

/-- Why a server does not start. -/
inductive StartFault
  | secure (failure : Failure)
  | bind (address : String)
  deriving Repr, DecidableEq

def StartFault.message : StartFault → String
  | secure failure => failure.message
  | bind address => "failed to bind " ++ address

/-- A server that listens, securely if it has a certificate to show. -/
structure Listening where
  address : ListenAddress
  acceptor : Option Tls.Acceptor
  router : Router Service
  deadline : Option Duration
  bufferSize : Nat

namespace Server

def make (config : ServerConfig) : Server := ⟨config, .empty, none⟩

def route (s : Server) (pattern : String) (isRegex : Bool) (service : Service) : Except Failure Server :=
  (s.router.add pattern isRegex service).map fun router => { s with router }

/-- The certificate that the server shows, if any. -/
def chosenAcceptor (s : Server) (file : String → Option Bytes) : Except Failure (Option Tls.Acceptor) :=
  match s.acceptor, s.config.tls with
  | some acceptor, _ => .ok (some acceptor)
  | none, some files => (Tls.Acceptor.load files.certPath files.keyPath file).map some
  | none, none => .ok none

/-- Starts the server: first the certificate, then the address, of which the surroundings say whether it
can be had. -/
def start (s : Server) (file : String → Option Bytes) (canBind : ListenAddress → Bool) :
    Except StartFault Listening :=
  match s.chosenAcceptor file with
  | .error failure => .error (.secure failure)
  | .ok acceptor =>
    match (ListenAddress.ofText? s.config.listenAddr).filter canBind with
    | none => .error (.bind s.config.listenAddr)
    | some address => .ok ⟨address, acceptor, s.router, s.config.deadline, s.config.bufferSize⟩

end Server

namespace Listening

def respond (s : Listening) (request : Request) : Response := s.router.respond Packing.standard request

/-- Takes in octets on one of its connections, and runs on until it needs something from outside. -/
def hear (s : Listening) (c : Conversation) (octets : Bytes) : Conversation :=
  (c.hear octets).settle Packing.standard s.respond s.bufferSize

end Listening
end HttpExchange
