import HttpExchange.Client.Exchange
import HttpExchange.Reactor

/-!
A client's session: headers that go with every request, settings, idle connections, and the number of
connections that were opened.
-/
namespace HttpExchange

/-- What the requests of a session share. -/
structure Session (κ : Type) where
  config : ClientConfig
  headers : Headers
  pool : Pool κ
  connects : Nat
  reactor : Reactor

namespace Session
variable {κ : Type}

/-- The name under which a session introduces itself unless it is told another. -/
def userAgent : String := "weft/0.1.0"

/-- The headers of a session with the settings given. -/
def standardHeaders (config : ClientConfig) : Headers :=
  .ofList [⟨"User-Agent", config.userAgent.getD userAgent⟩, ⟨"Accept-Encoding", "gzip, deflate"⟩,
    ⟨"Accept", "*/*"⟩, ⟨"Connection", "Keep-Alive"⟩]

/-- A session that has not sent anything. -/
def make (config : ClientConfig) : Session κ :=
  ⟨config, standardHeaders config, .empty, 0, .start "weft-client"⟩

/-- Sets a header that goes with every request. -/
def setHeader (s : Session κ) (name value : String) : Session κ := { s with headers := s.headers.set name value }

/-- The exchange of a request, before its start. -/
def exchange (s : Session κ) (request : ClientRequest) : Except Failure (Exchange κ) :=
  (Endpoint.ofUrl request.url).map fun endpoint =>
    ⟨endpoint, Settings.resolve request.options s.config, request.toRequest s.headers, .starting⟩

/-- A call that waits for its result must not come from the thread that is to bring the result. -/
def blockingFault? (s : Session κ) (place : Place) : Option Failure :=
  if s.reactor.isCurrent place then some (.system .wouldBlockItself) else none

/-- Carries out an event of an exchange on the session's pool, and counts connections that are opened. -/
def step (packing : Packing) (s : Session κ) (x : Exchange κ) (event : Exchange.Event κ) :
    Exchange κ × Session κ × List (Exchange.Command κ) :=
  let outcome := x.step packing s.pool event
  let opened := match x.stage, event with
    | .opening, .opened _ => 1
    | _, _ => 0
  (outcome.exchange, { s with pool := outcome.pool, connects := s.connects + opened }, outcome.commands)

end Session
end HttpExchange
