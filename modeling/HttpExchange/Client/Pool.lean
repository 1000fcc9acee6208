import HttpExchange.Failure

/-!
Idle connections that wait for their next request, one at most for each endpoint: scheme, host and port, the
identity under which a connection may be used again. Whoever claims a connection takes it out, so that it never
serves two requests at once; what is not kept has to be closed.
-/
namespace HttpExchange

/-- Scheme, host and port of a server, in small letters. -/
structure Endpoint where
  scheme : String
  host : String
  port : Nat
  deriving Repr, DecidableEq

namespace Endpoint

/-- An endpoint of parts in any letter case. -/
def make (scheme host : String) (port : Nat) : Endpoint :=
  ⟨Text.asciiLower scheme, Text.asciiLower host, port⟩

/-- The endpoint of a URL, with the port that its scheme implies. -/
def ofUrl (u : Url) : Except Failure Endpoint :=
  if u.scheme ≠ "http" ∧ u.scheme ≠ "https" then .error (.unsupportedScheme u.scheme)
  else match u.hostText? with
    | none => .error (.unsupportedScheme (u.scheme ++ " (missing host)"))
    | some host => .ok (make u.scheme host (u.knownPort?.getD (if u.scheme = "https" then 443 else 80)))

def ofUrlText (text : String) : Except Failure Endpoint := (Url.ofText text).mapError .invalidUrl >>= ofUrl

def toText (e : Endpoint) : String := e.scheme ++ "://" ++ e.host ++ ":" ++ Text.decimal e.port

/-- By scheme, then host, then port. -/
def precedes (a b : Endpoint) : Bool :=
  if a.scheme ≠ b.scheme then a.scheme < b.scheme
  else if a.host ≠ b.host then a.host < b.host
  else a.port ≤ b.port

/-- Endpoints in order, each of them once. -/
def sorted (endpoints : List Endpoint) : List Endpoint := (endpoints.mergeSort precedes).eraseDups

/-- The host without the brackets of an address. -/
def hostName (e : Endpoint) : String :=
  .ofList ((e.host.toList.dropWhile (· = '[')).reverse.dropWhile (· = ']')).reverse

def isSecure (e : Endpoint) : Bool := e.scheme = "https"

end Endpoint

/-- A connection and the settings it was opened with. -/
structure PoolEntry (κ : Type) where
  connection : κ
  bufferSize : Nat
  tlsContext : String
  deriving Repr, DecidableEq

/-- Idle connections by endpoint. -/
structure Pool (κ : Type) where
  entries : List (Endpoint × PoolEntry κ)
  deriving Repr, DecidableEq

namespace Pool
variable {κ : Type}

def empty : Pool κ := ⟨[]⟩

/-- The idle connection of an endpoint. -/
def find? (pool : Pool κ) (endpoint : Endpoint) : Option (PoolEntry κ) :=
  (pool.entries.find? (·.1 == endpoint)).map Prod.snd

def contains (pool : Pool κ) (endpoint : Endpoint) : Bool := pool.entries.any (·.1 == endpoint)

def without (pool : Pool κ) (endpoint : Endpoint) : Pool κ := ⟨pool.entries.filter (·.1 != endpoint)⟩

/-- What a change gives: an entry, the connections that have to be closed, and the pool after it. -/
structure Change (κ : Type) where
  entry : Option (PoolEntry κ)
  closing : List κ
  pool : Pool κ
  deriving Repr, DecidableEq

/-- Takes out the idle connection of an endpoint. One that is no longer healthy is closed instead. -/
def claim (pool : Pool κ) (healthy : κ → Bool) (endpoint : Endpoint) : Change κ :=
  match pool.find? endpoint with
  | none => ⟨none, [], pool⟩
  | some entry =>
    if healthy entry.connection then ⟨some entry, [], pool.without endpoint⟩
    else ⟨none, [entry.connection], pool.without endpoint⟩

/-- Makes a connection available; one that it displaces is closed. -/
def put (pool : Pool κ) (endpoint : Endpoint) (entry : PoolEntry κ) : Change κ :=
  ⟨none, ((pool.find? endpoint).map PoolEntry.connection).toList,
    ⟨(pool.without endpoint).entries ++ [(endpoint, entry)]⟩⟩

/-- Closes the idle connection of an endpoint, if there is one. -/
def remove (pool : Pool κ) (endpoint : Endpoint) : Change κ :=
  ⟨none, ((pool.find? endpoint).map PoolEntry.connection).toList, pool.without endpoint⟩

def clear (pool : Pool κ) : Change κ := ⟨none, pool.entries.map (·.2.connection), empty⟩

def size (pool : Pool κ) : Nat := pool.entries.length

def isEmpty (pool : Pool κ) : Bool := pool.entries.isEmpty

end Pool
end HttpExchange
