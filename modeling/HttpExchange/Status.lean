/-!
Status codes: those that have a name and a standard phrase, and all others by number.
-/
namespace HttpExchange

/-- The outcome that a response announces. -/
inductive Status
  | ok | created | accepted | noContent | notModified | badRequest | notFound | methodNotAllowed
  | internalServerError | notImplemented | serviceUnavailable
  | other (code : Nat)
  deriving Repr, DecidableEq

namespace Status

/-- The number on the wire. -/
def code : Status → Nat
  | ok => 200
  | created => 201
  | accepted => 202
  | noContent => 204
  | notModified => 304
  | badRequest => 400
  | notFound => 404
  | methodNotAllowed => 405
  | internalServerError => 500
  | notImplemented => 501
  | serviceUnavailable => 503
  | other code => code

/-- The statuses that have a name. -/
def named : List Status :=
  [ok, created, accepted, noContent, notModified, badRequest, notFound, methodNotAllowed,
    internalServerError, notImplemented, serviceUnavailable]

/-- The status of a number: the named one where there is one. -/
def ofCode (code : Nat) : Status := (named.find? (·.code = code)).getD (other code)

/-- The standard phrase, empty where there is no name. -/
def phrase : Status → String
  | ok => "OK"
  | created => "Created"
  | accepted => "Accepted"
  | noContent => "No Content"
  | notModified => "Not Modified"
  | badRequest => "Bad Request"
  | notFound => "Not Found"
  | methodNotAllowed => "Method Not Allowed"
  | internalServerError => "Internal Server Error"
  | notImplemented => "Not Implemented"
  | serviceUnavailable => "Service Unavailable"
  | other _ => ""

/-- The request was understood and carried out. -/
def isSuccess (s : Status) : Bool := 200 ≤ s.code && s.code < 300

/-- No body follows the headers, whatever they say. -/
def isBodiless (s : Status) : Bool := (100 ≤ s.code && s.code < 200) || s.code == 204 || s.code == 304

end Status
end HttpExchange
