import HttpExchange.ContentCoding
import HttpExchange.Failure
import HttpExchange.Regex.Search

/-!
Routes in the order of their registration: the first that matches a path gets it, so that a later
one never hides an earlier one. A request is answered by the service of its route, with stand-ins for a path
without a service and for a service that fails.
-/
namespace HttpExchange

/-- What a route matches: one path, or all paths that a regular expression matches. -/
inductive RoutePattern
  | literal (path : String)
  | regex (regex : Regex.Matcher)

/-- A pattern with the service behind it. -/
structure Route (α : Type) where
  pattern : RoutePattern
  service : α

/-- Answers a request, given what its path bound; `none` if it fails. -/
abbrev Service := Request → List String → Option Response

/-- Routes, the earliest first. -/
structure Router (α : Type) where
  routes : List (Route α)

namespace RoutePattern

/-- The settings of all routes: letter case does not count. -/
def flags : Regex.Flags := ⟨true, false, false, false, true, false, false⟩

/-- The text of an expression between the anchors of a path's ends. -/
def anchored (pattern : String) : String := "^(?:" ++ pattern ++ ")$"

/-- Reads a literal path, which starts with a slash, or an expression. -/
def ofText (pattern : String) (isRegex : Bool) : Except Failure RoutePattern :=
  if isRegex then
    match Regex.Matcher.compile flags (anchored pattern) with
    | .ok r => .ok (regex r)
    | .error fault => .error (.routePattern pattern (.unreadable fault))
  else if pattern.toList.head? = some '/' then .ok (literal pattern)
  else .error (.routePattern pattern .noSlash)

/-- The arguments that a path binds if the pattern matches it: what each group took, nothing for a
group that took no part. -/
def arguments? (path : String) : RoutePattern → Option (List String)
  | literal text => if text = path then some [] else none
  | regex r => (r.captures? path).map fun groups => groups.map (·.getD "")

end RoutePattern

namespace Router
variable {α : Type}

def empty : Router α := ⟨[]⟩

/-- Adds a route after all others; a pattern that cannot be read changes nothing. -/
def add (r : Router α) (pattern : String) (isRegex : Bool) (service : α) : Except Failure (Router α) :=
  (RoutePattern.ofText pattern isRegex).map fun p => ⟨r.routes ++ [⟨p, service⟩]⟩

/-- The service of the first route that matches, with its arguments. -/
def resolve (r : Router α) (path : String) : Option (α × List String) :=
  r.routes.findSome? fun route => (route.pattern.arguments? path).map fun args => (route.service, args)

def size (r : Router α) : Nat := r.routes.length

def isEmpty (r : Router α) : Bool := r.routes.isEmpty

/-- The response to a request. The service's own is packed if that is due. -/
def respond (packing : Packing) (router : Router Service) (request : Request) : Response :=
  match router.resolve request.decodedPath with
  | none => Response.notFound
  | some (service, arguments) =>
    match service request arguments with
    | none => Response.internalError
    | some response => ContentCoding.compress packing request response

end Router
end HttpExchange
