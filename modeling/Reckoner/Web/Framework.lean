import Reckoner.Json.Reader
import Reckoner.Text.Search
import Reckoner.Web.Exchange
import Reckoner.Web.CrossOrigin
import Reckoner.Web.Route

namespace Reckoner.Web

open Reckoner.Json Reckoner.Text

/-- Where a request is led: to an endpoint, or to a response of the framework's own. -/
inductive Place where
  | endpoint (e : Endpoint)
  | own (response : Response)

/-- What the web framework makes of requests by itself. -/
structure Framework where
  /-- The path in the address of a request, if the address can be taken apart. -/
  addressPath : Request → Option (List Char)
  place : List Route → Request → Place
  content : Request → Except ContentFault Content
  /-- The answer to a page of another origin that asks beforehand whether it may call. -/
  preflight : CrossOrigin → Request → Option Response
  /-- A response with what a page of another origin is told about reading it. -/
  expose : CrossOrigin → Request → Response → Response

/-- An address is taken apart at its marks. Brackets around a host come in pairs; what stands between them is not
looked at. -/
def addressPath (r : Request) : Option (List Char) :=
  let host := ((r.header? "host").getD "").toList
  let address := (host ++ r.path).filter fun c => c != '\t' && c != '\n' && c != '\r'
  let authority := address.takeWhile fun c => c != '/' && c != '?' && c != '#'
  if authority.contains '[' != authority.contains ']' then none
  else some ((address.drop authority.length).takeWhile fun c => c != '?' && c != '#')

/-- The pages about the service that the framework has of its own, with their kinds of content. -/
def ownPages : List (String × String) :=
  [("/openapi.json", "application/json"), ("/docs", "text/html; charset=utf-8"),
    ("/docs/oauth2-redirect", "text/html; charset=utf-8"), ("/redoc", "text/html; charset=utf-8")]

def ownPage? (path : List Char) : Option String :=
  (ownPages.find? fun p => path = p.1.toList || path = p.1.toList ++ ['\n']).map (·.2)

/-- The path without slashes at its end, if it has one there and is more than slashes. -/
def shortened? (path : List Char) : Option (List Char) :=
  if path.getLast? = some '/' && path != ['/'] then some (dropEndWhile (· == '/') path) else none

/-- Characters of an address that a redirection leaves as they are. -/
def isAddressSafe (c : Char) : Bool :=
  isUnreserved c || ":/%#?=@[]!$&'()*+,;".toList.contains c

def redirection (r : Request) (path : List Char) : Response :=
  let query := if r.rawQuery.isEmpty then [] else '?' :: r.rawQuery
  let address := "http://".toList ++ ((r.header? "host").getD "").toList ++ path ++ query
  let location := address.flatMap fun c => if isAddressSafe c then [c] else escapeChar c
  ⟨307, [("location", String.ofList location)], .empty⟩

def wrongMethod (allowed : String) : Response :=
  .detail 405 [("allow", allowed)] "Method Not Allowed"

/-- Where no route takes a request. A path that is known under another method is refused with the method of its
first route; a slash too many is redirected. -/
def elsewhere (routes : List Route) (r : Request) : Response :=
  let isKnown (path : List Char) := (ownPage? path).isSome || routes.any (·.accepting path)
  match routes.find? (·.accepting r.path) with
  | some route => wrongMethod route.method
  | none =>
    match (shortened? r.path).filter isKnown with
    | some shorter => redirection r shorter
    | none => .detail 404 [] "Not Found"

def findPlace (routes : List Route) (r : Request) : Place :=
  match ownPage? r.path with
  | some kind =>
    .own (if r.method = "GET" || r.method = "HEAD" then ⟨200, [], .page kind⟩ else wrongMethod "GET, HEAD")
  | none =>
    match routes.findSome? fun route => if route.method = r.method then route.accepts r.path else none with
    | some e => .endpoint e
    | none => .own (elsewhere routes r)

/-- Is a kind of content JSON, or a form of it? -/
def isJsonKind (kind : String) : Bool :=
  let name := (lower (trim (String.ofList (cutAt (· == ';') kind.toList).1))).toList
  match splitAtAll (· == '/') name with
  | [main, sub] =>
    main = "application".toList && (sub = "json".toList || "+json".toList.isSuffixOf sub)
  | _ => false

/-- Only a body that says it is JSON is read, with containers nested no deeper than so many levels; without a body
everything in it is missing. -/
def readContent (depth : Nat) (r : Request) : Except ContentFault Content :=
  if r.body.isEmpty then .ok .missing
  else if ((r.header? "content-type").map isJsonKind).getD false then
    match readBytes depth r.body with
    | .ok v => .ok (.value v)
    | .error (.malformed position) => .error (.malformed position)
    | .error _ => .error .unreadable
  else .ok .unread

/-- The framework as it usually is. -/
def Framework.usual (depth : Nat) : Framework where
  addressPath := Web.addressPath
  place := findPlace
  content := readContent depth
  preflight c r := do
    let origin ← r.header? "origin"
    let method ← CrossOrigin.asked? r
    return c.preflight origin method
  expose c r response :=
    match r.header? "origin" with
    | some origin => c.decorate origin (r.header? "cookie").isSome response
    | none => response

example : (addressPath ⟨"GET", "/health".toList, [], [("Host", "[")], []⟩).isNone = true := by decide +kernel

end Reckoner.Web
