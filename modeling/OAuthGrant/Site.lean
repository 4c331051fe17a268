import OAuthGrant.Http.Request
import OAuthGrant.Http.Response
import OAuthGrant.Settings
import OAuthGrant.Text.Percent

/-!
# The pages beside the token endpoint

An application tells about itself at `/` and about its health at `/health`. Both pages can only be
read. A path that would be a page with or without a slash at its end is redirected to it.
-/

namespace OAuthGrant.Site
open Http (Request Response)

def serviceName : String := "OAuth 2.0 Token Endpoint"

def version : String := "1.0.0"

def health (s : Settings) : Value :=
  .object [("status", .text "healthy"), ("service", .text serviceName), ("version", .text version),
    ("endpoints", .object [("token", .text s.tokenEndpointUri), ("health", .text "/health")])]

def information (s : Settings) : Value :=
  .object [("service", .text serviceName), ("version", .text version),
    ("supported_grant_types", .list (GrantType.all.map fun g => .text g.name)),
    ("endpoints", .object [
      ("token", .object [("url", .text s.tokenEndpointUri), ("method", .text "POST"),
        ("content_type", .text "application/x-www-form-urlencoded")]),
      ("health", .object [("url", .text "/health"), ("method", .text "GET")])])]

/-- Whether a path is that of a page; a line break at its end does not count. -/
def isAt (page path : String) : Bool := path == page || path == page ++ "\n"

def page? (s : Settings) (path : String) : Option Value :=
  if isAt "/health" path then some (health s)
  else if isAt "/" path then some (information s)
  else none

/-- The path with the slashes at its end removed, or with one if there is none. -/
def otherPath (path : String) : String :=
  if path.endsWith "/" then
    String.ofList (path.toList.reverse.dropWhile (· = '/')).reverse
  else path ++ "/"

/-- The characters of an address that need no escape. -/
def isAddressChar (c : Char) : Bool :=
  Text.isUnreserved c || ":/%#?=@[]!$&'()*+,;".toList.contains c

/-- The address of a path on the host that a request has been sent to. -/
def address (r : Request) (path : String) : String :=
  Text.escapeBytes isAddressChar
    ("http://" ++ (r.header? "host").getD "" ++ path ++
      if r.query = "" then "" else "?" ++ r.query)

/-- A response that says what is wrong. -/
def problem (status : Nat) (detail : String) (headers : List (String × String) := []) : Response :=
  .ofValue status headers (.object [("detail", .text detail)])

def respond (s : Settings) (r : Request) : Response :=
  match page? s r.path with
  | some page =>
    if r.method = "GET" then .ofValue 200 [] page
    else problem 405 "Method Not Allowed" [("allow", "GET")]
  | none =>
    if r.path ≠ "/" ∧ (page? s (otherPath r.path)).isSome then
      ⟨307, [("content-length", "0"), ("location", address r (otherPath r.path))], ""⟩
    else problem 404 "Not Found"

end OAuthGrant.Site
