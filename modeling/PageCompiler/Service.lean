/-
  The compiler as a service: one request gives one reply. A health check answers at `/health`, and
  `/render/page` compiles a page of the document in the request.
-/
import PageCompiler.Compilation.PageModule
import PageCompiler.Service.Body
import PageCompiler.Service.PageRequest
import PageCompiler.Service.Route

namespace PageCompiler.Service

structure Request where
  method : Text
  url : Text
  body : Body

/-- Why a request does not reach the service, or its reply does not come back. -/
inductive RequestFault where
  | url (fault : UrlFault)
  /-- A host that is not ASCII. -/
  | hostUnwritable (host : Text)
  | schemeUnknown (scheme : Text)
  /-- A redirection to what is no URL. -/
  | redirection (fault : UrlFault)
deriving DecidableEq, Repr

/-- The place of the first row of code points that are not ASCII, and the row. -/
def foreignRow (text : Text) : Nat × Text :=
  let (before, rest) := text.span (·.isAscii)
  (before.length, rest.takeWhile (!·.isAscii))

def unwritableMessage (text : Text) : Text :=
  let reason : Text := match foreignRow text with
    | (place, [point]) => " '" ++ Text.numbered point ++ "' in position " ++ Text.ofNat place
    | (place, row) =>
        "s in position " ++ Text.ofNat place ++ "-" ++ Text.ofNat (place + row.length - 1)
  "'ascii' codec can't encode character" ++ reason ++ ": ordinal not in range(128)"

def RequestFault.message : RequestFault → Text
  | .url fault => fault.message
  | .hostUnwritable host => unwritableMessage host
  | .schemeUnknown scheme => Text.quoted scheme
  | .redirection fault => "Invalid URL in location header: " ++ fault.message ++ "."

inductive Reply where
  | healthy
  | code (text : Text)
  | page (text : Text)
  | unreadable
  | notFound
  | methodNotAllowed
  | invalid (issues : List Issue)
  | failed (message : Text)
  | internalError

namespace Reply

def status : Reply → Nat
  | .healthy | .code _ | .page _ => 200
  | .unreadable => 400
  | .notFound => 404
  | .methodNotAllowed => 405
  | .invalid _ | .failed _ => 422
  | .internalError => 500

/-- What a reply says that refuses a request without a list of issues. -/
def detail? : Reply → Option Text
  | .unreadable => some "There was an error parsing the body"
  | .notFound => some "Not Found"
  | .methodNotAllowed => some "Method Not Allowed"
  | .failed message => some message
  | _ => none

end Reply

/-- A reply, what is logged on the way, and whether only the head of the reply is sent. -/
structure Response where
  reply : Reply
  log : List Text := []
  headOnly : Bool := false

/-- Whether a reply can be sent: what it repeats of the request can be, and its texts hold characters
    only. -/
def Reply.isSendable : Reply → Bool
  | .code text | .failed text => text.isScalar
  | .invalid issues => issues.all (·.input.isSendable)
  | _ => true

def failureLine (pageId message : Text) : Text := "Page " ++ pageId ++ ": Failed - " ++ message

def compileRequest (request : PageRequest) : Response :=
  let outcome := compilePage request.document request.pageId request.config Catalog.builtin
  let log := outcome.warnings.map Warning.message
  match outcome.result with
  | .ok code => { reply := .code code, log }
  | .error .endless => { reply := .internalError, log }
  | .error failure =>
      { reply := .failed failure.message
        log := log ++ [failureLine request.pageId failure.message] }

/-- Compiles the page that a request asks for. Issues are placed below `body`, apart from a text
    that cannot be read at all. -/
def renderPage (body : Body) : Response :=
  match body.read with
  | .error .absent => { reply := .invalid [⟨.missing, [.key "body"], .null⟩] }
  | .error .malformed => { reply := .invalid [⟨.textUnreadable, [], .null⟩] }
  | .error .unreadable => { reply := .unreadable }
  | .ok value =>
      match (PageRequest.check value).within (.key "body") with
      | .rejected issues => { reply := .invalid issues }
      | .aborted _ => { reply := .internalError }
      | .accepted request => compileRequest request

/-- The page for the users of the service. -/
def guidePage : Text :=
  "\n    <!DOCTYPE html>\n    <html>\n    <body>GET /health, POST /render/page</body>\n    </html>\n"

def answer (route : Route) (body : Body) : Response :=
  match route with
  | .health => { reply := .healthy }
  | .renderPage => renderPage body
  | .guide => { reply := .page guidePage }
  | .outline => { reply := .page "\x7b\x7d" }

/-- The response of a route. A reply that cannot be sent is an error of the service. -/
def respondAt (route : Option Route) (method : Text) (body : Body) : Response :=
  let response : Response :=
    match route with
    | none => { reply := .notFound }
    | some route =>
        if method ∈ route.methods then answer route body else { reply := .methodNotAllowed }
  { response with
    reply := if response.reply.isSendable then response.reply else .internalError
    headOnly := method = "HEAD" }

/-- The schemes by which the service is reached. -/
def schemes : List Text := ["http", "https", "ws", "wss"]

/-- Refuses an absolute URL that leads nowhere. -/
def checkReach (url : Url) (route : Option Route) : Except RequestFault Unit :=
  if !url.isAbsolute then .ok ()
  else if !url.host.text.all (·.isAscii) then .error (.hostUnwritable url.host.text)
  else if url.scheme ∉ schemes then .error (.schemeUnknown url.scheme)
  else if url.endsInSlash && route.isSome then
    match url.host.redirection with
    | .ok _ => .ok ()
    | .error fault => .error (.redirection fault)
  else .ok ()

def respond (request : Request) : Except RequestFault Response :=
  match Url.parse request.url with
  | .error fault => .error (.url fault)
  | .ok url =>
      let route := routeOf? url
      match checkReach url route with
      | .error fault => .error fault
      | .ok () => .ok (respondAt route (Text.upper request.method) request.body)

end PageCompiler.Service
