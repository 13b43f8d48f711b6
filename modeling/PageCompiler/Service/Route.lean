/-
  The resources of the service and how a request names them.

  Escapes in a path are replaced twice, after its dot segments are resolved. A path with slashes at its
  end is redirected to the one without them. A path may also end in a line feed.
-/
import PageCompiler.Service.Url
import PageCompiler.Text.Escapes

namespace PageCompiler.Service

inductive Route where
  | health
  | renderPage
  /-- A page that describes the service to its users. -/
  | guide
  /-- The description of the service as data. -/
  | outline
deriving DecidableEq, Repr

def Route.methods : Route → List Text
  | .health => ["GET"]
  | .renderPage => ["POST"]
  | .guide | .outline => ["GET", "HEAD"]

def routes : List (Text × Route) := [
  ("/health", .health), ("/render/page", .renderPage), ("/openapi.json", .outline),
  ("/docs", .guide), ("/docs/oauth2-redirect", .guide), ("/redoc", .guide)]

/-- A text without the marks at its end. -/
def dropTrailing (mark : CodePoint) (text : Text) : Text :=
  (text.reverse.dropWhile (· = mark)).reverse

/-- A text without a line feed at its end. -/
def dropLineFeed (text : Text) : Text :=
  if text.getLast? = some (.char '\n') then text.dropLast else text

/-- The path that is looked up. -/
def Url.plainPath (url : Url) : Text := Text.unescape (Text.unescape url.rootedPath)

/-- Whether slashes at the end of the path are dropped by a redirection. -/
def Url.endsInSlash (url : Url) : Bool := url.plainPath.getLast? = some (.char '/')

def routeOf? (url : Url) : Option Route :=
  routes.lookup (dropLineFeed (dropTrailing '/' url.plainPath))

end PageCompiler.Service
