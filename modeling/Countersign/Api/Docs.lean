import Countersign.Api.Description
import Countersign.Service
import Countersign.Text.Percent

/-!
The endpoints of the documentation: its entry, its pages, and the description of the interface.

Which pages there are, and of what kind, is known here; their contents are published apart from the service.
-/

namespace Countersign.Service

open Http (Response)

/-- The page that stands for the documentation as a whole. -/
def frontPage : String := "index.html"

/-- The pages with their media types. -/
def pages : List (String × String) := [
  ("favicon-16x16.png", "image/png"),
  ("favicon-32x32.png", "image/png"),
  ("index.css", "text/css"),
  (frontPage, "text/html"),
  ("oauth2-redirect.html", "text/html"),
  ("swagger-initializer.js", "text/javascript"),
  ("swagger-ui-bundle.js", "text/javascript"),
  ("swagger-ui-bundle.js.map", "application/json"),
  ("swagger-ui-es-bundle-core.js", "text/javascript"),
  ("swagger-ui-es-bundle-core.js.map", "application/json"),
  ("swagger-ui-es-bundle.js", "text/javascript"),
  ("swagger-ui-es-bundle.js.map", "application/json"),
  ("swagger-ui-standalone-preset.js", "text/javascript"),
  ("swagger-ui-standalone-preset.js.map", "application/json"),
  ("swagger-ui.css", "text/css"),
  ("swagger-ui.css.map", "application/json"),
  ("swagger-ui.js", "text/javascript"),
  ("swagger-ui.js.map", "application/json")]

/-- The entry leads to the front page. -/
def docsEntry : Response := { status := 303, headers := [.ofText "location" "/docs/"] }

/-- A page by its name in a path; no name, and a slash alone, mean the front page. -/
def docsPage (segment : String) : Response :=
  match Text.Percent.decode? segment with
  | none => .plain 400 "Invalid URL: Invalid UTF-8 in \x60rest\x60"
  | some name =>
    match pages.lookup (if name = "" ∨ name = "/" then frontPage else name) with
    | none => .empty 404
    | some mediaType => { status := 200, headers := [.ofText "content-type" mediaType] }

/-- The description of the interface. -/
def interfaceDocument : Response := .json 200 Api.document

/-- The answer where the documentation is not served. -/
def docsDisabled : Response := ApiError.response ⟨403, "API documentation is disabled"⟩

end Countersign.Service
