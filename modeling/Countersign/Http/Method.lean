/-!
Request methods: tokens of the HTTP grammar, compared letter by letter, so `get` is not `GET`.
-/

namespace Countersign.Http

/-- The characters of a token. -/
def isTokenChar (c : Char) : Bool :=
  c.isAlphanum || "!#$%&'*+-.^_`|~".toList.contains c

/-- Whether a text is a token: at least one character, and token characters only. -/
def isToken (s : String) : Bool := !s.toList.isEmpty && s.toList.all isTokenChar

/-- A request method. -/
structure Method where
  token : String
  valid : isToken token = true
deriving DecidableEq

namespace Method

/-- Reads a method; `none` unless the text is a token. -/
def ofString? (s : String) : Option Method :=
  if valid : isToken s = true then some ⟨s, valid⟩ else none

def get : Method := ⟨"GET", by decide⟩
def head : Method := ⟨"HEAD", by decide⟩
def post : Method := ⟨"POST", by decide⟩
def put : Method := ⟨"PUT", by decide⟩
def patch : Method := ⟨"PATCH", by decide⟩
def delete : Method := ⟨"DELETE", by decide⟩
def options : Method := ⟨"OPTIONS", by decide⟩
def connect : Method := ⟨"CONNECT", by decide⟩

end Method

end Countersign.Http
