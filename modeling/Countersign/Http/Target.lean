/-!
Request targets: a path with a query, the same after scheme and authority, or an authority alone.
-/

namespace Countersign.Http

structure Target where
  scheme : Option String := none
  authority : Option String := none
  /-- Path and query as they are written; a fragment is not part of them. -/
  path : String
  query : Option String := none
deriving DecidableEq

namespace Target

/-- Cuts a text before the first character of a class. -/
def before (stops : Char → Bool) (s : List Char) : List Char × List Char :=
  (s.takeWhile (!stops ·), s.dropWhile (!stops ·))

/-- The path and the query at the start of a text. -/
def pathAndQuery (s : List Char) : String × Option String :=
  let (path, rest) := before (fun c => c == '?' || c == '#') s
  match rest with
  | '?' :: rest => (String.ofList path, some (String.ofList (before (· == '#') rest).1))
  | _ => (String.ofList path, none)

/-- The scheme before `://`, and what follows. -/
def scheme? (s : List Char) : Option (List Char × List Char) :=
  match before (· == ':') s with
  | (scheme, ':' :: '/' :: '/' :: rest) => some (scheme, rest)
  | _ => none

/-- A scheme as it is shown: the usual ones in lower case. -/
def schemeName (s : String) : String :=
  let lower := s.toLower
  if lower = "http" ∨ lower = "https" then lower else s

/-- Reads a target. -/
def ofText (s : String) : Target :=
  match s.toList with
  | '/' :: rest => let (path, query) := pathAndQuery ('/' :: rest); { path, query }
  | ['*'] => { path := "*" }
  | chars =>
    match scheme? chars with
    | none => { authority := some s, path := "" }
    | some (scheme, rest) =>
      let (authority, rest) := before (fun c => c == '/' || c == '?' || c == '#') rest
      let (path, query) := pathAndQuery rest
      { scheme := some (schemeName (String.ofList scheme)), authority := some (String.ofList authority),
        path, query }

/-- The path by which a target is routed: an empty one after an authority is the root. -/
def routedPath (t : Target) : String :=
  if t.path.isEmpty ∧ t.scheme.isSome then "/" else t.path

/-- A query as it stands behind a path. -/
def queryText (t : Target) : String :=
  match t.query with
  | none => ""
  | some q => "?" ++ q

/-- Path and query, which a signature covers. -/
def signedText (t : Target) : String :=
  let text := t.path ++ t.queryText
  if text.isEmpty ∧ t.scheme.isSome then "/" else text

/-- The whole target as it is shown. -/
def text (t : Target) : String :=
  (match t.scheme with
    | none => ""
    | some s => s ++ "://") ++ t.authority.getD "" ++ t.routedPath ++ t.queryText

/-- The target without the beginning of its path. -/
def without (t : Target) (beginning : String) : Target :=
  { t with path := String.ofList (t.path.toList.drop beginning.length) }

end Target

end Countersign.Http
