import CrudRoutes.Route.Kind
import CrudRoutes.Text.Category
import CrudRoutes.Text.Case
import CrudRoutes.Text.Blank

/-!
Deterministic names of routes and their artifacts.

A text is cut into words at every character that is neither a letter nor a digit, and before an
upper case letter that follows a lower case letter or a digit, or that follows an upper case
letter and is itself followed by a lower case one (`HTTPServer` gives `HTTP`, `Server`). Pascal
case capitalises the first letter of each word and joins them; kebab case lowers every word and
joins them with `-`.

An artifact is named `{kind}{Display}{Vversion}{Artifact}`, an event `kind-sub-path-display`,
and a path `/{base}/{sub}/v{version}` followed by the kind's suffix.
-/

namespace CrudRoutes.Naming

open Text

def flush (cur : List Char) (rest : List (List Char)) : List (List Char) :=
  if cur.isEmpty then rest else cur.reverse :: rest

def startsWord (prev c : Char) (next : List Char) : Bool :=
  isUpper c && (isLower prev || isDigit prev ||
    (isUpper prev && (match next with
      | n :: _ => isLower n
      | [] => false)))

def splitWords : List Char → List Char → List (List Char)
  | cur, [] => flush cur []
  | cur, c :: rest =>
    if !isWordChar c then flush cur (splitWords [] rest)
    else
      match cur with
      | p :: _ =>
        if startsWord p c rest then cur.reverse :: splitWords [c] rest
        else splitWords (c :: cur) rest
      | [] => splitWords [c] rest

def words (s : String) : List String :=
  (splitWords [] s.toList).map String.ofList

def capitalize (w : String) : String :=
  match w.toList with
  | [] => ""
  | c :: rest => String.ofList (toUpper c :: rest)

def pascal (s : String) : String :=
  String.join ((words s).map capitalize)

def kebab (s : String) : String :=
  "-".intercalate ((words s).map lowerAll)

def normalizeVersion (v : String) : String :=
  dropPrefix "V" (dropPrefix "v" (trimBlanks v))

def versionSuffix (v : String) : String :=
  let n := normalizeVersion v
  if n.isEmpty then "" else "V" ++ n

/-- The generated artifacts of a route. -/
inductive Artifact where
  | body
  | param
  | query
  | presenter
  | service
  | controller
  | gateway
  deriving Repr, BEq, DecidableEq

def Artifact.suffix : Artifact → String
  | .body => "Body"
  | .param => "Param"
  | .query => "Query"
  | .presenter => "Presenter"
  | .service => "Service"
  | .controller => "Controller"
  | .gateway => "Gateway"

def nameFor (kind display version : String) (a : Artifact) : String :=
  kind ++ pascal display ++ versionSuffix version ++ a.suffix

def eventName (kind subPath display : String) : String :=
  let sub := trimChar '/' subPath
  let parts := [kind] ++ (if sub.isEmpty then [] else [sub]) ++ [display]
  kebab ("/".intercalate parts)

def pathFor (basePath subPath version : String) (kind : Option RouteKind) : String :=
  let base := trimChar '/' basePath
  let sub := trimChar '/' subPath
  let v := normalizeVersion version
  let segments := (if base.isEmpty then [] else [base]) ++ (if sub.isEmpty then [] else [sub]) ++
    (if v.isEmpty then [] else ["v" ++ v]) ++ (kind.map RouteKind.pathSuffix).getD []
  "/" ++ "/".intercalate segments

end CrudRoutes.Naming
