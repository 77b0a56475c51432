/-!
Slash-separated file paths.

`clean` gives the shortest path naming the same file by lexical rules alone: repeated slashes
become one, `.` elements go, and `..` removes the element before it (at the root it is dropped,
in a relative path with nothing left to remove it stays). The empty path is `.`. `dir` is the
clean path up to the last slash, `base` the last element, and `join` the clean path of the
non-empty parts joined by slashes.
-/

namespace CrudRoutes.Path

def cleanElements (rooted : Bool) : List String → List String → List String
  | [], acc => acc.reverse
  | e :: rest, acc =>
    if e.isEmpty || e == "." then cleanElements rooted rest acc
    else if e == ".." then
      match acc with
      | top :: below => if top == ".." then cleanElements rooted rest (".." :: acc)
        else cleanElements rooted rest below
      | [] => if rooted then cleanElements rooted rest [] else cleanElements rooted rest [".."]
    else cleanElements rooted rest (e :: acc)

/-- The shortest path naming the same file by lexical rules. -/
def clean (p : String) : String :=
  let rooted := p.startsWith "/"
  let body := "/".intercalate (cleanElements rooted (p.splitOn "/") [])
  if rooted then "/" ++ body
  else if body.isEmpty then "."
  else body

/-- The clean path of everything up to the last slash; `.` without a slash. -/
def dir (p : String) : String :=
  let cs := p.toList
  let upTo := (cs.reverse.dropWhile (· != '/')).reverse
  clean (String.ofList upTo)

/-- The last element of a path, trailing slashes aside; `.` for the empty path and `/` for the
root. -/
def base (p : String) : String :=
  if p.isEmpty then "." else
  let cs := (p.toList.reverse.dropWhile (· == '/')).reverse
  if cs.isEmpty then "/" else
  String.ofList (cs.reverse.takeWhile (· != '/')).reverse

/-- The clean path of the non-empty parts joined by slashes; empty when all parts are. -/
def join (parts : List String) : String :=
  match parts.filter (!·.isEmpty) with
  | [] => ""
  | ps => clean ("/".intercalate ps)

def resolve (cwd p : String) : String :=
  if p.startsWith "/" then clean p else clean (cwd ++ "/" ++ p)

def elements (p : String) : List String :=
  (p.splitOn "/").filter (!·.isEmpty)

end CrudRoutes.Path
