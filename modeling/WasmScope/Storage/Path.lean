namespace WasmScope.Path

/-- The parts of a relative or rooted path, last first, after the given ones. A parent step removes
the part before it; at the root there is nothing to remove, and a relative path keeps it. -/
def reduce (rooted : Bool) (done : List String) : List String → List String
  | [] => done
  | part :: rest =>
    if part == "" || part == "." then reduce rooted done rest
    else if part == ".." then
      match done with
      | [] => reduce rooted (if rooted then [] else [".."]) rest
      | last :: before =>
        if last == ".." then reduce rooted (".." :: done) rest else reduce rooted before rest
    else reduce rooted (part :: done) rest

/-- The shortest path that means the same; that of the empty path is a dot. -/
def clean (path : String) : String :=
  let rooted := path.startsWith "/"
  let parts := (reduce rooted [] (path.splitOn "/")).reverse
  if rooted then "/" ++ "/".intercalate parts
  else if parts.isEmpty then "."
  else "/".intercalate parts

def parents (path : String) : List String :=
  let rooted := path.startsWith "/"
  let parts := (path.splitOn "/").filter (· != "")
  let inits := (List.range parts.length).reverse.map fun n => parts.take n
  inits.map fun init =>
    if rooted then "/" ++ "/".intercalate init else "/".intercalate init

end WasmScope.Path
