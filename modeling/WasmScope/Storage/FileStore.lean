import WasmScope.Storage.Path

namespace WasmScope

inductive FileError where
  | missing (message : String)
  | unreadable (message : String)
deriving DecidableEq, Repr

def FileError.message : FileError → String
  | missing message => message
  | unreadable message => message

structure FileStore where
  read : String → Except FileError (List UInt8)

namespace FileStore

/-- The path under which a store in memory keeps an entry; the directories around the root are the
root itself. -/
def key (path : String) : String :=
  let path := Path.clean path
  if path == "." || path == ".." then "/" else path

/-- Files and directories in memory. Every directory above an entry is there, and reading a
directory gives no bytes. -/
def inMemory (files : List (String × List UInt8)) (directories : List String) : FileStore where
  read path :=
    let path := key path
    let files := files.map fun (name, data) => (key name, data)
    let directories := directories.map key
    match files.lookup path with
    | some data => .ok data
    | none =>
      if path == "/" || directories.contains path
          || (directories ++ files.map Prod.fst).any fun entry => (Path.parents entry).contains path
      then .ok []
      else .error (.missing ("open " ++ path ++ ": file does not exist"))

/-- A host on which the given paths lead to files, the root is a directory and nothing else is
there. -/
def host (files : List (String × List UInt8)) : FileStore where
  read path :=
    match files.lookup path with
    | some data => .ok data
    | none =>
      if path == "/" then .error (.unreadable "read /: is a directory")
      else .error (.missing ("open " ++ path ++ ": no such file or directory"))

end FileStore

end WasmScope
