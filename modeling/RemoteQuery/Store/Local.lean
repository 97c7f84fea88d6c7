import RemoteQuery.Text.Search
import RemoteQuery.Text.Utf8
import RemoteQuery.World

namespace RemoteQuery.Store

/-! A store on the file system of the machine. -/

/-! ## File systems -/

/-- A file system, by the paths and the contents of its files. Directories are there as
far as files are in them. -/
structure FileSystem where
  files : List (List String × List UInt8)
deriving Repr, DecidableEq, Inhabited

inductive OpenError where
  | notFound
  | notDirectory
  | nameTooLong
  | nulByte
deriving Repr, DecidableEq

namespace OpenError

def message : OpenError → String
  | .notFound => "No such file or directory (os error 2)"
  | .notDirectory => "Not a directory (os error 20)"
  | .nameTooLong => "File name too long (os error 36)"
  | .nulByte => "file name contained an unexpected NUL byte"

def isFinal : OpenError → Bool
  | .notFound => true
  | _ => false

end OpenError

inductive Entry where
  | file (contents : List UInt8)
  | directory
deriving Repr, DecidableEq

namespace FileSystem

def entry? (system : FileSystem) (path : List String) : Option Entry :=
  match system.files.lookup path with
  | some contents => some (.file contents)
  | none =>
      if path.isEmpty || system.files.any fun file => path.isPrefixOf file.1 then some .directory
      else none

def greatestName : Nat := 255
def greatestPath : Nat := 4095

/-- Follow the components of a path from a directory. Two dots lead up, one dot and an
empty name lead nowhere else. -/
def walk (system : FileSystem) : (place : List String) → List String → Except OpenError Entry
  | place, [] =>
      match system.entry? place with
      | some entry => .ok entry
      | none => .error .notFound
  | place, component :: rest =>
      match system.entry? place with
      | none => .error .notFound
      | some (.file _) => .error .notDirectory
      | some .directory =>
          if component = "" ∨ component = "." then walk system place rest
          else if component = ".." then walk system place.dropLast rest
          else if greatestName < component.utf8ByteSize then .error .nameTooLong
          else walk system (place ++ [component]) rest

def components : (current : List Char) → List Char → List String
  | current, [] => [String.ofList current.reverse]
  | current, c :: rest =>
      if c = '/' then String.ofList current.reverse :: components [] rest
      else components (c :: current) rest

/-- Open a path. A path that does not begin at the root begins there all the same: the
program runs in the root. -/
def open? (system : FileSystem) (path : String) : Except OpenError Entry :=
  if path.toList.contains '\x00' then .error .nulByte
  else if path.isEmpty then .error .notFound
  else if greatestPath < path.utf8ByteSize then .error .nameTooLong
  else system.walk [] (components [] path.toList)

example : components [] "/a//b/".toList = ["", "a", "", "b", ""] := by decide +kernel

end FileSystem

/-! ## The store -/

structure Local where
  root : Option String := none
deriving Repr, DecidableEq, Inhabited

namespace Local

def withoutScheme (location : String) : String :=
  ((Text.after? "file://".toList location.toList).map String.ofList).getD location

/-- The path of a location. A path that does not begin at the root of the file system is
taken from the store's directory. -/
def path (store : Local) (location : String) : String :=
  let path := withoutScheme location
  match store.root with
  | some root =>
      if path.toList.head? = some '/' then path
      else if Text.endsWith root "/" then root ++ path
      else root ++ "/" ++ path
  | none => path

def directoryFailure : String := "Is a directory (os error 21)"

/-- Open the file at a location. A file that is not there will not appear. -/
def object (store : Local) (system : FileSystem) (location : String) : Outcome Download :=
  let path := store.path location
  match system.open? path with
  | .ok (.file contents) => .ok { pieces := [contents] }
  | .ok .directory => .ok { pieces := [], failure := some directoryFailure }
  | .error error =>
      let message := "cannot open " ++ path ++ ": " ++ error.message
      .error (if error.isFinal then .programming message else .operational message)

end Local

end RemoteQuery.Store
