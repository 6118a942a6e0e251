/-! # File trees

A tree of directories, files and symbolic links, and the way a path leads
through it. Each name of a path is looked up in the directory reached so far,
and links are followed wherever they stand. -/

namespace GridSetup

inductive Entry where
  | directory
  | file
  | link (target : String)
  deriving DecidableEq, Repr

/-- A place in a file tree: the names that lead there from the root. -/
abbrev Place := List String

/-- A file tree. The root is a directory without being listed. -/
structure FileTree where
  entries : List (Place × Entry) := []

/-- Why a path leads nowhere. -/
inductive Obstacle where
  | notFound
  /-- A file stands where a directory is needed. -/
  | notDirectory
  | tooManyLinks
  | nameTooLong
  | nulCharacter
  deriving DecidableEq, Repr

def Obstacle.message : Obstacle → String
  | .notFound => "No such file or directory (os error 2)"
  | .notDirectory => "Not a directory (os error 20)"
  | .tooManyLinks => "Too many levels of symbolic links (os error 40)"
  | .nameTooLong => "File name too long (os error 36)"
  | .nulCharacter => "file name contained an unexpected NUL byte"

namespace FileTree

def maxNameSize : Nat := 255

def maxPathSize : Nat := 4095

def maxLinks : Nat := 40

def isAbsolute (path : String) : Bool := path.startsWith "/"

/-- The names in a path. A slash at the end asks for a directory, as a final
dot does. -/
def names (path : String) : List String :=
  let named := (path.splitOn "/").filter fun name => name != ""
  if path.endsWith "/" then named ++ ["."] else named

/-- The path of `name` in the directory `base`: `name` itself if it is
absolute. -/
def join (base name : String) : String :=
  if isAbsolute name then name
  else if base = "" || base.endsWith "/" then base ++ name
  else base ++ "/" ++ name

/-- What stands at a place, links not followed. -/
def entry? (tree : FileTree) (place : Place) : Option Entry :=
  if place = [] then some .directory else tree.entries.lookup place

/-- Follows names from a place on. `links` more links may be followed. -/
def follow (tree : FileTree) (links : Nat) (place : Place) (path : List String) :
    Except Obstacle Place :=
  match path with
  | [] => .ok place
  | name :: rest =>
    if tree.entry? place ≠ some .directory then .error .notDirectory
    else if name = "." then tree.follow links place rest
    else if name = ".." then tree.follow links place.dropLast rest
    else if name.utf8ByteSize > maxNameSize then .error .nameTooLong
    else
      match tree.entry? (place ++ [name]) with
      | none => .error .notFound
      | some (.link target) =>
        if 0 < links then
          tree.follow (links - 1) (if isAbsolute target then [] else place)
            (names target ++ rest)
        else .error .tooManyLinks
      | some _ => tree.follow links (place ++ [name]) rest
termination_by (links, path.length)

/-- The place a path leads to. The path is read from the root. -/
def locate (tree : FileTree) (path : String) : Except Obstacle Place :=
  if path.toList.contains '\x00' then .error .nulCharacter
  else if path.utf8ByteSize > maxPathSize then .error .nameTooLong
  else if path = "" then .error .notFound
  else tree.follow maxLinks [] (names path)

/-- Puts an entry at a place where nothing stands yet. -/
def put (tree : FileTree) (place : Place) (entry : Entry) : FileTree :=
  if (tree.entry? place).isSome then tree
  else { entries := tree.entries ++ [(place, entry)] }

/-- Makes the directories that a sequence of names passes through. -/
def makeDirectories (tree : FileTree) (place : Place) : List String → FileTree
  | [] => tree
  | name :: rest =>
    if name = "." then tree.makeDirectories place rest
    else if name = ".." then tree.makeDirectories place.dropLast rest
    else (tree.put (place ++ [name]) .directory).makeDirectories (place ++ [name]) rest

/-- Adds a directory with all the directories above it. -/
def addDirectory (tree : FileTree) (path : String) : FileTree :=
  tree.makeDirectories [] (names path)

/-- Adds an entry to a directory that is there already. -/
def add (tree : FileTree) (path : String) (entry : Entry) : FileTree :=
  match (names path).getLast? with
  | none => tree
  | some name =>
    match tree.follow maxLinks [] (names path).dropLast with
    | .error _ => tree
    | .ok place =>
      if name = "." || name = ".." || tree.entry? place ≠ some .directory then tree
      else tree.put (place ++ [name]) entry

end FileTree
end GridSetup
