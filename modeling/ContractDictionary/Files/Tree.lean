/-!
# Paths and trees of files

A path is a text whose parts are separated by slashes.  Empty parts and parts of one point
stand for nothing, so two texts may be one path; a part of two points leads to the directory
above.  Of a tree of files, the directories and files are known by the names that lead to them;
a step upwards is possible only from a directory.

Generation reads and writes files through a `Disk`, whatever holds the files.
-/

namespace ContractDictionary.Path

/-- The path leads from the root of the file system. -/
def isAbsolute (path : String) : Bool :=
  path.toList.head? = some '/'

def join (base path : String) : String :=
  if isAbsolute path then path
  else if base = "" then path
  else if base.toList.getLast? = some '/' then base ++ path
  else base ++ "/" ++ path

def joinAll (base : String) (parts : List String) : String :=
  parts.foldl join base

/-- The parts of a path as it is written, with those that stand for nothing. -/
def rawParts (cs : List Char) : List (List Char) :=
  match cs with
  | [] => [[]]
  | c :: rest =>
      match c, rawParts rest with
      | '/', parts => [] :: parts
      | c, part :: parts => (c :: part) :: parts
      | c, [] => [[c]]

def isVoid (part : List Char) : Bool :=
  part = [] || part = ['.']

def rootPart : String := "/"

/--
The parts of a path that lead somewhere.  An absolute path begins with the part for the root,
and a point in front of a relative path is kept.
-/
def parts (path : String) : List String :=
  let raw := rawParts path.toList
  let inner := (raw.drop 1).filter (!isVoid ·)
  let first := raw.headD []
  let all :=
    if isAbsolute path then ['/'] :: inner
    else if first = [] then inner
    else first :: inner
  all.map String.ofList

/-- The steps by which a path is followed, an empty one for staying where one is. -/
def steps (path : String) : List String :=
  let raw := (rawParts path.toList).map String.ofList
  if isAbsolute path then rootPart :: raw.drop 1 else raw

def parent? (path : String) : Option String :=
  let raw := (rawParts path.toList).reverse.dropWhile isVoid
  match raw with
  | [] => none
  | _ :: rest =>
      let kept := rest.dropWhile isVoid
      if kept.isEmpty && isAbsolute path then some rootPart
      else some (String.ofList (List.intercalate ['/'] kept.reverse))

end ContractDictionary.Path

/-! ## Trees of files -/

namespace ContractDictionary

/-- What a name in a tree stands for. -/
inductive FileEntry where
  | directory
  | file (content : ByteArray)

/-- The files and directories of a tree, the latest entry of a place being the one that counts. -/
structure FileTree where
  entries : List (List String × FileEntry)

namespace FileTree

def empty : FileTree := ⟨[]⟩

/-- The place is the top of the tree or the root of the file system around it. -/
def isTop (place : List String) : Bool :=
  place = [] || place = [Path.rootPart]

def entry? (tree : FileTree) (place : List String) : Option FileEntry :=
  if isTop place then some .directory else tree.entries.lookup place

def put (tree : FileTree) (place : List String) (entry : FileEntry) : FileTree :=
  ⟨(place, entry) :: tree.entries.filter (·.1 ≠ place)⟩

def hasDirectory (tree : FileTree) (place : List String) : Bool :=
  match tree.entry? place with
  | some .directory => true
  | _ => false

def stepTo (tree : FileTree) (place : List String) (part : String) : Option (List String) :=
  if !tree.hasDirectory place then none
  else if part = "" ∨ part = "." then some place
  else if part = ".." then some (if isTop place then place else place.dropLast)
  else some (place ++ [part])

/-- The place to which a path leads, if there are directories all the way before its end. -/
def resolve? (tree : FileTree) (path : String) : Option (List String) :=
  if path = "" then none else (Path.steps path).foldlM tree.stepTo []

def isDirectory (tree : FileTree) (path : String) : Bool :=
  match tree.resolve? path with
  | some place => tree.hasDirectory place
  | none => false

def content? (tree : FileTree) (path : String) : Option ByteArray :=
  match (tree.resolve? path).bind tree.entry? with
  | some (.file content) => some content
  | _ => none

def isFile (tree : FileTree) (path : String) : Bool :=
  (tree.content? path).isSome

def text? (tree : FileTree) (path : String) : Option String :=
  (tree.content? path).bind String.fromUTF8?

/-- The names of the files in the directory to which a path leads, none if there is no directory. -/
def fileNames (tree : FileTree) (path : String) : List String :=
  match tree.resolve? path with
  | none => []
  | some place =>
      if tree.hasDirectory place then
        tree.entries.filterMap fun
          | (other, .file _) =>
              match other.getLast? with
              | some name => if other.dropLast = place then some name else none
              | none => none
          | _ => none
      else []

/-- The names of the files in a directory; in a tree every directory can be listed. -/
def fileNames? (tree : FileTree) (path : String) : Option (List String) :=
  if tree.isDirectory path then some (tree.fileNames path) else none

/-- The paths and contents of the files below a place, with names joined by slashes. -/
def filesBelow (tree : FileTree) (place : List String) : List (String × ByteArray) :=
  tree.entries.filterMap fun
    | (other, .file content) =>
        if place.isPrefixOf other then
          some (String.intercalate "/" (other.drop place.length), content)
        else
          none
    | _ => none

/--
The tree with a directory at the end of a path.  Directories that the path goes through are
created where nothing stands; a file in the way makes this impossible.
-/
def createDirectories? (tree : FileTree) (path : String) : Option FileTree :=
  ((Path.steps path).foldlM
    (fun (state : FileTree × List String) part => do
      let (tree, place) := state
      let next ← tree.stepTo place part
      match tree.entry? next with
      | some .directory => return (tree, next)
      | some (.file _) => none
      | none => return (tree.put next .directory, next))
    (tree, [])).map Prod.fst

/-- The tree with a file of the given content at the end of a path in a directory. -/
def writeFile? (tree : FileTree) (path : String) (content : ByteArray) : Option FileTree := do
  let place ← tree.resolve? path
  match tree.entry? place with
  | some .directory => none
  | _ => return tree.put place (.file content)

end FileTree

structure FileReader (m : Type → Type) where
  isDirectory : String → m Bool
  isFile : String → m Bool
  /-- The names of the regular files in a directory; nothing if it cannot be listed. -/
  fileNames : String → m (Option (List String))
  /-- The text of a file; nothing if it cannot be read as text. -/
  readText : String → m (Option String)

structure Disk (m : Type → Type) extends FileReader m where
  /-- Create a directory with those above it, and tell whether it exists now. -/
  createDirectories : String → m Bool
  /-- Write a file in a directory, and tell whether it was written. -/
  writeText : String → String → m Bool

def FileTree.disk : Disk (StateM FileTree) where
  isDirectory path := return (← get).isDirectory path
  isFile path := return (← get).isFile path
  fileNames path := return (← get).fileNames? path
  readText path := return (← get).text? path
  createDirectories path := do
    match (← get).createDirectories? path with
    | some tree =>
        set tree
        return true
    | none => return false
  writeText path text := do
    match (← get).writeFile? path text.toUTF8 with
    | some tree =>
        set tree
        return true
    | none => return false

end ContractDictionary
