import IfaceGen.Disk.Node

/-!
# The file tree

`Tree` is the whole tree of files with a current directory. Its operations take a path name by
name: every name but the last has to lead to a directory, a dot stays where it is and two dots go
up. An operation that fails has a reason and, `createDirAll` apart, leaves the tree as it was.
-/

namespace IfaceGen

/-- All files and directories below the `root`, and the names that lead to the current directory. -/
structure Tree where
  root : Node
  current : List String

/-- What a path denotes before its last name is looked up. -/
inductive Place where
  /-- A directory that the path reaches by dots or as the root. -/
  | directory (names : List String)
  /-- An entry of a directory, which need not exist; `slash` if the path ends in a slash. -/
  | entry (dir : List String) (name : String) (slash : Bool)

namespace Tree

/-- Looks up a name in the directory that `dir` leads to. -/
def lookUp (tree : Tree) (dir : List String) (name : String) : Except IoFault (Option Node) :=
  if name.utf8ByteSize > Path.maxNameLength then .error .invalidFilename
  else .ok (tree.root.descend (dir ++ [name]))

/-- Goes through directories, starting from the one that `here` leads to. -/
def enter (tree : Tree) (here : List String) : List String → Except IoFault (List String)
  | [] => .ok here
  | name :: names =>
    if name = "." then tree.enter here names
    else if name = ".." then tree.enter here.dropLast names
    else match tree.lookUp here name with
      | .error fault => .error fault
      | .ok none => .error .notFound
      | .ok (some (.file _)) => .error .notADirectory
      | .ok (some (.dir _)) => tree.enter (here ++ [name]) names

/-- The place that a path denotes. -/
def locate (tree : Tree) (path : String) : Except IoFault Place :=
  match Path.fault? path with
  | some fault => .error fault
  | none =>
    if path.isEmpty then .error .notFound
    else
      let names := Path.names path
      match names.getLast? with
      | none => .ok (.directory [])
      | some last => do
        let dir ← tree.enter (if Path.isAbsolute path then [] else tree.current) names.dropLast
        if last = "." then return .directory dir
        else if last = ".." then return .directory dir.dropLast
        else return .entry dir last (Path.endsInSlash path)

/-- The node at a path (`Tree.locate`). A slash at the end asks for a directory. -/
def find (tree : Tree) (path : String) : Except IoFault Node := do
  match ← tree.locate path with
  | .directory names => (tree.root.descend names).elim (.error .notFound) .ok
  | .entry dir name slash =>
    match ← tree.lookUp dir name with
    | none => .error .notFound
    | some node => if slash && !node.isDir then .error .notADirectory else .ok node

/-- Whether there is anything at a path, that is, whether `Tree.find` succeeds. -/
def isPresent (tree : Tree) (path : String) : Bool :=
  (tree.find path).toBool

/-- Whether there is a directory at a path. -/
def isDir (tree : Tree) (path : String) : Bool :=
  match tree.find path with
  | .ok node => node.isDir
  | .error _ => false

/-- The text of the file at a path, which `Tree.find` finds. -/
def readText (tree : Tree) (path : String) : Except IoFault String := do
  match ← tree.find path with
  | .file content => content
  | .dir _ => .error .isADirectory

/-- The tree with another node at the place that `names` lead to. -/
def put (tree : Tree) (names : List String) (node : Node) : Tree :=
  { tree with root := Node.put node names tree.root }

/-- Writes a file, which may exist; its directory has to exist. -/
def writeText (tree : Tree) (path text : String) : Except IoFault Tree := do
  match ← tree.locate path with
  | .directory _ | .entry _ _ true => .error .isADirectory
  | .entry dir name false =>
    match ← tree.lookUp dir name with
    | some (.dir _) => .error .isADirectory
    | _ => .ok (tree.put (dir ++ [name]) (.file (.ok text)))

/-- Makes a directory, which may not exist; the one above it has to exist. -/
def makeDir (tree : Tree) (path : String) : Except IoFault Tree := do
  match ← tree.locate path with
  | .directory _ => .error .alreadyExists
  | .entry dir name _ =>
    match ← tree.lookUp dir name with
    | some _ => .error .alreadyExists
    | none => .ok (tree.put (dir ++ [name]) (.dir []))

/-- Makes a directory (`Tree.makeDir`) unless it exists. -/
def ensureDir (tree : Tree) (path : String) : Except IoFault Unit × Tree :=
  match tree.makeDir path with
  | .ok made => (.ok (), made)
  | .error fault => (if tree.isDir path then .ok () else .error fault, tree)

/-- Makes a directory unless it exists, and those above it (`Path.parent?`) where they are missing.
    Directories made before a failure stay. -/
def createDirAll (tree : Tree) (path : String) : Except IoFault Unit × Tree :=
  if path.isEmpty then (.ok (), tree)
  else match tree.makeDir path with
    | .error .notFound =>
      match h : Path.parent? path with
      | none => (.error .other, tree)
      | some parent =>
        have := Path.length_lt_of_parent? h
        match tree.createDirAll parent with
        | (.ok (), made) => made.ensureDir path
        | failed => failed
    | _ => tree.ensureDir path
termination_by path.length

end Tree

end IfaceGen
