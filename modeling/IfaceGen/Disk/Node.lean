import IfaceGen.Disk.Path

/-!
# Files and directories

A directory is a finite tree. `Node.files` lists its files in walking order: depth first, the
entries of each directory sorted by name.
-/

namespace IfaceGen

/-- A file or a directory, whose entries have names of their own. -/
inductive Node where
  /-- A file with its text, or the reason why the text cannot be read. -/
  | file (content : Except IoFault String)
  | dir (entries : List (String × Node))

namespace Node

/-- Whether the node is a directory. -/
def isDir : Node → Bool
  | .dir _ => true
  | .file _ => false

/-- The node that `names` lead to. -/
def descend : List String → Node → Option Node
  | [], node => some node
  | name :: names, .dir entries => (entries.lookup name).bind (descend names)
  | _ :: _, .file _ => none

/-- Sets the entry called `name`. -/
def setEntry (name : String) (node : Node) : List (String × Node) → List (String × Node)
  | [] => [(name, node)]
  | (other, old) :: rest =>
    if other = name then (name, node) :: rest else (other, old) :: setEntry name node rest

/-- Puts `new` at the place that `names` lead to; directories on the way come into being. -/
def put (new : Node) : List String → Node → Node
  | [], _ => new
  | name :: names, .dir entries =>
    .dir (setEntry name (put new names ((entries.lookup name).getD (.dir []))) entries)
  | _ :: _, .file content => .file content

mutual
/-- The files of a tree with their paths, where the tree stands at `path`. -/
def files (path : String) : Node → List (String × Except IoFault String)
  | .file content => [(path, content)]
  | .dir entries => ((entriesFiles path entries).mergeSort fun a b => a.1 ≤ b.1).flatMap (·.2)

/-- The files below each entry of a directory. -/
def entriesFiles (path : String) :
    List (String × Node) → List (String × List (String × Except IoFault String))
  | [] => []
  | (name, node) :: entries =>
    (name, node.files (Path.join path name)) :: entriesFiles path entries
end

end Node

end IfaceGen
