import IfaceGen.Disk.Tree

/-!
# Access to files

The file operations that a run needs, in whatever monad they take place. `Tree.disk` carries them
out on a tree.
-/

namespace IfaceGen

/-- File operations in the monad `m`. -/
structure Disk (m : Type → Type) where
  readText : String → m (Except IoFault String)
  /-- Everything at and below a path. -/
  snapshot : String → m (Except IoFault Node)
  isPresent : String → m Bool
  createDirAll : String → m (Except IoFault Unit)
  writeText : String → String → m (Except IoFault Unit)

/-- The operations on a `Tree` that is the state. -/
def Tree.disk : Disk (StateM Tree) where
  readText path := do return (← get).readText path
  snapshot path := do return (← get).find path
  isPresent path := do return (← get).isPresent path
  createDirAll path := modifyGet (·.createDirAll path)
  writeText path text := modifyGet fun tree =>
    match tree.writeText path text with
    | .ok written => (.ok (), written)
    | .error fault => (.error fault, tree)

end IfaceGen
