import IfaceGen.Types.Basic

/-!
# Import tables

The packages a file refers to, each with the alias under which the file knows it. A package gets
its alias when it is registered first: its own name if that is free, otherwise the name followed by
the least positive number that makes it free. An alias never changes.
-/

namespace IfaceGen

/-- A registered package with the alias it was given. -/
structure ImportEntry where
  path : String
  name : String
  /-- The name under which the file knows the package. -/
  localName : String
deriving DecidableEq, Repr

/-- The registered packages, in the order of their registration, with two indexes: one finds the
    position of a package by its path, the other tells which aliases are in use. -/
structure ImportTable where
  entries : List ImportEntry
  /-- The position in `entries` of each registered path. -/
  positions : List (String × Nat)
  /-- The aliases in use. -/
  aliases : List String
deriving DecidableEq, Repr

namespace ImportTable

/-- The table without packages. -/
def empty : ImportTable := ⟨[], [], []⟩

/-- The alias of the package with the given path, found through `positions`. -/
def alias? (table : ImportTable) (path : String) : Option String :=
  (table.positions.lookup path).bind fun position => table.entries[position]?.map (·.localName)

/-- The first free of the numbered forms of a name. Of `taken.length + 1` different forms at least
    one is free. -/
def numberedAlias (taken : List String) (name : String) : String :=
  let forms := (List.range (taken.length + 1)).map fun k => name ++ Nat.repr (k + 1)
  (forms.find? (!taken.contains ·)).getD name

/-- The alias a new package of the given name gets: the name itself, or one from `numberedAlias` if
    it is in use. -/
def freshAlias (table : ImportTable) (name : String) : String :=
  if table.aliases.contains name then numberedAlias table.aliases name else name

/-- Registers a package; a package that is known by its path stays as it is. Its alias can be asked
    for afterwards (`alias?`). -/
def register (table : ImportTable) (ref : PackageRef) : ImportTable :=
  match table.positions.lookup ref.path with
  | some _ => table
  | none =>
    let localName := table.freshAlias ref.name
    { entries := table.entries ++ [⟨ref.path, ref.name, localName⟩]
      positions := (ref.path, table.entries.length) :: table.positions
      aliases := localName :: table.aliases }

/-- Registers packages in order, by `ImportTable.register`. -/
def registerAll (table : ImportTable) (refs : List PackageRef) : ImportTable :=
  refs.foldl register table

/-- The table as a `Qualifier`: registered packages are known by their alias, whatever name the
    reference has. -/
def qualify (table : ImportTable) (ref : PackageRef) : Option String :=
  table.alias? ref.path

end ImportTable

end IfaceGen
