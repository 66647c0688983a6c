import IfaceGen.Diagnostic
import IfaceGen.Text.Split

/-!
# Paths

Paths are texts with `/` between their names. These functions look at the text only; what a path
leads to is the business of `IfaceGen.Disk.Tree`.

Main definitions:

* `join`        a path below another one
* `parent?`     the path without its last name
* `extension?`  what follows the last dot of the last name
* `names`       the names on the way
* `fault?`      why no system takes the path, wherever it leads
-/

namespace IfaceGen.Path

/-- The most bytes that a path may have. -/
def maxLength : Nat := 4095

/-- The most bytes that a name may have. -/
def maxNameLength : Nat := 255

/-- Why a path is refused before it is looked at name by name: a null character, or more than
    `maxLength` bytes. -/
def fault? (path : String) : Option IoFault :=
  if path.toList.contains '\x00' then some .invalidInput
  else if path.utf8ByteSize > maxLength then some .invalidFilename
  else none

/-- The path `path` as seen from `dir`. A path that starts at the root stays as it is. -/
def join (dir path : String) : String :=
  if path.toList.head? = some '/' || dir.isEmpty then path
  else if dir.toList.getLast? = some '/' then dir ++ path
  else dir ++ "/" ++ path

/-- The names on a path. Slashes that follow one another count as one. -/
def names (path : String) : List String :=
  ((Text.split '/' path.toList).filter (!·.isEmpty)).map String.ofList

/-- Whether a path starts at the root. -/
def isAbsolute (path : String) : Bool :=
  path.toList.head? = some '/'

/-- Whether a path ends in a slash. -/
def endsInSlash (path : String) : Bool :=
  path.toList.getLast? = some '/'

/-- Drops slashes and single dots from the end of a path, which is written backwards. -/
def trimBackwards : List Char → List Char
  | '/' :: rest => trimBackwards rest
  | '.' :: '/' :: rest => trimBackwards rest
  | ['.'] => []
  | path => path

/-- The start of a path that belongs to no name: the root `/`, or a dot for the current
    directory. -/
def splitStart : List Char → List Char × List Char
  | '/' :: rest => (['/'], rest)
  | ['.'] => (['.'], [])
  | '.' :: '/' :: rest => (['.'], '/' :: rest)
  | path => ([], path)

/-- The path without its last name. Neither the root `/` nor the empty path has a parent. -/
def parent? (path : String) : Option String :=
  let (start, body) := splitStart path.toList
  match trimBackwards body.reverse with
  | [] => if start = ['.'] then some "" else none
  | _ :: rest => some (String.ofList (start ++ (trimBackwards (rest.dropWhile (· ≠ '/'))).reverse))

/-- What follows the last dot of the last name, unless the name starts with that dot. -/
def extension? (path : String) : Option String :=
  let name := (trimBackwards (splitStart path.toList).2.reverse).takeWhile (· ≠ '/')
  match name.dropWhile (· ≠ '.') with
  | '.' :: stem =>
    if stem.isEmpty || name = ['.', '.'] then none
    else some (String.ofList (name.takeWhile (· ≠ '.')).reverse)
  | _ => none

theorem length_trimBackwards_le (path : List Char) : (trimBackwards path).length ≤ path.length := by
  fun_induction trimBackwards path with
  | case1 rest ih => simp only [List.length_cons]; omega
  | case2 rest ih => simp only [List.length_cons]; omega
  | case3 => simp
  | case4 => exact Nat.le_refl _

theorem length_splitStart (path : List Char) :
    (splitStart path).1.length + (splitStart path).2.length = path.length := by
  fun_cases splitStart path <;> simp only [List.length_cons, List.length_nil] <;> omega

/-- A parent is shorter than its path. -/
theorem length_lt_of_parent? {path parent : String} (h : parent? path = some parent) :
    parent.length < path.length := by
  have hs := length_splitStart path.toList
  simp only [parent?] at h
  have hb := length_trimBackwards_le (splitStart path.toList).2.reverse
  split at h
  · split at h
    · rename_i hdot
      simp only [Option.some.injEq] at h
      subst h
      simp only [hdot, List.length_cons, List.length_nil, String.length_toList] at hs
      simp only [String.length_empty]
      omega
    · simp at h
  · rename_i first rest heq
    simp only [Option.some.injEq] at h
    subst h
    have hd := (List.dropWhile_sublist (fun c => decide (c ≠ '/')) (l := rest)).length_le
    have ht := length_trimBackwards_le (rest.dropWhile fun c => decide (c ≠ '/'))
    simp only [heq, List.length_cons, List.length_reverse] at hb
    simp only [String.length_ofList, List.length_append, List.length_reverse]
    simp only [String.length_toList] at hs
    omega

end IfaceGen.Path
