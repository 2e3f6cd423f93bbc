import Statechart.Declaration.Basic
import Statechart.Declaration.Defect
import Statechart.Source.FileTree

/-!
Where declarations come from. A parser answers for the name of a source file
with its declaration.
-/

namespace Statechart

abbrev SourceParser := String → Except BuildError MachineDeclaration

namespace SourceParser

/-! Sources that were read beforehand. -/

def ofSources (sources : List (String × Except Json.Fault MachineDeclaration)) : SourceParser :=
  fun name =>
    match Entries.lookup? name sources with
    | none => .error (.unreadable name .unknownEntity)
    | some (.error fault) => .error (.invalidText name fault)
    | some (.ok declaration) => .ok declaration

/-! Files with declarations as JSON texts. Relative names are resolved against
the root when there is one. -/

def joinPath (root path : String) : String :=
  if root.isEmpty || root.toList.getLast? = some '/' then root ++ path
  else root ++ "/" ++ path

def resolvePath (root : Option String) (name : String) : String :=
  match root with
  | none => name
  | some root => if FileTree.isAbsolute name then name else joinPath root name

def ofFiles (tree : FileTree) (root : Option String) : SourceParser :=
  fun name =>
    let path := resolvePath root name
    match tree.readText path with
    | .error fault => .error (.unreadable path fault)
    | .ok text =>
        match MachineDeclaration.codec.parse text with
        | .error fault => .error (.invalidText path fault)
        | .ok declaration => .ok declaration

end SourceParser

end Statechart
