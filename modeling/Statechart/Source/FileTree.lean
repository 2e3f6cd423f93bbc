import Statechart.Dictionary
import Statechart.Source.Fault

/-!
A tree of files held as data, and reading a text file from it by its path.
Relative paths start from the directory that holds the tree; nothing else is
known of the file system, so every directory outside it is empty.
-/

namespace Statechart

inductive FileNode where
  | file (content : ByteArray)
  | directory (entries : List (String × FileNode))

/-! The entries of the working directory. -/

structure FileTree where
  entries : List (String × FileNode) := []

namespace FileTree

def split (path : String) : List String :=
  path.splitOn "/"

/-! Putting a node into the tree makes the directories that lead to it. An
empty directory leaves one that is already there as it is. -/

def place (node : FileNode) : List String → List (String × FileNode) → List (String × FileNode)
  | [], entries => entries
  | [name], entries =>
      match node, Entries.lookup? name entries with
      | .directory [], some (.directory _) => entries
      | _, _ => Entries.insert name node entries
  | name :: path, entries =>
      let inner :=
        match Entries.lookup? name entries with
        | some (.directory inner) => inner
        | _ => []
      Entries.insert name (.directory (place node path inner)) entries

def isName (component : String) : Bool :=
  component ≠ "" && component ≠ "."

def insert (path : String) (node : FileNode) (tree : FileTree) : FileTree :=
  ⟨place node ((split path).filter isName) tree.entries⟩

/-! Walking a path goes from directory to directory, the current one first in
`above`; the way up stops at the top. A component behind a file is refused,
even an empty one. -/

def walk : List String → List (List (String × FileNode)) → Except FileFault ByteArray
  | [], _ => .error .isDirectory
  | component :: path, above =>
      if component = "" || component = "." then walk path above
      else if component = ".." then
        match above with
        | _ :: parent :: rest => walk path (parent :: rest)
        | above => walk path above
      else
        match Entries.lookup? component (above.headD []) with
        | none => .error .notFound
        | some (.directory entries) => walk path (entries :: above)
        | some (.file content) => if path.isEmpty then .ok content else .error .notDirectory

def isAbsolute (path : String) : Bool :=
  path.toList.head? = some '/'

def content (tree : FileTree) (path : String) : Except FileFault ByteArray :=
  if path.contains '\x00' then .error .nulInName
  else if path.isEmpty then .error .notFound
  else if isAbsolute path then walk (split path) [[]]
  else walk (split path) [tree.entries, []]

def readText (tree : FileTree) (path : String) : Except FileFault String := do
  match String.fromUTF8? (← tree.content path) with
  | some text => return text
  | none => .error .notUtf8

end FileTree

end Statechart
