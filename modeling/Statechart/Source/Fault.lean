/-!
Why a source file cannot be read, with the texts of the operating system.
-/

namespace Statechart

inductive FileFault where
  | notFound
  | isDirectory
  | notDirectory
  | notUtf8
  | nulInName
  | unknownEntity
  deriving DecidableEq, Repr

def FileFault.message : FileFault → String
  | .notFound => "No such file or directory (os error 2)"
  | .isDirectory => "Is a directory (os error 21)"
  | .notDirectory => "Not a directory (os error 20)"
  | .notUtf8 => "stream did not contain valid UTF-8"
  | .nulInName => "file name contained an unexpected NUL byte"
  | .unknownEntity => "entity not found"

end Statechart
