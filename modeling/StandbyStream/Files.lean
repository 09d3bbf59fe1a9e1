import StandbyStream.Frame
import StandbyStream.Report
import StandbyStream.Text.Cut

/-!
# Files

The files that settings name, as a function from paths to contents, and why a
file cannot be read. A tree of directories gives such a function.
-/

namespace StandbyStream

/-- Why a file cannot be read. -/
inductive FileFault where
  | missing
  | directory
  /-- Something on the way to the file is no directory. -/
  | notDirectory
  /-- The path or a name in it is longer than a file system takes. -/
  | nameTooLong
  /-- A null character in the path. -/
  | nullInName
  /-- The contents are wanted as a text and are none. -/
  | notText
  /-- Anything else, in the words of the system. -/
  | other (message : String)
  deriving DecidableEq, Repr

/-- The wording of a fault. -/
def FileFault.message : FileFault → String
  | .missing => "No such file or directory (os error 2)"
  | .directory => "Is a directory (os error 21)"
  | .notDirectory => "Not a directory (os error 20)"
  | .nameTooLong => "File name too long (os error 36)"
  | .nullInName => "file name contained an unexpected NUL byte"
  | .notText => "stream did not contain valid UTF-8"
  | .other message => message

instance : Explains FileFault where
  chain fault := [fault.message]

/-- What a program finds under a path. -/
abbrev Files := String → Except FileFault Bytes

namespace Files

/-- There are no files. -/
def none : Files :=
  fun _ => .error .missing

/-- The last part of a path. -/
def fileName (path : List Char) : List Char :=
  match Text.cutLast '/' path with
  | some (_, name) => name
  | Option.none => path

/-- What follows the last dot of a file name, unless the name begins with that dot. -/
def extension? (path : String) : Option (List Char) :=
  match Text.cutLast '.' (fileName path.toList) with
  | some ([], _) => Option.none
  | some (_, extension) => some extension
  | Option.none => Option.none

end Files

/-! ## Trees -/

/-- A tree of directories and files. -/
inductive FileTree where
  | file (contents : Bytes)
  | directory (entries : List (String × FileTree))

namespace FileTree

/-- The most bytes in a name of a path. -/
def longestName : Nat := 255

/-- The most bytes in a path. -/
def longestPath : Nat := 4095

/-- Follows one name of a path. A place in a tree is given with the directories above it, the
nearest first. -/
def follow (name : String) : List FileTree → Except FileFault (List FileTree)
  | [] => .error .missing
  | .file _ :: _ => .error .notDirectory
  | .directory entries :: above =>
    if name = "" ∨ name = "." then .ok (.directory entries :: above)
    else if name = ".." then .ok (if above.isEmpty then [.directory entries] else above)
    else if longestName < name.utf8ByteSize then .error .nameTooLong
    else
      match entries.lookup name with
      | some tree => .ok (tree :: .directory entries :: above)
      | none => .error .missing

/-- What stands at the end of a path. An absolute path begins at `root`, any other in the directory
`work` below it. -/
def read (root work : FileTree) (path : String) : Except FileFault Bytes :=
  if path.contains '\x00' then .error .nullInName
  else if path = "" then .error .missing
  else if longestPath < path.utf8ByteSize then .error .nameTooLong
  else
    let start := if path.startsWith "/" then [root] else [work, root]
    let names := (Text.splitAtEach '/' path.toList).map String.ofList
    match names.foldlM (fun place name => follow name place) start with
    | .error fault => .error fault
    | .ok (.file contents :: _) => .ok contents
    | .ok _ => .error .directory

end FileTree

end StandbyStream
