import SenderPolicy.Text.Cut
import SenderPolicy.Text.Quoted

/-! A folder of files without folders of its own. -/

namespace SenderPolicy.CommandLine

open Text

/-- Why a file cannot be written. -/
inductive WriteError where
  | noSuchFolder (path : String)
  | nameTooLong (path : String)
deriving DecidableEq, Repr

def WriteError.message : WriteError → String
  | noSuchFolder path => s!"[Errno 2] No such file or directory: {quoted path}"
  | nameTooLong path => s!"[Errno 36] File name too long: {quoted path}"

/-- The texts of files by their names. -/
abbrev Folder := List (String × String)

namespace Folder

/-- The greatest number of bytes of a file name. -/
def maxNameLength : Nat := 255

/-- The name of the file to which a path leads; steps that stay in the folder do not matter. -/
def fileName (path : String) : Except WriteError String :=
  let parts := pieces (· == '/') path.toList
  let name := String.ofList (parts.getLast?.getD [])
  let stays := fun (part : List Char) => part.isEmpty || part = ['.']
  if path.toList.head? = some '/' || !parts.dropLast.all stays then .error (.noSuchFolder path)
  else if maxNameLength < name.utf8ByteSize then .error (.nameTooLong path)
  else .ok name

/-- The folder with a file written; an older file of the name is replaced. -/
def write (folder : Folder) (path content : String) : Except WriteError Folder :=
  (fileName path).map fun name => folder.filter (·.1 != name) ++ [(name, content)]

end Folder

end SenderPolicy.CommandLine
