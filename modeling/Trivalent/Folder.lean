import Trivalent.Error

/-!
Folders that files may be written to, as far as writing can fail. A folder is created before every
file. The name of a file is a path that is walked from the folder.
-/

set_option autoImplicit false

namespace Trivalent

/-- What stands where a folder should be: nothing that hinders it, a file, or a file in place of its
parent. -/
inductive Site where
  | free
  | file
  | underFile
  deriving DecidableEq, Inhabited

structure Folder where
  path : String
  site : Site := .free
  deriving DecidableEq, Inhabited

/-- Where a file is: in the folder that is so many steps above a given one, under a plain name. -/
structure FilePlace where
  up : Nat := 0
  name : String
  deriving DecidableEq, Inhabited

namespace Folder

def create (folder : Folder) : Except FileError Unit :=
  match folder.site with
  | .free => .ok ()
  | .file => .error .occupied
  | .underFile => .error .notDirectory

/-- The number of bytes that a component of a path may have. -/
def nameLimit : Nat := 255

/-- The number of bytes that a path may have. -/
def pathLimit : Nat := 4095

/-- The components of a path, with slashes between them. There is at least one, perhaps empty. -/
def components : List Char → List (List Char)
  | [] => [[]]
  | c :: rest =>
      if c = '/' then [] :: components rest
      else match components rest with
        | [] => [[c]]
        | first :: others => (c :: first) :: others

/-- Walk components from the left. A dot, or nothing, stays where it is and two dots go up; a folder
of any other name does not exist. -/
def walk (up : Nat) : List (List Char) → Except FileError FilePlace
  | [] => .error .noSuchDirectory
  | component :: rest =>
      let name := String.ofList component
      if nameLimit < name.utf8ByteSize then .error .nameTooLong
      else match rest with
        | [] => .ok ⟨up, name⟩
        | _ :: _ =>
            if name = "" ∨ name = "." then walk up rest
            else if name = ".." then walk (up + 1) rest
            else .error .noSuchDirectory

/-- Where a file of this name goes, in a folder that exists. A path that starts with a slash does not
start in the folder, and leads nowhere. The length of the path is looked at before it is walked. -/
def locate (folder : Folder) (name : String) : Except FileError FilePlace :=
  if name.toList.contains '\x00' then .error .nulInName
  else if pathLimit < (folder.path ++ "/" ++ name).utf8ByteSize then .error .nameTooLong
  else do
    let place ← walk 0 (components name.toList)
    if name.toList.head? = some '/' then .error .noSuchDirectory else return place

end Folder

end Trivalent
