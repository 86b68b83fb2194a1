import Remit.Activity
import Remit.Bytes
import Remit.FileSystem.Path

/-!
# Working with files

The operations on files that this library uses, each of which is one step that may fail by itself.
Bytes are written in as many steps as the file system likes: an `append` answers how many of them
it took.

A new file is made either by `createNew`, which never touches a file that is there already, or by
`openEmpty`, which empties it. The mode that is given holds for new files only.
-/

namespace Remit.FileSystem

/-- One step on a file or directory. -/
inductive Op where
  /-- Whether something is there. -/
  | exists (path : Path)
  /-- Makes a directory, with those above it, if they are missing. -/
  | makeDirectories (path : Path)
  /-- Makes an empty file, or fails if something is there. -/
  | createNew (path : Path) (mode : UInt32)
  /-- Makes an empty file, or empties the one that is there. -/
  | openEmpty (path : Path) (mode : UInt32)
  | setMode (path : Path) (mode : UInt32)
  /-- Writes bytes at the end of a file, all of them or only the first few. -/
  | append (path : Path) (bytes : Bytes)
  /-- Waits until a file is safe. -/
  | sync (path : Path)
  | read (path : Path)
  /-- The names of what lies in a directory, in any order. -/
  | list (path : Path)
  deriving DecidableEq

/-- What is answered to a step. -/
@[reducible] def Op.Answer : Op → Type
  | .exists _ => Bool
  | .makeDirectories _ => Except Error Unit
  | .createNew _ _ => Except Error Unit
  | .openEmpty _ _ => Except Error Unit
  | .setMode _ _ => Except Error Unit
  | .append _ _ => Except Error Nat
  | .sync _ => Except Error Unit
  | .read _ => Except Error Bytes
  | .list _ => Except Error (List String)

/-- The path that a step is about. -/
def Op.path : Op → Path
  | .exists path => path
  | .makeDirectories path => path
  | .createNew path _ => path
  | .openEmpty path _ => path
  | .setMode path _ => path
  | .append path _ => path
  | .sync path => path
  | .read path => path
  | .list path => path

/-- The questions to a file system. -/
abbrev files : Interface := ⟨Op, Op.Answer⟩

/-- Something is at the path. -/
def isPresent (path : Path) : Activity files Bool := .perform (I := files) (.exists path)

/-- Makes a directory, with those above it, if they are missing. -/
def makeDirectories (path : Path) : Task files Error Unit :=
  .mk (.perform (I := files) (.makeDirectories path))

/-- Makes an empty file, or fails if something is there. -/
def createNew (path : Path) (mode : UInt32) : Task files Error Unit :=
  .mk (.perform (I := files) (.createNew path mode))

/-- Makes an empty file, or empties the one that is there. -/
def openEmpty (path : Path) (mode : UInt32) : Task files Error Unit :=
  .mk (.perform (I := files) (.openEmpty path mode))

/-- Changes who may do what with a file. -/
def setMode (path : Path) (mode : UInt32) : Task files Error Unit :=
  .mk (.perform (I := files) (.setMode path mode))

/-- Waits until a file is safe. -/
def sync (path : Path) : Task files Error Unit := .mk (.perform (I := files) (.sync path))

/-- The names of what lies in a directory. -/
def list (path : Path) : Task files Error (List String) := .mk (.perform (I := files) (.list path))

/-- Writes all of the bytes at the end of a file, in as many steps as it takes. -/
def appendAll (path : Path) (bytes : Bytes) : Task files Error Unit :=
  if bytes = [] then .mk (.done (.ok ()))
  else .mk <| .ask (I := files) (.append path bytes) fun
    | .error cause => .done (.error cause)
    | .ok taken => if _h : taken = 0 then .done (.error .notWritten)
      else appendAll path (bytes.drop taken)
termination_by bytes.length
decreasing_by
  have := List.length_pos_iff.2 ‹¬bytes = []›
  simp only [List.length_drop]; omega

/-- The text in a file. -/
def readText (path : Path) : Task files Error String :=
  .mk <| .ask (I := files) (.read path) fun
    | .error cause => .done (.error cause)
    | .ok bytes => match bytes.toText? with
      | some text => .done (.ok text)
      | none => .done (.error .notText)

end Remit.FileSystem
