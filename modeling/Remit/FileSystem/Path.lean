import Remit.FileSystem.Error

/-!
# Paths

A path is the list of what stands between the slashes of its text, so an absolute path starts with
an empty part, and a path that ends in a slash ends with one.

Each part is one move from where the parts before it lead: an empty part and a single dot stay,
two dots lead to the directory above, and every other part is the name of something below. What a
path leads to depends on the files there are and is not decided here: `a/../b` is nowhere unless
there is a directory `a`.

## Main statements

* `Path.name_child`, `Path.child_inj`: what lies in a directory under a name ends in that name, so
  different names lie at different places.
-/

namespace Remit.FileSystem

/-- A path as its parts. -/
structure Path where
  parts : List String
  deriving DecidableEq, Repr

namespace Path

/-! ### Texts -/

/-- The parts of a text between its slashes. -/
def split : List Char → List (List Char)
  | [] => [[]]
  | c :: rest =>
    if c = '/' then [] :: split rest
    else
      match split rest with
      | [] => [[c]]
      | part :: parts => (c :: part) :: parts

/-- The path with the given text. -/
def ofText (text : String) : Path := ⟨(split text.toList).map String.ofList⟩

/-- The text of a path. -/
def text (path : Path) : String := String.intercalate "/" path.parts

/-- The most bytes that the text of a path may have. -/
def maximumLength : Nat := 4095

/-- What keeps a path from being handed to a file system at all. -/
def flaw? (path : Path) : Option Error :=
  if path.parts.any (·.toList.contains '\x00') then some .nulInName
  else if path.text.isEmpty then some .notFound
  else if path.text.utf8ByteSize > maximumLength then some .nameTooLong
  else none

/-! ### Parts -/

/-- The part leads nowhere. -/
def isStay (part : String) : Bool := part == "" || part == "."

/-- The part is a name, and not a move that every directory allows. -/
def isName (part : String) : Bool := !isStay part && part != ".."

/-- The path ends in a slash, or is empty, so that a name can be put right behind it. -/
def endsInSlash (path : Path) : Bool := path.parts.getLast? == some ""

/-- The parts without empty ones at the end. -/
def trimmed (path : Path) : List String := (path.parts.reverse.dropWhile (· == "")).reverse

/-- The last part that is not empty. -/
def last (path : Path) : String := path.trimmed.getLastD ""

/-- The parts in front of the last one that is not empty. -/
def front (path : Path) : List String := path.trimmed.dropLast

/-! ### Above and below -/

/-- What lies in a directory under the given name. A slash goes between the two, unless the path of
the directory ends in one. -/
def child (directory : Path) (name : String) : Path :=
  if directory.endsInSlash then ⟨directory.parts.dropLast ++ [name]⟩
  else ⟨directory.parts ++ [name]⟩

/-- The last part of a path. -/
def name (path : Path) : String := path.parts.getLastD ""

@[simp] theorem name_child (directory : Path) (name : String) :
    (directory.child name).name = name := by
  unfold child
  split <;> simp [Path.name, List.getLastD_eq_getLast?]

theorem child_inj {directory : Path} {a b : String} :
    directory.child a = directory.child b ↔ a = b :=
  ⟨fun h => by simpa using congrArg Path.name h, fun h => h ▸ rfl⟩

/-- The parts that lead somewhere. -/
def moves (path : Path) : List String := path.parts.filter (!isStay ·)

/-- The path of the first few moves, from where the path starts. -/
def upTo (path : Path) (count : Nat) : Path :=
  if path.parts.head? = some "" then ⟨"" :: path.moves.take count⟩
  else ⟨path.moves.take count⟩

/-- The path itself and those of the directories above it, innermost first; the place where it
starts is left out. -/
def lineage (path : Path) : List Path :=
  match path.moves.length with
  | 0 => []
  | count + 1 => path :: (List.range count).reverse.map fun i => path.upTo (i + 1)

end Path

end Remit.FileSystem
