import Ixo.Alphabet
import Ixo.Command.Source
import Ixo.Text.Split

/-!
# Directories

A directory with the files in it and below it, each under its path, and nothing outside of it. It is
one of the ways in which reading files can answer, `Directory.read` as the `readFile` of some
`Surroundings`, for runs of which all files are known. It is not the file system, where a path that
leads out of the directory may well name a file, and where a file may be kept from being read.

The rules by which a path names a file are those of a system. A directory exists where a file lies
below it.
-/

set_option autoImplicit false

namespace Ixo.Command

/-- A place is named by the names on the way to it. -/
abbrev Place := List (List Char)

/-- The files of a directory, each at its place. -/
structure Directory where
  files : List (Place × ByteArray)

namespace Directory

/-- The longest name of a file, in bytes. -/
def maxName : Nat := 255

/-- The longest path, in bytes. -/
def maxPath : Nat := 4095

def empty : Directory := ⟨[]⟩

/-- Adds a file at a path, which is split at its slashes. -/
def add (d : Directory) (path : String) (content : ByteArray) : Directory :=
  ⟨d.files ++ [(splitAtEach '/' path.toList, content)]⟩

def file? (d : Directory) (place : Place) : Option ByteArray := d.files.lookup place

/-- Whether a place is a directory: the whole of it is, and so is every place above a file. -/
def isDirectory (d : Directory) (place : Place) : Bool :=
  place.isEmpty || d.files.any fun (other, _) => place.isPrefixOf other && place != other

/-- Where a walk stands. -/
inductive Position where
  | inside (place : Place)
  /-- Outside of the directory, where no name leads anywhere. -/
  | outside

/-- Follows one name from a position. An empty name and a point stay in a directory, two points
leave it. -/
def follow (d : Directory) (position : Position) (name : List Char) :
    Except ReadFailure Position :=
  match position with
  | .outside =>
    if name ∈ [[], ['.'], ['.', '.']] then .ok .outside
    else .error (if maxName < byteLength name then .nameTooLong else .missing)
  | .inside place =>
    if d.isDirectory place then
      if name ∈ [[], ['.']] then .ok (.inside place)
      else if name = ['.', '.'] then
        .ok (if place.isEmpty then .outside else .inside place.dropLast)
      else if maxName < byteLength name then .error .nameTooLong
      else
        let next := place ++ [name]
        if d.isDirectory next || (d.file? next).isSome then .ok (.inside next)
        else .error .missing
    else .error .notADirectory

/-- Reads the file that a path names. A path that starts with a slash starts outside. -/
def read (d : Directory) (path : String) : Except ReadFailure ByteArray := do
  if maxPath < byteLength path.toList then throw .nameTooLong
  let start := if path.toList.head? = some '/' then .outside else .inside []
  match ← (splitAtEach '/' path.toList).foldlM d.follow start with
  | .outside => throw .isADirectory
  | .inside place =>
    if d.isDirectory place then throw .isADirectory
    match d.file? place with
    | some content => return content
    | none => throw .missing

end Directory

end Ixo.Command
