namespace Wireform.Files

/-! # Paths

Paths of files as they are written: pieces with slashes between them. A path that starts with a
slash has an empty first piece, one that ends with a slash an empty last piece, and the empty path
is one empty piece. -/

structure FilePath where
  pieces : List String
  deriving DecidableEq, Repr, Inhabited

namespace FilePath

def split : List Char → List (List Char)
  | [] => [[]]
  | letter :: rest =>
    if letter = '/' then [] :: split rest
    else
      match split rest with
      | [] => [[letter]]
      | first :: more => (letter :: first) :: more

def ofText (text : String) : FilePath := ⟨(split text.toList).map String.ofList⟩

def text (path : FilePath) : String := "/".intercalate path.pieces

instance : ToString FilePath := ⟨text⟩

def empty : FilePath := ⟨[""]⟩

/-- The directory in which paths are looked up. -/
def here : FilePath := ⟨["."]⟩

def isAbsolute : FilePath → Bool
  | ⟨"" :: _ :: _⟩ => true
  | _ => false

/-- The path that `tail` is when it is looked up in the directory `base`. -/
def join (base tail : FilePath) : FilePath :=
  if tail.isAbsolute || base = empty then tail
  else if base.pieces.getLast? = some "" then ⟨base.pieces.dropLast ++ tail.pieces⟩
  else ⟨base.pieces ++ tail.pieces⟩

def joinName (base : FilePath) (name : String) : FilePath := base.join ⟨[name]⟩

/-- Leaves out pieces at the end that lead nowhere: empty ones, and dots but for a first piece. -/
def trimmed : List String → List String
  | [] => []
  | first :: rest =>
    first :: (rest.reverse.dropWhile fun piece => piece = "" || piece = ".").reverse

/-- The path without its last piece. The empty path and the root of all files have no parent. -/
def parent? (path : FilePath) : Option FilePath :=
  match trimmed path.pieces with
  | [] => none
  | [""] => none
  | [_] => some empty
  | pieces =>
    match trimmed pieces.dropLast with
    | [""] => some ⟨["", ""]⟩
    | rest => some ⟨rest⟩

def directory (path : FilePath) : FilePath := path.parent?.getD empty

/-- The last piece of a path that leads to something by its name. -/
def fileName? (path : FilePath) : Option String :=
  match (trimmed path.pieces).getLast? with
  | some piece => if ["", ".", ".."].contains piece then none else some piece
  | none => none

/-- A file name without its extension. A name that only starts with a dot has none. -/
def stem (name : String) : String :=
  match name.toList.reverse.dropWhile (· ≠ '.') with
  | [] => name
  | [_] => name
  | _ :: before => String.ofList before.reverse

def withoutExtension (path : FilePath) : FilePath :=
  match path.fileName? with
  | some name => ⟨(trimmed path.pieces).dropLast ++ [stem name]⟩
  | none => path

example : split ['a', '/', 'b'] = [['a'], ['b']] := by decide
example : directory ⟨[".", "lib.rs"]⟩ = here := by decide
example : directory ⟨["lib.rs"]⟩ = empty := by decide
example : withoutExtension ⟨["src", "shapes.rs"]⟩ = ⟨["src", "shapes"]⟩ := by decide

end FilePath

end Wireform.Files
