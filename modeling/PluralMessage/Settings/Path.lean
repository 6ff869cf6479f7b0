import PluralMessage.Text.Case

/-!
Paths of settings files, written without empty and `.` parts, and the suffix that names the format
of a file.
-/
namespace PluralMessage.Path

def splitSlashes : List Char → List (List Char)
  | [] => [[]]
  | c :: s =>
      match splitSlashes s with
      | [] => [[c]]
      | part :: parts => if c = '/' then [] :: part :: parts else (c :: part) :: parts

def parts (path : List Char) : List (List Char) :=
  (splitSlashes path).filter fun part => !part.isEmpty && part != ['.']

/-- Where an absolute path starts; exactly two slashes are kept as they are. -/
def root (path : List Char) : List Char :=
  match path.takeWhile (· == '/') with
  | [] => []
  | ['/', '/'] => ['/', '/']
  | _ => ['/']

/-- The path without its superfluous parts; an empty one is `.`. -/
def normalize (path : List Char) : List Char :=
  let s := root path ++ ['/'].intercalate (parts path)
  if s.isEmpty then ['.'] else s

def fileName (path : List Char) : List Char :=
  (parts path).getLastD []

/-- The text from the last point of a name on, if there is something on both sides of it. -/
def suffix (path : List Char) : List Char :=
  let name := fileName path
  let ending := (name.reverse.takeWhile (· != '.')).reverse
  let before := name.length - ending.length - 1
  if ending.isEmpty || before = 0 then [] else '.' :: ending

/-- The suffix without regard to case. -/
def format (path : List Char) : List Char :=
  Text.lower (suffix path)

end PluralMessage.Path
