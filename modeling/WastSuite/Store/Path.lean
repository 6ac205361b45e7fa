/-!
# Paths

A path is a text whose names stand between slashes. It starts at the top if it starts with a slash,
and at the working directory otherwise. `Path.steps` reads it as moves: empty names vanish, `.`
stays, `..` goes up, any other name is entered, and a slash at the end stays once more, so that it
asks for a directory.

`Path.join` puts one path behind another, and `Path.extension?` gives what follows the last dot of
the last name. Both work on the text alone and normalise nothing.
-/

set_option autoImplicit false

namespace WastSuite

namespace Path

/-- The texts between the slashes. There is one more of them than there are slashes. -/
def segments : List Char → List (List Char)
  | [] => [[]]
  | c :: text =>
    if c = '/' then [] :: segments text
    else
      match segments text with
      | first :: rest => (c :: first) :: rest
      | [] => [[c]]

/-- One move through a tree of directories: stay, which only a directory allows, go to the directory
above, or go to the entry with a name. -/
inductive Step where
  | stay
  | up
  | enter (name : String)
  deriving DecidableEq

/-- The move that a name between slashes stands for. -/
def step? (segment : List Char) : Option Step :=
  if segment = [] then none
  else if segment = ['.'] then some .stay
  else if segment = ['.', '.'] then some .up
  else some (.enter (String.ofList segment))

/-- Whether a path starts at the top. -/
def isAbsolute (path : String) : Bool :=
  path.toList.head? == some '/'

/-- Whether a path ends with a slash. -/
def endsWithSlash (path : String) : Bool :=
  path.toList.getLast? == some '/'

/-- A path without the slashes at its end. -/
def withoutSlashes (path : String) : String :=
  String.ofList (path.toList.reverse.dropWhile (· = '/')).reverse

/-- The moves that a path stands for. -/
def steps (path : String) : List Step :=
  (segments path.toList).filterMap step? ++ if endsWithSlash path then [.stay] else []

/-- The moves that a path stands for, without those that stay. -/
def moves (path : String) : List Step :=
  (steps path).filter (· ≠ .stay)

/-- A path behind another: the second alone if it starts at the top or the first is empty. -/
def join (base relative : String) : String :=
  if isAbsolute relative || base.isEmpty then relative
  else if endsWithSlash base then base ++ relative
  else base ++ "/" ++ relative

/-- The last name of a path, if the path does not end by going up. -/
def lastName? (path : String) : Option (List Char) :=
  match ((segments path.toList).filter fun name ↦ name ≠ [] ∧ name ≠ ['.']).getLast? with
  | some ['.', '.'] => none
  | other => other

/-- What follows the last dot of a name, unless that dot is its first character. -/
def extensionOf? (name : List Char) : Option (List Char) :=
  let backwards := name.reverse
  match backwards.dropWhile (· ≠ '.') with
  | _ :: _ :: _ => some (backwards.takeWhile (· ≠ '.')).reverse
  | _ => none

/-- What follows the last dot of the last name. -/
def extension? (path : String) : Option String :=
  ((lastName? path).bind extensionOf?).map String.ofList

end Path

end WastSuite
