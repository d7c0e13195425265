/-!
# Paths

Path texts with `/` between names. Joining replaces everything before an absolute path and never
doubles a separator.
-/

namespace Credentials.Host.Path

def isAbsolute (p : String) : Bool :=
  p.startsWith "/"

def join (base sub : String) : String :=
  if isAbsolute sub || base == "" then sub
  else if base.endsWith "/" then base ++ sub
  else base ++ "/" ++ sub

/-- The pieces of a text between the occurrences of a character; there is always one more piece than
there are occurrences. -/
def pieces (sep : Char) : List Char → List (List Char)
  | [] => [[]]
  | c :: rest =>
    if c = sep then [] :: pieces sep rest
    else
      match pieces sep rest with
      | [] => [[c]]
      | p :: ps => (c :: p) :: ps

/-- The names of a path in order, with an empty one for every doubled, leading or trailing
separator. -/
def names (p : String) : List String :=
  (pieces '/' p.toList).map String.ofList

/-- The paths of a search list, which are separated by colons. -/
def searchList (s : String) : List String :=
  (pieces ':' s.toList).map String.ofList

/-- The names of the directory that holds a path's last name. The root and the empty path have
none. -/
def parentNames? (p : String) : Option (List String) :=
  let kept := (names p).filter fun n => n ≠ "" ∧ n ≠ "."
  let kept := if ¬ isAbsolute p ∧ (names p).head? = some "." then "." :: kept else kept
  if kept = [] then none else some kept.dropLast

end Credentials.Host.Path
