/-! # Directory layouts

The directories that the files of a generated package go to.
-/

namespace ClientGen

/-- Directories of a generated package. The empty name and a single dot are its root. -/
structure Layout where
  clientDir : String
  typesDir : String
  /-- Further directories, each named once. -/
  extraDirs : List String := []
  deriving Repr, DecidableEq, Inhabited

namespace Layout

/-- Add an element at the end unless it is there. -/
def insertLast (dirs : List String) (dir : String) : List String :=
  if dirs.contains dir then dirs else dirs ++ [dir]

/-- The layout with one more directory. -/
def withExtraDir (layout : Layout) (dir : String) : Layout :=
  { layout with extraDirs := insertLast layout.extraDirs dir }

def isRoot (dir : String) : Bool :=
  dir = "" || dir = "."

/-- All directories but the root, each once, in the order of their first mention. -/
def directories (layout : Layout) : List String :=
  ((layout.clientDir :: layout.typesDir :: layout.extraDirs).filter (!isRoot ·)).foldl
    insertLast []

end Layout

end ClientGen
