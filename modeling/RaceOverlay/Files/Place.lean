/-!
# Places

Where a path leads: names followed from the working directory, from a directory above it or from the
root. The names of the directories above are not known, so nothing leads back down through them.
-/
namespace RaceOverlay

/-- A directory that can be reached without a name. -/
inductive Anchor where
  /-- So many steps above the working directory. -/
  | above (steps : Nat)
  | root
  deriving DecidableEq

/-- Nothing is above the root. -/
def Anchor.parent : Anchor → Anchor
  | .above steps => .above (steps + 1)
  | .root => .root

structure Place where
  anchor : Anchor
  names : List String
  deriving DecidableEq

namespace Place

def working : Place := ⟨.above 0, []⟩

def root : Place := ⟨.root, []⟩

def parent (p : Place) : Place :=
  if p.names.isEmpty then ⟨p.anchor.parent, []⟩ else ⟨p.anchor, p.names.dropLast⟩

def child (p : Place) (name : String) : Place := ⟨p.anchor, p.names ++ [name]⟩

/-- Two dots lead to the directory above. -/
def step (p : Place) (name : String) : Place := if name = ".." then p.parent else p.child name

def follow (p : Place) (names : List String) : Place := names.foldl step p

/-- Whether a directory is a place or is on the way to it. -/
def leadsTo (directory p : Place) : Bool :=
  directory.anchor == p.anchor && directory.names.isPrefixOf p.names

/-- The directories that are below the root of every system. -/
def systemDirectories : List Place :=
  ["bin", "dev", "etc", "home", "lib", "opt", "proc", "root", "run", "sbin", "srv", "sys", "tmp",
    "usr", "var"].map root.child

/-- A file without content that takes whatever is written to it. -/
def nullDevice : Place := (root.child "dev").child "null"

end Place

end RaceOverlay
