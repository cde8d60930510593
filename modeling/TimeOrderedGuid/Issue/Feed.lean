import TimeOrderedGuid.Issue.Generator

namespace TimeOrderedGuid

/-- A reader of a generator's feed. A reader keeps nothing of its own, so every reader, and every
copy of one, goes on where the last draw by any of them ended. -/
structure Feed where
deriving DecidableEq

structure SizeBounds where
  atLeast : Nat
  atMost : Option Nat
deriving DecidableEq

/-- The bounds of a reader that never ends: more items than a 64-bit count holds. -/
def SizeBounds.endless : SizeBounds := { atLeast := 0xffffffffffffffff, atMost := none }

namespace Feed

def draw (_ : Feed) (generator : Generator) (now : Ticks) : Guid × Generator :=
  generator.issue now

def sizeBounds (_ : Feed) : SizeBounds := .endless

end Feed

end TimeOrderedGuid
