namespace TimeOrderedGuid.Listing

variable {Item : Type} [Ord Item]

def sorted (items : List Item) : List Item :=
  items.mergeSort fun first second => (compare first second).isLE

def isAscending : List Item → Bool
  | first :: second :: rest => (compare first second).isLT && isAscending (second :: rest)
  | _ => true

/-- Drops each item that compares equal to the one before it. -/
def dropRepeats : List Item → List Item
  | first :: second :: rest =>
    if (compare first second).isEq then dropRepeats (second :: rest)
    else first :: dropRepeats (second :: rest)
  | items => items

/-- The number of items that differ under the comparison. -/
def countDistinct (items : List Item) : Nat := (dropRepeats (sorted items)).length

/-- The number of items that are not equal to one another. -/
def countUnequal [BEq Item] (items : List Item) : Nat := items.eraseDups.length

def least? (items : List Item) : Option Item := (sorted items).head?

def greatest? (items : List Item) : Option Item := (sorted items).getLast?

end TimeOrderedGuid.Listing
