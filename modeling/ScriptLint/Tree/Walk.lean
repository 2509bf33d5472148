import ScriptLint.Tree.Place

/-!
# Walks over a tree

Both walks keep an explicit list of what is still to be done and go down named
children only.  The plain walk lists places in document order; the traversal
brackets each place between its entering and its leaving.
-/

namespace ScriptLint

namespace Place

/-- Works off a list of places, each followed by what lies below it. -/
def walkAll : List Place → List Place
  | [] => []
  | place :: rest => place :: walkAll (place.namedChildren ++ rest)
termination_by pending => weight pending
decreasing_by
  have smaller := weight_namedChildren_lt place
  simp only [weight_append, weight]
  omega

/-- A place and everything below it, in document order. -/
def walk (place : Place) : List Place :=
  walkAll [place]

end Place

/-- A moment of a traversal. -/
inductive Visit where
  | enter (place : Place)
  | leave (place : Place)

namespace Visit

def place : Visit → Place
  | enter place => place
  | leave place => place

/-- How much of a traversal is left to do. -/
def weight : List Visit → Nat
  | [] => 0
  | enter place :: rest => 2 * place.node.size + weight rest
  | leave _ :: rest => 1 + weight rest

theorem weight_append (left right : List Visit) :
    weight (left ++ right) = weight left + weight right := by
  induction left with
  | nil => simp [weight]
  | cons visit rest induction =>
      cases visit <;> simp [weight, induction, Nat.add_assoc]

theorem weight_map_enter (places : List Place) :
    weight (places.map enter) = 2 * Place.weight places := by
  induction places with
  | nil => rfl
  | cons place rest induction =>
      simp only [List.map_cons, weight, Place.weight, induction]
      omega

/-- Works off a list of visits.  Entering a place schedules its named children
and then its leaving. -/
def run : List Visit → List Visit
  | [] => []
  | leave place :: rest => leave place :: run rest
  | enter place :: rest =>
      enter place :: run (place.namedChildren.map enter ++ leave place :: rest)
termination_by pending => weight pending
decreasing_by
  · simp only [weight]
    omega
  · have smaller := Place.weight_namedChildren_lt place
    simp only [weight_append, weight_map_enter, weight]
    omega

/-- The visits of the traversal of a tree. -/
def ofRoot (root : Node) : List Visit :=
  run [enter (Place.ofRoot root)]

end Visit

end ScriptLint
