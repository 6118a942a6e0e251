/-! # Depth-first walks

A walk keeps a stack of elements to go on from and the elements it has not
seen yet. Each step takes the top of the stack and puts the unseen elements
that follow it on top, so that the last of them is next. The unseen elements
and the stack together shrink by one with every step, so the walk ends.

An element counts as seen from the moment it is put on the stack. Where several
ways lead to it, a recursive descent may come to it at another time. -/

namespace GridSetup

/-- The unseen elements among `candidates`, in the order in which they are
first named, and the elements that stay unseen. -/
def sift {α : Type} [BEq α] : (candidates unseen : List α) → List α × List α
  | [], unseen => ([], unseen)
  | x :: rest, unseen =>
    if unseen.contains x then
      let sifted := sift rest (unseen.erase x)
      (x :: sifted.1, sifted.2)
    else sift rest unseen

theorem sift_length {α : Type} [BEq α] [LawfulBEq α] (candidates unseen : List α) :
    (sift candidates unseen).1.length + (sift candidates unseen).2.length =
      unseen.length := by
  induction candidates generalizing unseen with
  | nil => simp [sift]
  | cons x rest ih =>
    unfold sift
    split
    · rename_i h
      have hx : x ∈ unseen := by simpa using h
      have := List.length_erase_of_mem hx
      have := List.length_pos_of_mem hx
      have := ih (unseen.erase x)
      simp only [List.length_cons]
      omega
    · exact ih unseen

/-- The elements a walk takes from its stack, in order. `next` gives what
follows an element, or fails, which fails the walk. -/
def walk {α ε : Type} [BEq α] [LawfulBEq α] (next : α → Except ε (List α))
    (unseen stack : List α) : Except ε (List α) :=
  match stack with
  | [] => .ok []
  | x :: rest =>
    match next x with
    | .error e => .error e
    | .ok candidates =>
      let sifted := sift candidates unseen
      (walk next sifted.2 (sifted.1.reverse ++ rest)).map (x :: ·)
termination_by unseen.length + stack.length
decreasing_by
  have := sift_length candidates unseen
  simp only [List.length_append, List.length_reverse, List.length_cons]
  omega

/-- The depth-first order of the elements of `all` that can be reached from
one of them. -/
def depthFirst {α ε : Type} [BEq α] [LawfulBEq α] (next : α → Except ε (List α))
    (all : List α) (start : α) : Except ε (List α) :=
  walk next (all.erase start) [start]

end GridSetup
