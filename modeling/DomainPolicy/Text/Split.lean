/-!
# Lists in pieces

* `Split.pieces` cuts a text, or any list, at each occurrence of a character; there is always at least one piece.
* `Split.join` puts a character back between pieces.
-/

namespace DomainPolicy.Split

variable {α : Type}

/-- Pieces with `sep` between them. -/
def join (sep : α) : List (List α) → List α
  | [] => []
  | [p] => p
  | p :: ps => p ++ sep :: join sep ps

variable [DecidableEq α]

/-- A text in pieces, cut at each `sep`. -/
def pieces (sep : α) : List α → List (List α)
  | [] => [[]]
  | c :: cs =>
    match pieces sep cs with
    | [] => [[c]]
    | p :: ps => if c = sep then [] :: p :: ps else (c :: p) :: ps

/-- The part before the first `sep`, and what follows it, if there is one. -/
def cut (sep : α) (cs : List α) : List α × Option (List α) :=
  match cs.dropWhile (· ≠ sep) with
  | [] => (cs, none)
  | _ :: rest => (cs.takeWhile (· ≠ sep), some rest)

/-- The parts before and after the last `sep`, if there is one. -/
def cutLast? (sep : α) (cs : List α) : Option (List α × List α) :=
  match cut sep cs.reverse with
  | (_, none) => none
  | (after, some before) => some (before.reverse, after.reverse)

end DomainPolicy.Split
