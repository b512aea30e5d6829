/-!
# Lines

A line ends at a line feed, which is taken off together with one carriage return before it. What
follows the last line feed is a line only if it is not empty. A raw line keeps its end.
-/

set_option autoImplicit false

namespace JobReport.Text

/-- A line given backwards, without a carriage return at its end. -/
def closeLine : List Char → List Char
  | '\r' :: line => line.reverse
  | line => line.reverse

/-- The lines of a text whose current line has begun with `line`, given backwards. -/
def linesFrom (line : List Char) : List Char → List (List Char)
  | [] => if line.isEmpty then [] else [line.reverse]
  | c :: cs => if c = '\n' then closeLine line :: linesFrom [] cs else linesFrom (c :: line) cs

def lines (text : List Char) : List (List Char) := linesFrom [] text

/-- Cuts a list after every element that ends a raw line. -/
def cutAfter {α : Type} [DecidableEq α] (stop : α) : List α → List (List α)
  | [] => []
  | c :: cs =>
    if c = stop then [c] :: cutAfter stop cs
    else match cutAfter stop cs with
      | [] => [[c]]
      | line :: rest => (c :: line) :: rest

/-- The last elements of a list, at most `limit` of them. -/
def lastOf {α : Type} (limit : Nat) (xs : List α) : List α := xs.drop (xs.length - limit)

end JobReport.Text
