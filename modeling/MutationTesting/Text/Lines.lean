/-!
# Lines

A text is cut into lines, the last of which may lack its end. Written back each line has its end.
-/

namespace MutationTesting.Lines

/-- The line that goes on and the complete ones, the last one first, behind a further character. -/
def step : List Char × List (List Char) → Char → List Char × List (List Char)
  | (line, lines), c => if c = '\n' then ([], line.reverse :: lines) else (c :: line, lines)

/-- The lines of a text without their ends. -/
def split (cs : List Char) : List (List Char) :=
  match cs.foldl step ([], []) with
  | ([], lines) => lines.reverse
  | (line, lines) => (line.reverse :: lines).reverse

/-- The last line of a text lacks its end. -/
def isOpen (cs : List Char) : Bool :=
  cs.getLast?.any (· != '\n')

/-- Lines with their ends as one text. -/
def join (lines : List (List Char)) : List Char :=
  lines.flatMap fun line => line ++ ['\n']

end MutationTesting.Lines
