/-! A line feed ends a line and takes one carriage return before it along; a carriage return by
itself ends none, and no line follows the last line feed. -/

namespace PolarCurve.Text

def lines : List Char → List (List Char)
  | [] => []
  | c :: cs =>
    if c = '\n' then [] :: lines cs
    else if c = '\r' ∧ cs.head? = some '\n' then lines cs
    else
      match lines cs with
      | [] => [[c]]
      | line :: rest => (c :: line) :: rest

end PolarCurve.Text
