namespace PolarCurve.Text

def size : List Char → Nat
  | [] => 0
  | c :: cs => c.utf8Size + size cs

/-- Splits a text after its first `n` bytes; no cut exists inside a character or past the end. -/
def cut : Nat → List Char → Option (List Char × List Char)
  | 0, cs => some ([], cs)
  | _ + 1, [] => none
  | n + 1, c :: cs =>
    if c.utf8Size ≤ n + 1 then
      (cut (n + 1 - c.utf8Size) cs).map fun (left, right) => (c :: left, right)
    else none

end PolarCurve.Text
