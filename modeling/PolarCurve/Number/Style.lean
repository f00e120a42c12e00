import PolarCurve.Number.Shortest

namespace PolarCurve

structure Style where
  tie : Double.Tie
  wholePoint : Bool
  writtenOut : Option (Int × Int)
  signedPower : Bool

namespace Style

def plain : Style := ⟨.up, false, none, false⟩

def detailed : Style := ⟨.up, true, some (-4, 15), false⟩

def document : Style := ⟨.even, true, some (-5, 15), true⟩

def writeOut (style : Style) (digits : List Char) : Int → List Char
  | .ofNat point =>
    let whole := digits.take point ++ List.replicate (point - digits.length) '0'
    let fraction := digits.drop point
    (if whole = [] then ['0'] else whole) ++
      (if fraction ≠ [] then '.' :: fraction else if style.wholePoint then ['.', '0'] else [])
  | .negSucc zeros => '0' :: '.' :: (List.replicate (zeros + 1) '0' ++ digits)

def writePower (style : Style) (digits : List Char) (power : Int) : List Char :=
  let fraction := digits.drop 1
  let sign := if power < 0 then ['-'] else if style.signedPower then ['+'] else []
  digits.take 1 ++ (if fraction ≠ [] then '.' :: fraction else []) ++
    'e' :: (sign ++ Nat.toDigits 10 power.natAbs)

def writesOut (style : Style) (power : Int) : Bool :=
  match style.writtenOut with
  | none => true
  | some (least, greatest) => least ≤ power && power ≤ greatest

def decimalText (style : Style) (d : Decimal) : List Char :=
  let digits := Nat.toDigits 10 d.coefficient
  let point : Int := digits.length + d.exponent
  let shown := (digits.reverse.dropWhile (· = '0')).reverse
  if style.writesOut (point - 1) then style.writeOut shown point
  else style.writePower shown (point - 1)

def magnitudeText (style : Style) (code : Nat) : List Char :=
  if code = 0 then style.writeOut ['0'] 1
  else if code < Double.infinity then style.decimalText (Double.shortest style.tie code)
  else "inf".toList

def text (style : Style) (x : Float) : List Char :=
  let code := Double.code x
  if Double.infinity < code then "NaN".toList
  else (if Double.isNegative x then ['-'] else []) ++ style.magnitudeText code

end Style

def Double.text (x : Float) : String := String.ofList (Style.plain.text x)

def Double.sixPlaces (x : Float) : String :=
  let code := Double.code x
  if Double.infinity < code then "NaN"
  else
    let sign := if Double.isNegative x then "-" else ""
    if code = Double.infinity then sign ++ "inf"
    else
      let millionths := Double.roundHalfEven (Double.units code * 10 ^ 6) (2 ^ 1074)
      let places := Nat.toDigits 10 (millionths % 10 ^ 6)
      sign ++ toString (millionths / 10 ^ 6) ++ "." ++
        String.ofList (List.replicate (6 - places.length) '0' ++ places)

end PolarCurve
