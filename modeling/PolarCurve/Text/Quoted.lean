import PolarCurve.Text.Extending
import PolarCurve.Text.Unprinted

namespace PolarCurve.Text

/-- The voicing marks of halfwidth kana extend what they follow but take a place of their own. -/
def isVoicingMark (c : Char) : Bool := c = '\uff9e' || c = '\uff9f'

def isShown (c : Char) : Bool := !isUnprinted c && (!isExtending c || isVoicingMark c)

def quoteChar (c : Char) : List Char :=
  if c = '"' then ['\\', '"']
  else if c = '\\' then ['\\', '\\']
  else if c = '\n' then ['\\', 'n']
  else if c = '\r' then ['\\', 'r']
  else if c = '\t' then ['\\', 't']
  else if c.toNat = 0 then ['\\', '0']
  else if isShown c then [c]
  else '\\' :: 'u' :: '\x7b' :: (Nat.toDigits 16 c.toNat ++ ['\x7d'])

def quote (name : String) : String :=
  String.ofList ('"' :: (name.toList.flatMap quoteChar ++ ['"']))

end PolarCurve.Text
