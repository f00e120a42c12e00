import PolarCurve.Json

namespace PolarCurve.Json

def newline (level : Nat) : List Char := '\n' :: List.replicate (2 * level) ' '

mutual

def print (level : Nat) : Json → List Char
  | null => "null".toList
  | bool value => if value then "true".toList else "false".toList
  | number spelling => spelling
  | string spelling => '"' :: (spelling ++ ['"'])
  | array [] => ['[', ']']
  | array (item :: items) =>
    '[' :: (newline (level + 1) ++ print (level + 1) item ++ printItems (level + 1) items ++
      newline level ++ [']'])
  | object [] => ['\x7b', '\x7d']
  | object ((key, value) :: members) =>
    '\x7b' :: (newline (level + 1) ++ ('"' :: (key ++ "\": ".toList)) ++ print (level + 1) value ++
      printMembers (level + 1) members ++ newline level ++ ['\x7d'])

def printItems (level : Nat) : List Json → List Char
  | [] => []
  | item :: items => ',' :: (newline level ++ print level item ++ printItems level items)

def printMembers (level : Nat) : List (List Char × Json) → List Char
  | [] => []
  | (key, value) :: members =>
    ',' :: (newline level ++ ('"' :: (key ++ "\": ".toList)) ++ print level value ++
      printMembers level members)

end

def text (j : Json) : String := String.ofList (print 0 j)

end PolarCurve.Json
