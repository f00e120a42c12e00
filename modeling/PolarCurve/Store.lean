/-! A directory tree as a value. Names are relative; their parts stand between slashes. -/

namespace PolarCurve

inductive AccessFault
  | notFound
  | isDirectory
  | notDirectory
  | tooLong
  | zeroInName
  | notText
deriving DecidableEq, Repr

def AccessFault.message : AccessFault → String
  | notFound => "No such file or directory (os error 2)"
  | notDirectory => "Not a directory (os error 20)"
  | isDirectory => "Is a directory (os error 21)"
  | tooLong => "File name too long (os error 36)"
  | zeroInName => "file name contained an unexpected NUL byte"
  | notText => "stream did not contain valid UTF-8"

inductive Entry
  | directory
  | file (content : ByteArray)

structure Store where
  entries : List (List String × Entry)

namespace Store

def empty : Store := ⟨[]⟩

def find? (store : Store) (parts : List String) : Option Entry :=
  if parts = [] then some .directory
  else (store.entries.find? fun e => e.1 = parts).map Prod.snd

def insert (store : Store) (parts : List String) (entry : Entry) : Store :=
  ⟨(parts, entry) :: store.entries.filter fun e => e.1 ≠ parts⟩

def makeDirectory (store : Store) (name : String) : Store := store.insert [name] .directory

def makeDirectories (store : Store) (above : List String) : List String → Store
  | [] => store
  | step :: rest =>
    makeDirectories (store.insert (above ++ [step]) .directory) (above ++ [step]) rest

def cut : List Char → List (List Char)
  | [] => [[]]
  | c :: cs =>
    if c = '/' then [] :: cut cs
    else
      match cut cs with
      | [] => [[c]]
      | part :: parts => (c :: part) :: parts

def steps (name : String) : List String := (cut name.toList).map String.ofList

def stays (step : String) : Bool := step = "" || step = "."

def move (place : List String) (step : String) : List String :=
  if stays step then place else if step = ".." then place.dropLast else place ++ [step]

def maxPart : Nat := 255

def walk (store : Store) (place : List String) :
    List String → Except AccessFault (List String × Entry)
  | [] =>
    match store.find? place with
    | some entry => .ok (place, entry)
    | none => .error .notFound
  | step :: rest =>
    match store.find? place with
    | some .directory =>
      if maxPart < step.utf8ByteSize then .error .tooLong else walk store (move place step) rest
    | some (.file _) => .error .notDirectory
    | none => .error .notFound

def checkName (name : String) : Except AccessFault Unit :=
  if '\x00' ∈ name.toList then .error .zeroInName
  else if name = "" then .error .notFound
  else if 4096 ≤ name.utf8ByteSize then .error .tooLong
  else .ok ()

def lookup (store : Store) (name : String) : Except AccessFault Entry := do
  checkName name
  let (_, entry) ← walk store [] (steps name)
  return entry

def read (store : Store) (name : String) : Except AccessFault ByteArray :=
  match store.lookup name with
  | .ok (.file content) => .ok content
  | .ok .directory => .error .isDirectory
  | .error fault => .error fault

def readText (store : Store) (name : String) : Except AccessFault String :=
  match store.read name with
  | .error fault => .error fault
  | .ok content =>
    match String.fromUTF8? content with
    | some text => .ok text
    | none => .error .notText

/-- The place of a file that may be made. Directories are not made on the way, and a name that ends
in a slash or in a step that names no new place can only mean a directory. -/
def newPlace (store : Store) (name : String) : Except AccessFault (List String) := do
  checkName name
  let backward := (steps name).reverse
  match backward.dropWhile (· = "") with
  | [] => .error .isDirectory
  | last :: above => do
    if last = "." ∨ last = ".." then
      let _ ← walk store [] (last :: above).reverse
      .error .isDirectory
    else
      match ← walk store [] above.reverse with
      | (_, .file _) => .error .notDirectory
      | (place, .directory) =>
        if backward.head? = some "" then .error .isDirectory
        else if maxPart < last.utf8ByteSize then .error .tooLong
        else return place ++ [last]

def write (store : Store) (name : String) (content : ByteArray) : Except AccessFault Store := do
  let place ← store.newPlace name
  match store.find? place with
  | some .directory => .error .isDirectory
  | _ => return store.insert place (.file content)

end Store

end PolarCurve
