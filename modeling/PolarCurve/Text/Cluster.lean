import PolarCurve.Text.BreakClass

/-! A text is cut before every character that does not join what stands before it. -/

namespace PolarCurve.Text

/-- What a text ends with. An open flag is an odd number of regional indicators, a joined picture has a
joiner behind it, and a linked consonant a linker. -/
structure Ending where
  last : Char
  kind : BreakClass
  openFlag : Bool
  picture : Bool
  joinedPicture : Bool
  consonant : Bool
  linkedConsonant : Bool

namespace Ending

def single (c : Char) : Ending where
  last := c
  kind := breakClass c
  openFlag := breakClass c = .region
  picture := breakClass c = .picture
  joinedPicture := false
  consonant := breakClass c = .consonant
  linkedConsonant := false

def keepsConjunct (c : Char) (kind : BreakClass) : Bool :=
  kind = .joiner || (kind = .extend && c ≠ nonJoiner)

def step (e : Ending) (c : Char) : Ending :=
  let kind := breakClass c
  let keeps := keepsConjunct c kind
  { last := c
    kind := kind
    openFlag := kind = .region && !e.openFlag
    picture := kind = .picture || (kind = .extend && e.picture)
    joinedPicture := kind = .joiner && e.picture
    consonant := kind = .consonant || (keeps && e.consonant)
    linkedConsonant := keeps && e.consonant && (e.linkedConsonant || isLinker c) }

def joinsSyllable : BreakClass → BreakClass → Bool
  | .initialConsonant, .initialConsonant | .initialConsonant, .vowel
  | .initialConsonant, .openSyllable | .initialConsonant, .closedSyllable => true
  | .openSyllable, .vowel | .openSyllable, .finalConsonant => true
  | .vowel, .vowel | .vowel, .finalConsonant => true
  | .closedSyllable, .finalConsonant | .finalConsonant, .finalConsonant => true
  | _, _ => false

/-- Whether a character joins what stands before it. Nothing joins a control or is joined by one,
save a line feed behind a carriage return. -/
def joins (e : Ending) (c : Char) : Bool :=
  let kind := breakClass c
  if e.kind = .control ∨ kind = .control then e.last = '\r' && c = '\n'
  else
    kind = .extend || kind = .joiner || kind = .spacing || e.kind = .leading ||
      joinsSyllable e.kind kind ||
      (e.linkedConsonant && kind = .consonant) ||
      (e.joinedPicture && kind = .picture) ||
      (e.openFlag && kind = .region)

end Ending

def cutClusters (e : Ending) (begun : List Char) : List Char → List (List Char)
  | [] => [begun.reverse]
  | c :: cs =>
    if e.joins c then cutClusters (e.step c) (c :: begun) cs
    else begun.reverse :: cutClusters (e.step c) [c] cs

def clusters : List Char → List (List Char)
  | [] => []
  | c :: cs => cutClusters (Ending.single c) [c] cs

theorem flatten_cutClusters (e : Ending) (begun cs : List Char) :
    (cutClusters e begun cs).flatten = begun.reverse ++ cs := by
  induction cs generalizing e begun with
  | nil => simp [cutClusters]
  | cons c cs ih =>
    rw [cutClusters]
    split <;> simp [ih]

theorem flatten_clusters (cs : List Char) : (clusters cs).flatten = cs := by
  cases cs with
  | nil => rfl
  | cons c cs => simp [clusters, flatten_cutClusters]

end PolarCurve.Text
