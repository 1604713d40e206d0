import CardQuery.Text.Conjunct
import CardQuery.Text.GraphemeExtend
import CardQuery.Text.Pictograph
import CardQuery.Text.SpacingMark

/-!
Extended grapheme clusters: the pieces of a text that a reader takes for one character each. Where a
cluster ends is decided by its characters so far and the one after them (`joins`).
-/

set_option autoImplicit false
set_option relaxedAutoImplicit false

namespace CardQuery.Text

/-- How a character takes part in clusters. A linker and the one character that keeps consonants
apart extend a cluster like any other mark. -/
inductive ClusterClass where
  | carriageReturn
  | lineFeed
  | control
  | prepended
  | extending
  | linker
  | separator
  | joiner
  | spacing
  | leadingJamo
  | vowelJamo
  | trailingJamo
  | openSyllable
  | closedSyllable
  | regional
  | pictograph
  | consonant
  | other
deriving DecidableEq

/-! ### Classes of characters -/

/-- Characters that stand alone whatever is around them. -/
def clusterControl : CodePointSet :=
  ⟨[(0x0, 0x1f), (0x7f, 0x9f), (0xad, 0xad), (0x61c, 0x61c), (0x180e, 0x180e), (0x200b, 0x200b),
    (0x200e, 0x200f), (0x2028, 0x202e), (0x2060, 0x206f), (0xfeff, 0xfeff), (0xfff0, 0xfffb),
    (0x13430, 0x1343f), (0x1bca0, 0x1bca3), (0x1d173, 0x1d17a), (0xe0000, 0xe001f),
    (0xe0080, 0xe00ff), (0xe01f0, 0xe0fff)]⟩

/-- Characters that belong to the one after them. -/
def clusterPrepended : CodePointSet :=
  ⟨[(0x600, 0x605), (0x6dd, 0x6dd), (0x70f, 0x70f), (0x890, 0x891), (0x8e2, 0x8e2), (0xd4e, 0xd4e),
    (0x110bd, 0x110bd), (0x110cd, 0x110cd), (0x111c2, 0x111c3), (0x113d1, 0x113d1),
    (0x1193f, 0x1193f), (0x11941, 0x11941), (0x11a84, 0x11a89), (0x11d46, 0x11d46),
    (0x11f02, 0x11f02)]⟩

/-- The modifiers of skin colour, which extend an emoji. -/
def emojiModifier : CodePointSet := ⟨[(0x1f3fb, 0x1f3ff)]⟩

def regionalIndicator : CodePointSet := ⟨[(0x1f1e6, 0x1f1ff)]⟩

def leadingJamo : CodePointSet := ⟨[(0x1100, 0x115f), (0xa960, 0xa97c)]⟩

def vowelJamo : CodePointSet :=
  ⟨[(0x1160, 0x11a7), (0xd7b0, 0xd7c6), (0x16d63, 0x16d63), (0x16d67, 0x16d6a)]⟩

def trailingJamo : CodePointSet := ⟨[(0x11a8, 0x11ff), (0xd7cb, 0xd7fb)]⟩

def hangulSyllable : CodePointSet := ⟨[(0xac00, 0xd7a3)]⟩

/-- The class of a mark that extends a cluster. -/
def markClass (character : Char) : ClusterClass :=
  if character.toNat = 0x200c then .separator
  else if conjunctLinker.contains character then .linker
  else .extending

/-- The syllables of Hangul stand in groups of 28, of which the first is open. -/
def syllableClass (character : Char) : ClusterClass :=
  if (character.toNat - 0xac00) % 28 = 0 then .openSyllable else .closedSyllable

def clusterClass (character : Char) : ClusterClass :=
  if character = '\r' then .carriageReturn
  else if character = '\n' then .lineFeed
  else if clusterControl.contains character then .control
  else if character.toNat < 0x80 then .other
  else if character.toNat = 0x200d then .joiner
  else if graphemeExtend.contains character || emojiModifier.contains character then
    markClass character
  else if spacingMark.contains character then .spacing
  else if clusterPrepended.contains character then .prepended
  else if hangulSyllable.contains character then syllableClass character
  else if leadingJamo.contains character then .leadingJamo
  else if vowelJamo.contains character then .vowelJamo
  else if trailingJamo.contains character then .trailingJamo
  else if regionalIndicator.contains character then .regional
  else if pictograph.contains character then .pictograph
  else if conjunctConsonant.contains character then .consonant
  else .other

/-! ### Where clusters go on -/

namespace ClusterClass

def isControl : ClusterClass → Bool
  | carriageReturn | lineFeed | control => true
  | _ => false

def isExtending : ClusterClass → Bool
  | extending | linker | separator => true
  | _ => false

/-- Marks belong to whatever they follow. -/
def isMark : ClusterClass → Bool
  | joiner | spacing => true
  | kind => kind.isExtending

/-- Marks that may stand between the consonants of a conjunct. -/
def isConjunctMark : ClusterClass → Bool
  | extending | linker | joiner => true
  | _ => false

/-- The second carries the Hangul syllable of the first on. -/
def continuesSyllable : ClusterClass → ClusterClass → Bool
  | leadingJamo, leadingJamo | leadingJamo, vowelJamo | leadingJamo, openSyllable
  | leadingJamo, closedSyllable | openSyllable, vowelJamo | openSyllable, trailingJamo
  | vowelJamo, vowelJamo | vowelJamo, trailingJamo | closedSyllable, trailingJamo
  | trailingJamo, trailingJamo => true
  | _, _ => false

/-! The classes of a cluster are given last first. -/

/-- A consonant, marks after it, and among them a linker. -/
def endsLinked (classes : List ClusterClass) : Bool :=
  (classes.takeWhile isConjunctMark).contains linker &&
    (classes.dropWhile isConjunctMark).head? == some consonant

/-- A pictograph, marks that extend it, and a joiner at the end. -/
def endsJoined : List ClusterClass → Bool
  | joiner :: earlier => (earlier.dropWhile isExtending).head? == some pictograph
  | _ => false

/-- Regional indicators make pairs, and the last one has no partner yet. -/
def endsUnpaired (classes : List ClusterClass) : Bool :=
  (classes.takeWhile (· == regional)).length % 2 == 1

/-- A cluster whose characters have the classes goes on with a character of class `next`. -/
def joins (classes : List ClusterClass) (next : ClusterClass) : Bool :=
  match classes with
  | [] => true
  | last :: _ =>
    if last.isControl || next.isControl then last == carriageReturn && next == lineFeed
    else
      next.isMark || last == prepended || continuesSyllable last next ||
        next == consonant && endsLinked classes || next == pictograph && endsJoined classes ||
        next == regional && endsUnpaired classes

end ClusterClass

/-! ### Clusters -/

/-- The clusters of a text that begins with the characters of `cluster`, which are given last
first. -/
def clustersAfter (cluster : List (Char × ClusterClass)) : List Char → List (List Char)
  | [] => [(cluster.map Prod.fst).reverse]
  | next :: rest =>
    if ClusterClass.joins (cluster.map Prod.snd) (clusterClass next) then
      clustersAfter ((next, clusterClass next) :: cluster) rest
    else (cluster.map Prod.fst).reverse :: clustersAfter [(next, clusterClass next)] rest

/-- The clusters of a text. -/
def clusters : List Char → List (List Char)
  | [] => []
  | first :: rest => clustersAfter [(first, clusterClass first)] rest

end CardQuery.Text
