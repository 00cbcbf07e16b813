/-
What a reader takes for one character may be written as several: a letter
and its accents, the letters of a Hangul syllable, a picture composed of
others.

* `CharClass`: what a character does at the boundary of such a cluster;
* `Opening`: what the characters of a cluster leave open for the next one;
* `Clustering.joins`: whether a character belongs to the cluster before it;
* `clusters`: a text cut into its clusters.

The rules are those of extended grapheme clusters. A character belongs to
the cluster before it if it is a mark, if the cluster so far is a prepended
mark, if both are letters of one Hangul syllable, or if it fills what the
cluster has left open. Control characters stand alone, except that a
carriage return keeps the line feed after it.
-/
import TapeDebugger.Text.Marks
import TapeDebugger.Text.Emoji

namespace TapeDebugger

/-! ### Classes of characters -/

/-- What a character does at the boundary of a cluster. -/
inductive CharClass where
  | other
  | control
  | carriageReturn
  | lineFeed
  /-- A mark that extends the character before it. -/
  | extending
  /-- An extending mark that links two consonants. -/
  | linker
  /-- The extending mark that keeps two consonants apart. -/
  | nonJoiner
  /-- The mark that joins two pictures. -/
  | joiner
  /-- A mark that takes room after the character before it. -/
  | spacing
  /-- A mark that belongs to the character after it. -/
  | prepended
  /-- One of the two letters of a flag. -/
  | flag
  /-- A consonant at the beginning of a Hangul syllable. -/
  | leading
  /-- A vowel of a Hangul syllable. -/
  | vowel
  /-- A consonant at the end of a Hangul syllable. -/
  | trailing
  /-- A whole Hangul syllable that ends in its vowel. -/
  | openSyllable
  /-- A whole Hangul syllable that ends in a consonant. -/
  | closedSyllable
  /-- A character that can be part of a composed picture. -/
  | pictograph
  /-- A consonant that can be linked to another. -/
  | consonant
  deriving DecidableEq, Repr

/-- The letters of flags. -/
def flagCodes : CodeRanges := [(0x1f1e6, 0x1f1ff)]

/-- The Hangul consonants at the beginning of a syllable. -/
def leadingCodes : CodeRanges := [(0x1100, 0x115f), (0xa960, 0xa97c)]

/-- The Hangul vowels, and those of other scripts that combine as they do. -/
def vowelCodes : CodeRanges :=
  [(0x1160, 0x11a7), (0xd7b0, 0xd7c6), (0x16d63, 0x16d63),
    (0x16d67, 0x16d6a)]

/-- The Hangul consonants at the end of a syllable. -/
def trailingCodes : CodeRanges := [(0x11a8, 0x11ff), (0xd7cb, 0xd7fb)]

/-- The whole Hangul syllables. -/
def syllableCodes : CodeRanges := [(0xac00, 0xd7a3)]

/-- The endings of a Hangul syllable, none included. The whole syllables are
in an order in which the ending varies fastest. -/
def syllableEndings : Nat := 28

namespace CharClass

/-- The class of a character that is a mark, `none` for any other. -/
def mark? (code : Nat) : Option CharClass :=
  if code = 0x200d then some joiner
  else if code = 0x200c then some nonJoiner
  else if linkerCodes.has code then some linker
  else if extendingCodes.has code then some extending
  else if spacingCodes.has code then some spacing
  else if prependedCodes.has code then some prepended
  else none

/-- The class of a Hangul letter or syllable, `none` for any other
character. -/
def hangul? (code : Nat) : Option CharClass :=
  if leadingCodes.has code then some leading
  else if vowelCodes.has code then some vowel
  else if trailingCodes.has code then some trailing
  else if syllableCodes.has code then
    some (if (code - 0xac00) % syllableEndings = 0 then openSyllable
      else closedSyllable)
  else none

/-- The class of a base character. -/
def ofBase (code : Nat) : CharClass :=
  if flagCodes.has code then flag
  else if pictographCodes.has code then pictograph
  else if consonantCodes.has code then consonant
  else other

/-- The class of a character. -/
def ofChar (c : Char) : CharClass :=
  if c = '\r' then carriageReturn
  else if c = '\n' then lineFeed
  else if controlCodes.has c.toNat then control
  else (mark? c.toNat).getD ((hangul? c.toNat).getD (ofBase c.toNat))

/-- Whether clusters end on both sides of the character. -/
def standsAlone (k : CharClass) : Bool :=
  k == control || k == carriageReturn || k == lineFeed

/-- Whether the character belongs to whatever is before it. -/
def follows (k : CharClass) : Bool :=
  k == extending || k == linker || k == nonJoiner || k == joiner
    || k == spacing

/-- Whether two neighbours are letters of one Hangul syllable. -/
def sameSyllable : (before after : CharClass) → Bool
  | leading, k => k == leading || k == vowel || k == openSyllable
      || k == closedSyllable
  | vowel, k | openSyllable, k => k == vowel || k == trailing
  | trailing, k | closedSyllable, k => k == trailing
  | _, _ => false

end CharClass

/-! ### Clusters -/

/-- What the characters of a cluster leave open for the next one. -/
inductive Opening where
  | nothing
  /-- A pictograph, which a joiner may follow. -/
  | picture
  /-- A pictograph and a joiner, which another pictograph may follow. -/
  | joinedPicture
  /-- The first letter of a flag. -/
  | halfFlag
  /-- A consonant, which a linker may follow. -/
  | consonant
  /-- A consonant and a linker, which another consonant may follow. -/
  | linkedConsonant
  deriving DecidableEq, Repr

namespace Opening

/-- What is open after one more character of the cluster. -/
def next (o : Opening) : CharClass → Opening
  | .pictograph => picture
  | .consonant => consonant
  | .flag => if o = halfFlag then nothing else halfFlag
  | .extending =>
      match o with
      | picture => picture
      | consonant => consonant
      | linkedConsonant => linkedConsonant
      | _ => nothing
  | .nonJoiner =>
      match o with
      | picture => picture
      | _ => nothing
  | .linker =>
      match o with
      | picture => picture
      | consonant | linkedConsonant => linkedConsonant
      | _ => nothing
  | .joiner =>
      match o with
      | picture => joinedPicture
      | consonant => consonant
      | linkedConsonant => linkedConsonant
      | _ => nothing
  | _ => nothing

/-- Whether a character fills what is open. -/
def filledBy : Opening → CharClass → Bool
  | joinedPicture, k => k == .pictograph
  | halfFlag, k => k == .flag
  | linkedConsonant, k => k == .consonant
  | _, _ => false

end Opening

/-- The clusters of a text up to some character. The last one is still
growing. Clusters and the characters of the last one are in reverse order. -/
structure Clustering where
  done : List (List Char) := []
  chars : List Char := []
  /-- The class of the last character. -/
  last : CharClass := .control
  opening : Opening := .nothing

namespace Clustering

/-- The clusters with the last one among them. -/
def finished (x : Clustering) : List (List Char) :=
  if x.chars.isEmpty then x.done else x.chars.reverse :: x.done

/-- Whether a character of the given class belongs to the last cluster. -/
def joins (x : Clustering) (k : CharClass) : Bool :=
  if x.last.standsAlone || k.standsAlone then
    x.last == .carriageReturn && k == .lineFeed
  else
    k.follows || x.last == .prepended || x.last.sameSyllable k
      || x.opening.filledBy k

/-- Adds a character, to the last cluster or as a new one. -/
def add (x : Clustering) (c : Char) : Clustering :=
  let k := CharClass.ofChar c
  if x.joins k then
    { x with chars := c :: x.chars, last := k, opening := x.opening.next k }
  else
    { done := x.finished
      chars := [c]
      last := k
      opening := Opening.nothing.next k }

end Clustering

/-- A text cut into its clusters. -/
def clusters (chars : List Char) : List (List Char) :=
  (chars.foldl Clustering.add {}).finished.reverse

end TapeDebugger
