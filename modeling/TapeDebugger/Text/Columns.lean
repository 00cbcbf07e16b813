/-
How many columns of the screen a text takes:

* `columns`: the columns of a character by itself;
* `Follower`: what stands behind a character of a cluster;
* `Follower.before`: the columns that the character adds in front of it;
* `symbolColumns`: the columns of a cluster of characters;
* `isControl`: the control characters, which some panes replace.

The columns of a cluster are those of its characters, except that a picture
takes two columns however it is composed, and that a Khmer letter below
another takes none. A selector may ask for the picture or for the text form
of the character before it, a skin tone belongs to the person before it, and
a joiner makes one picture of two.
-/
import TapeDebugger.Text.Widths
import TapeDebugger.Text.Cluster

namespace TapeDebugger

/-! ### Single characters -/

/-- The columns of a character by itself. Two Khmer signs stand for two and
for three letters. -/
def columns (c : Char) : Nat :=
  if columnlessCodes.has c.toNat then 0
  else if c.toNat = 0x17d8 then 3
  else if c.toNat = 0x17a4 || wideCodes.has c.toNat then 2
  else 1

/-- Whether a character is a control character: U+0000 to U+001F and U+007F
to U+009F. -/
def isControl (c : Char) : Bool :=
  c.toNat < 0x20 || (0x7f ≤ c.toNat && c.toNat < 0xa0)

/-! ### Marks within a cluster -/

/-- The mark that makes one picture of its two neighbours. -/
def joiner : Char := Char.ofNat 0x200d

/-- The selector of the text form of a picture. -/
def textForm : Char := Char.ofNat 0xfe0e

/-- The selector of the picture. -/
def pictureForm : Char := Char.ofNat 0xfe0f

/-- The frame around the character on a key. -/
def keycap : Char := Char.ofNat 0x20e3

/-- The flag whose region is spelled out by the tags behind it. -/
def taggedFlag : Char := Char.ofNat 0x1f3f4

/-- The tag that ends the spelling of a region. -/
def endTag : Char := Char.ofNat 0xe007f

/-- The codes of the tags that spell letters. -/
def letterTagCodes : CodeRanges := [(0xe0061, 0xe007a)]

/-- The codes of the tags that spell digits. -/
def digitTagCodes : CodeRanges := [(0xe0030, 0xe0039)]

/-- The sign that puts the next Khmer letter below the one before it. -/
def coeng : Char := Char.ofNat 0x17d2

/-- The codes of the Khmer letters that fit below another. -/
def coengLetterCodes : CodeRanges :=
  [(0x1780, 0x1782), (0x1784, 0x1787), (0x1789, 0x178c), (0x178e, 0x1793),
    (0x1795, 0x1798), (0x179b, 0x179d), (0x17a0, 0x17a0), (0x17a2, 0x17a2),
    (0x17a7, 0x17a7), (0x17ab, 0x17ac), (0x17af, 0x17af)]

/-- The codes of invisible marks within a cluster, other than the joiner and
the selectors of text and picture. -/
def invisibleMarkCodes : CodeRanges :=
  [(0x34f, 0x34f), (0x17b4, 0x17b5), (0x180b, 0x180d), (0x180f, 0x180f),
    (0xfe00, 0xfe0d), (0xe0100, 0xe01ef)]

/-! ### Columns of clusters -/

/-- What stands behind a character of a cluster, as far as it changes the
columns of the character. -/
inductive Follower where
  | plain
  /-- The selector of the text form. -/
  | textSelector
  /-- The selector of the picture, which may itself stand before a joiner
  and a picture. -/
  | pictureSelector (joined : Bool)
  | picture
  /-- A skin tone. -/
  | modifier
  /-- A joiner and a picture. -/
  | joined
  /-- The frame of a key, a joiner and a picture. -/
  | joinedKeycap
  /-- A letter of a flag, a joiner and a picture. -/
  | joinedFlag
  /-- The end of the spelling of a region, a joiner and a picture. The
  spelling is read backwards, and so many letters and then digits of it are
  known. -/
  | joinedTags (letters digits : Nat)
  /-- A Khmer letter that fits below another, and whether no invisible mark
  separates it from what is before it. -/
  | coengLetter (adjacent : Bool)
  deriving DecidableEq, Repr

namespace Follower

/-- What a character adds by itself, and what it is for the one before
it. -/
def alone (c : Char) : Int × Follower :=
  if c = pictureForm then (0, pictureSelector false)
  else if c = textForm then (0, textSelector)
  else if modifierCodes.has c.toNat then (2, modifier)
  else if pictureCodes.has c.toNat then (columns c, picture)
  else if coengLetterCodes.has c.toNat then (columns c, coengLetter true)
  else (columns c, plain)

/-- What a character adds before a selector of its picture. -/
def beforeSelector (isJoined : Bool) (c : Char) : Int × Follower :=
  if selectableCodes.has c.toNat then (if isJoined then 0 else 2, picture)
  else alone c

/-- What a character adds before a joiner and a picture: nothing if it is
the last character of another picture. -/
def beforeJoined (c : Char) : Int × Follower :=
  if c = pictureForm then (0, pictureSelector true)
  else if c = keycap then (0, joinedKeycap)
  else if c = endTag then (0, joinedTags 0 0)
  else if flagCodes.has c.toNat then (1, joinedFlag)
  else if modifierCodes.has c.toNat then (0, modifier)
  else if pictureCodes.has c.toNat then (0, picture)
  else alone c

/-- What a character adds before the tags of a region. A region has three to
six letters, or at most four letters after three digits. -/
def beforeTags (letters digits : Nat) (c : Char) : Int × Follower :=
  if digits = 0 ∧ letters < 6 ∧ letterTagCodes.has c.toNat then
    (0, joinedTags (letters + 1) 0)
  else if letters ≤ 4 ∧ digits < 3 ∧ digitTagCodes.has c.toNat then
    (0, joinedTags letters (digits + 1))
  else if c = taggedFlag ∧ (digits = 3 ∨ digits = 0 ∧ 3 ≤ letters) then
    (0, picture)
  else alone c

/-- What a character adds before a Khmer letter. The sign that puts the
letter below the one before it takes the column of the letter back. -/
def beforeCoengLetter (adjacent : Bool) (c : Char) : Int × Follower :=
  if c = pictureForm ∨ c = textForm then (0, coengLetter adjacent)
  else if c = joiner then (0, coengLetter true)
  else if invisibleMarkCodes.has c.toNat then (0, coengLetter false)
  else if adjacent ∧ c = coeng then (-1, plain)
  else alone c

/-- What a character adds to the columns of a cluster before `f`, and what
it is for the one before it. -/
def before (f : Follower) (c : Char) : Int × Follower :=
  match f with
  | plain => alone c
  | textSelector =>
      if textFormCodes.has c.toNat then (1, plain) else alone c
  | pictureSelector isJoined => beforeSelector isJoined c
  | picture => if c = joiner then (0, joined) else alone c
  | modifier =>
      if c = joiner then (0, joined)
      else if modifierBaseCodes.has c.toNat then (0, picture)
      else alone c
  | joined => beforeJoined c
  | joinedKeycap =>
      if c = pictureForm then (0, pictureSelector true) else alone c
  | joinedFlag => if flagCodes.has c.toNat then (-1, plain) else alone c
  | joinedTags letters digits => beforeTags letters digits c
  | coengLetter adjacent => beforeCoengLetter adjacent c

end Follower

/-- The columns of a cluster. The end of a line takes none. -/
def symbolColumns (symbol : List Char) : Nat :=
  if symbol.getLast? = some '\n' then 0
  else
    (symbol.foldr
      (fun c (n, f) => let (k, f) := Follower.before f c; (k + n, f))
      ((0 : Int), Follower.plain)).1.toNat

end TapeDebugger
