import InjectionLint.Text.Blank
import InjectionLint.Text.Width.Table

/-!
The number of terminal columns that a text fills. Most characters fill the columns that the tables give
them. Some sequences fill fewer: emoji with selectors, skin tones and joiners are one emoji of two
columns, some scripts join letters to one, and a carriage return before a line feed adds nothing. The
text is read from its end, so that a character is met when what follows it is known.
-/

set_option autoImplicit false

namespace InjectionLint.Text

inductive Presentation where
  | text
  | emoji
  deriving DecidableEq, Repr

inductive Ligature where
  | lamed
  | buginese
  | bugineseVowel
  | tifinagh
  | tifinaghJoiner
  | lisuTone
  | orkhon
  | khmer
  | kiratE
  | kiratAI
  deriving DecidableEq, Repr

inductive Following where
  | plain
  | lineFeed
  | skinTone
  | flagHalf
  | flagHalves
  | emoji
  /-- A joiner and an emoji; the emoji before the joiner adds no columns. -/
  | joinedEmoji
  | joinedKeycap
  | joinedFlagHalf
  | joinedFlagEven
  | joinedFlagOdd
  | joinedTags (letters digits : Nat)
  | alef
  | letter (ligature : Ligature) (joined : Bool)
  deriving DecidableEq, Repr

/-- Columns counted so far, and what a selector and the character read last ask of the next one. -/
structure Columns where
  count : Int
  following : Following
  selector : Option Presentation
  deriving DecidableEq, Repr

namespace Columns

def start : Columns := ⟨0, .plain, none⟩

def add (columns : Columns) (count : Int) (following : Following) : Columns :=
  ⟨columns.count + count, following, none⟩

/-- A selector is read. It keeps a sequence that is still open and ends any other. -/
def select (columns : Columns) (presentation : Presentation) : Columns :=
  match columns.following, presentation with
  | .letter ligature joined, _ => ⟨columns.count, .letter ligature joined, some presentation⟩
  | .alef, _ => ⟨columns.count, .alef, some presentation⟩
  | .joinedEmoji, .emoji => ⟨columns.count, .joinedEmoji, some .emoji⟩
  | .joinedKeycap, .emoji => ⟨columns.count, .joinedKeycap, some .emoji⟩
  | _, _ => ⟨columns.count, .plain, some presentation⟩

/-- The selector found no character that it applies to. Only letters survive that. -/
def unselect (columns : Columns) : Columns :=
  match columns.selector, columns.following with
  | none, _ => columns
  | some _, .letter ligature joined => ⟨columns.count, .letter ligature joined, none⟩
  | some _, .alef => ⟨columns.count, .alef, none⟩
  | some _, _ => ⟨columns.count, .plain, none⟩

end Columns

def isFlagHalf (c : Char) : Bool :=
  0x1F1E6 ≤ c.toNat && c.toNat ≤ 0x1F1FF

def isSkinTone (c : Char) : Bool :=
  0x1F3FB ≤ c.toNat && c.toNat ≤ 0x1F3FF

def isEmojiPresentation (c : Char) : Bool :=
  within WidthTable.emojiPresentation c.toNat

def lams : List (Nat × Nat) :=
  [(0x644, 0x644), (0x6B5, 0x6B8), (0x76A, 0x76A), (0x8A6, 0x8A6), (0x8C7, 0x8C7)]

def alefs : List (Nat × Nat) :=
  [(0x622, 0x623), (0x625, 0x625), (0x627, 0x627), (0x671, 0x673), (0x675, 0x675), (0x773, 0x774),
   (0x870, 0x882)]

def coengLetters : List (Nat × Nat) :=
  [(0x1780, 0x1782), (0x1784, 0x1787), (0x1789, 0x178C), (0x178E, 0x1793), (0x1795, 0x1798),
   (0x179B, 0x179D), (0x17A0, 0x17A0), (0x17A2, 0x17A2), (0x17A7, 0x17A7), (0x17AB, 0x17AC),
   (0x17AF, 0x17AF)]

def tifinaghConsonants : List (Nat × Nat) :=
  [(0x2D31, 0x2D65), (0x2D6F, 0x2D6F)]

def charColumns (c : Char) : Nat :=
  if c.toNat ≤ 0xA0 then 1
  else if c.toNat = 0x17D8 then 3
  else if within WidthTable.zeroWidth c.toNat then 0
  else if within WidthTable.wide c.toNat then 2
  else 1

def followingOf (c : Char) : Following :=
  let point := c.toNat
  if point = 0xA then .lineFeed
  else if point = 0x5DC then .letter .lamed false
  else if within alefs point then .alef
  else if within coengLetters point then .letter .khmer false
  else if point = 0x1A10 then .letter .buginese false
  else if within tifinaghConsonants point then .letter .tifinagh false
  else if point = 0xA4FC || point = 0xA4FD then .letter .lisuTone false
  else if point = 0x10C03 then .letter .orkhon false
  else if point = 0x16D67 then .letter .kiratE false
  else if point = 0x16D68 then .letter .kiratAI false
  else if isFlagHalf c then .flagHalf
  else if isSkinTone c then .skinTone
  else if isEmojiPresentation c then .emoji
  else .plain

def joinLetter? (point : Nat) : Ligature → Bool → Option (Int × Following)
  | .lamed, joined => if joined && point = 0x5D0 then some (0, .plain) else none
  | .khmer, _ => if point = 0x17D2 then some (-1, .plain) else none
  | .buginese, joined =>
    if joined && point = 0x1A17 then some (0, .letter .bugineseVowel true) else none
  | .bugineseVowel, _ => if point = 0x1A15 then some (0, .plain) else none
  | .tifinagh, joined =>
    if point = 0x2D7F then some (1, .letter .tifinaghJoiner true)
    else if joined && within tifinaghConsonants point then some (0, .plain)
    else none
  | .tifinaghJoiner, _ => if within tifinaghConsonants point then some (-1, .plain) else none
  | .lisuTone, _ => if 0xA4F8 ≤ point && point ≤ 0xA4FB then some (0, .plain) else none
  | .orkhon, joined => if joined && point = 0x10C32 then some (0, .plain) else none
  | .kiratE, _ =>
    if point = 0x16D63 || point = 0x16D69 then some (0, .plain)
    else if point = 0x16D67 then some (0, .letter .kiratAI false)
    else if point = 0x16D68 then some (1, .letter .kiratE false)
    else none
  | .kiratAI, _ => if point = 0x16D63 then some (0, .plain) else none

def joinTags? (point letters digits : Nat) : Option (Int × Following) :=
  if 0xE0061 ≤ point && point ≤ 0xE007A && digits = 0 && letters < 6 then
    some (0, .joinedTags (letters + 1) 0)
  else if 0xE0030 ≤ point && point ≤ 0xE0039 && digits < 3 && (digits ≠ 0 || letters ≤ 4) then
    some (0, .joinedTags letters (digits + 1))
  else if point = 0x1F3F4 && (digits = 3 || digits = 0 && 3 ≤ letters) then some (0, .emoji)
  else none

def join? (c : Char) (following : Following) : Option (Int × Following) :=
  let point := c.toNat
  match following with
  | .plain | .lineFeed => none
  | .letter ligature joined =>
    if point = 0x200D then some (0, .letter ligature true)
    else if within WidthTable.ignorableMark point then some (0, .letter ligature joined)
    else joinLetter? point ligature joined
  | .alef =>
    if within lams point then some (0, .plain)
    else if within WidthTable.joiningTransparent point then some (0, .alef)
    else none
  | .skinTone =>
    if within WidthTable.modifierBase point then some (0, .emoji)
    else if point = 0x200D then some (0, .joinedEmoji)
    else none
  | .flagHalf => if isFlagHalf c then some (1, .flagHalves) else none
  | .flagHalves =>
    if isFlagHalf c then some (1, .flagHalves)
    else if point = 0x200D then some (0, .joinedEmoji)
    else none
  | .emoji => if point = 0x200D then some (0, .joinedEmoji) else none
  | .joinedEmoji =>
    if point = 0x20E3 then some (0, .joinedKeycap)
    else if isFlagHalf c then some (1, .joinedFlagHalf)
    else if isSkinTone c then some (0, .skinTone)
    else if point = 0xE007F then some (0, .joinedTags 0 0)
    else if isEmojiPresentation c then some (0, .emoji)
    else none
  | .joinedKeycap => none
  | .joinedFlagHalf => if isFlagHalf c then some (-1, .joinedFlagEven) else none
  | .joinedFlagEven =>
    if isFlagHalf c then some (3, .joinedFlagOdd)
    else if point = 0x200D then some (0, .joinedEmoji)
    else none
  | .joinedFlagOdd =>
    if isFlagHalf c then some (-1, .joinedFlagEven)
    else if point = 0x200D then some (0, .joinedEmoji)
    else none
  | .joinedTags letters digits => joinTags? point letters digits

/-- Measure one character more, the text being read from its end. -/
def measure (c : Char) (columns : Columns) : Columns :=
  if columns.selector = some .emoji && within WidthTable.emojiBase c.toNat then
    let joined := columns.following = .joinedEmoji || columns.following = .joinedKeycap
    columns.add (if joined then 0 else 2) .emoji
  else if columns.selector = some .text && within WidthTable.textBase c.toNat then
    columns.add 1 .plain
  else
    let columns := columns.unselect
    if c.toNat ≤ 0xA0 then
      if c = '\n' then columns.add 1 .lineFeed
      else if c = '\r' && columns.following = .lineFeed then columns.add 0 .plain
      else columns.add 1 .plain
    else if c.toNat = 0xFE0F then columns.select .emoji
    else if c.toNat = 0xFE0E then columns.select .text
    else
      match join? c columns.following with
      | some (count, following) => columns.add count following
      | none => columns.add (charColumns c) (followingOf c)

def displayWidth (text : List Char) : Nat :=
  (text.foldr measure .start).count.toNat

end InjectionLint.Text
