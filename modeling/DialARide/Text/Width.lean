import DialARide.Text.CharWidth
import DialARide.Text.Emoji

/-!
# Width of texts

Columns that a text takes on a display. They are those of its characters, except where several
characters are displayed as one: emoji that are joined to others or completed by selectors and
modifiers, and letters that some scripts write into each other. What a character adds depends on
what follows it, so a text is measured from its end.
-/

namespace DialARide.Text

namespace Width

/-! ## 1. Letters written into each other -/

/-- The later part of a group of letters that is written as one. -/
inductive Ligature where
  /-- The Hebrew letter lamed, which joins an alef. -/
  | lamed
  /-- The Buginese letter ya, which joins the vowel sign i on the letter a. -/
  | ya
  /-- The vowel sign i, joined to ya. -/
  | vowelYa
  /-- A Tifinagh consonant, which joins another one. -/
  | consonant
  /-- A Tifinagh consonant with the sign that joins consonants before it. -/
  | signConsonant
  /-- A second Lisu tone letter. -/
  | tone
  /-- The Old Turkic letter i, which joins the letter ec. -/
  | orkhonI
  /-- A Khmer letter that may stand under another one. -/
  | khmerLetter
  deriving DecidableEq, Repr

/-- Marks that are not displayed, and do not separate the letters of a ligature. -/
def ignorableMarks : CharSet where
  ranges := #[
    (0x34f, 0x34f), (0x17b4, 0x17b5), (0x180b, 0x180d), (0x180f, 0x180f), (0xfe00, 0xfe0f),
    (0xe0100, 0xe01ef)]

/-- Arabic letters alef. -/
def alefs : CharSet where
  ranges := #[
    (0x622, 0x623), (0x625, 0x625), (0x627, 0x627), (0x671, 0x673), (0x675, 0x675), (0x773, 0x774),
    (0x870, 0x882)]

/-- Arabic letters lam, which an alef after them is written into. -/
def lams : CharSet where
  ranges := #[
    (0x644, 0x644), (0x6b5, 0x6b8), (0x76a, 0x76a), (0x8a6, 0x8a6), (0x8c7, 0x8c7)]

/-- Characters of no width that keep Arabic letters from being joined. -/
def separators : CharSet where
  ranges := #[
    (0x605, 0x605), (0x890, 0x891), (0x8e2, 0x8e2), (0x9be, 0x9be), (0x9d7, 0x9d7), (0xb3e, 0xb3e),
    (0xb57, 0xb57), (0xbbe, 0xbbe), (0xbd7, 0xbd7), (0xcc0, 0xcc0), (0xcc2, 0xcc2), (0xcc7, 0xcc8),
    (0xcca, 0xccb), (0xcd5, 0xcd6), (0xd3e, 0xd3e), (0xd4e, 0xd4e), (0xd57, 0xd57), (0xdcf, 0xdcf),
    (0xddf, 0xddf), (0x1160, 0x11ff), (0x1715, 0x1715), (0x1734, 0x1734), (0x180e, 0x180e),
    (0x1b35, 0x1b35), (0x1b3b, 0x1b3b), (0x1b3d, 0x1b3d), (0x1b43, 0x1b44), (0x1baa, 0x1baa),
    (0x1bf2, 0x1bf3), (0x200c, 0x200d), (0x2065, 0x2069), (0x302e, 0x302f), (0x3164, 0x3164),
    (0xa8fa, 0xa8fa), (0xa953, 0xa953), (0xa9c0, 0xa9c0), (0xd7b0, 0xd7c6), (0xd7cb, 0xd7fb),
    (0xffa0, 0xffa0), (0xfff0, 0xfff8), (0x111c0, 0x111c0), (0x111c2, 0x111c3), (0x11235, 0x11235),
    (0x1133e, 0x1133e), (0x1134d, 0x1134d), (0x11357, 0x11357), (0x113b8, 0x113b8),
    (0x113c2, 0x113c2), (0x113c5, 0x113c5), (0x113c7, 0x113c9), (0x113cf, 0x113cf),
    (0x113d1, 0x113d1), (0x114b0, 0x114b0), (0x114bd, 0x114bd), (0x115af, 0x115af),
    (0x116b6, 0x116b6), (0x11930, 0x11930), (0x1193d, 0x1193d), (0x1193f, 0x1193f),
    (0x11941, 0x11941), (0x11a3a, 0x11a3a), (0x11a84, 0x11a89), (0x11d46, 0x11d46),
    (0x11f02, 0x11f02), (0x11f41, 0x11f41), (0x16ff0, 0x16ff1), (0x1d165, 0x1d166),
    (0x1d16d, 0x1d172), (0xe0000, 0xe0000), (0xe0002, 0xe001f), (0xe0080, 0xe00ff),
    (0xe01f0, 0xe0fff)]

/-- Khmer letters that may stand under another one. -/
def khmerLetters : CharSet where
  ranges := #[
    (0x1780, 0x1782), (0x1784, 0x1787), (0x1789, 0x178c), (0x178e, 0x1793), (0x1795, 0x1798),
    (0x179b, 0x179d), (0x17a0, 0x17a0), (0x17a2, 0x17a2), (0x17a7, 0x17a7), (0x17ab, 0x17ac),
    (0x17af, 0x17af)]

/-- Whether a character is a Tifinagh consonant. -/
def isConsonant (c : Char) : Bool :=
  0x2d31 ≤ c.toNat && c.toNat ≤ 0x2d65 || c.toNat = 0x2d6f

/-- Whether a character has no width and does not keep Arabic letters from being joined. -/
def isTransparent (c : Char) : Bool := charWidth c = 0 && !separators.contains c

/-! ## 2. What a text begins with -/

/-- What the rest of a text begins with, as far as the character before it may be displayed together
with it. -/
inductive Start where
  | nothing
  | lineFeed
  | emoji
  /-- A modifier, with the emoji that it modifies still to come. -/
  | modifier
  | indicator
  | indicators
  /-- A joiner with an emoji after it, as are the following three. -/
  | joiner
  | keycap
  | flag (indicators : Nat)
  /-- Tags of a flag, which are letters and, before them, digits. -/
  | tags (letters digits : Nat)
  | alef
  /-- A ligature, perhaps with a joiner in front. -/
  | ligature (kind : Ligature) (joined : Bool)
  /-- The vowel signs e and ai of the Kirat Rai script, which may be part of another sign. -/
  | vowelE
  | vowelAi
  deriving DecidableEq, Repr

/-- What a variation selector asks for. -/
inductive Selector where
  | picture
  | sign
  /-- A quotation mark of two columns. -/
  | wideQuote
  deriving DecidableEq, Repr

/-- What a variation selector asks for. -/
def selector? (c : Char) : Option Selector :=
  if c = '\ufe0f' then some .picture
  else if c = '\ufe0e' then some .sign
  else if c = '\ufe01' then some .wideQuote
  else none

/-- What is left of a start before a variation selector. Selectors do not separate letters, and one
for a picture may stand before a joiner. -/
def Start.behind (selector : Selector) : Start → Start
  | alef => alef
  | ligature kind joined => ligature kind joined
  | joiner => if selector = .picture then joiner else nothing
  | keycap => if selector = .picture then keycap else nothing
  | _ => nothing

/-- The front of a text: what it begins with, and a variation selector before that. -/
structure Front where
  start : Start
  selector : Option Selector := none
  deriving DecidableEq, Repr

/-! ## 3. Joining a character to what follows it

The functions of this section say how many columns a character adds before a given start, and what
starts with it. Characters may take columns back that have been counted already. -/

/-- The joiner between emoji and between letters. -/
def joinerMark : Char := '\u200d'

/-- A character that completes a ligature or a part of it. -/
def Ligature.join? (kind : Ligature) (joined : Bool) (c : Char) : Option (Int × Start) :=
  match kind with
  | lamed => if joined ∧ c = '\u05d0' then some (0, .nothing) else none
  | ya => if joined ∧ c = '\u1a17' then some (0, .ligature .vowelYa false) else none
  | vowelYa => if c = '\u1a15' then some (0, .nothing) else none
  | consonant =>
    if c = '\u2d7f' then some (1, .ligature .signConsonant false)
    else if joined ∧ isConsonant c then some (0, .nothing)
    else none
  | signConsonant => if isConsonant c then some (-1, .nothing) else none
  | tone => if 0xa4f8 ≤ c.toNat ∧ c.toNat ≤ 0xa4fb then some (0, .nothing) else none
  | orkhonI => if joined ∧ c.toNat = 0x10c32 then some (0, .nothing) else none
  | khmerLetter => if c = '\u17d2' then some (-1, .nothing) else none

/-- A character before a joiner and an emoji. -/
def joinEmoji? (c : Char) : Option (Int × Start) :=
  if c = '\u20e3' then some (0, .keycap)
  else if Emoji.isIndicator c then some (1, .flag 1)
  else if Emoji.isModifier c then some (0, .modifier)
  else if c.toNat = 0xe007f then some (0, .tags 0 0)
  else if Emoji.pictures.contains c then some (0, .emoji)
  else none

/-- A character before tags: another tag, or the flag that they belong to. A region is named by
letters alone, or by three digits with letters after them. -/
def joinTag? (letters digits : Nat) (c : Char) : Option (Int × Start) :=
  if 0xe0061 ≤ c.toNat ∧ c.toNat ≤ 0xe007a then
    if digits = 0 ∧ letters < 6 then some (0, .tags (letters + 1) 0) else none
  else if 0xe0030 ≤ c.toNat ∧ c.toNat ≤ 0xe0039 then
    if digits < 3 ∧ letters ≤ 4 then some (0, .tags letters (digits + 1)) else none
  else if c.toNat = 0x1f3f4 ∧ (digits = 3 ∨ (digits = 0 ∧ 3 ≤ letters)) then some (0, .emoji)
  else none

/-- A character that is displayed together with what follows it. -/
def Start.join? (start : Start) (c : Char) : Option (Int × Start) :=
  match start with
  | nothing => none
  | lineFeed => none
  | emoji => if c = joinerMark then some (0, joiner) else none
  | modifier =>
    if c = joinerMark then some (0, joiner)
    else if Emoji.modifiable.contains c then some (0, emoji)
    else none
  | indicator => if Emoji.isIndicator c then some (1, indicators) else none
  | indicators =>
    if c = joinerMark then some (0, joiner)
    else if Emoji.isIndicator c then some (1, indicators)
    else none
  | joiner => joinEmoji? c
  | keycap => none
  | flag count =>
    if c = joinerMark ∧ 2 ≤ count then some (0, joiner)
    else if Emoji.isIndicator c then some (if count % 2 = 1 then -1 else 3, flag (count + 1))
    else none
  | tags letters digits => joinTag? letters digits c
  | alef =>
    if lams.contains c then some (0, nothing)
    else if isTransparent c then some (0, alef)
    else none
  | ligature kind joined =>
    if c = joinerMark then some (0, ligature kind true)
    else if ignorableMarks.contains c then some (0, ligature kind joined)
    else kind.join? joined c
  | vowelE =>
    if c.toNat = 0x16d63 ∨ c.toNat = 0x16d69 then some (0, nothing)
    else if c.toNat = 0x16d67 then some (0, vowelAi)
    else if c.toNat = 0x16d68 then some (1, vowelE)
    else none
  | vowelAi => if c.toNat = 0x16d63 then some (0, nothing) else none

/-- What starts with a character, whatever follows it. -/
def startOf (c : Char) : Start :=
  if c = '\n' then .lineFeed
  else if c = '\u05dc' then .ligature .lamed false
  else if alefs.contains c then .alef
  else if khmerLetters.contains c then .ligature .khmerLetter false
  else if c = '\u1a10' then .ligature .ya false
  else if isConsonant c then .ligature .consonant false
  else if c = '\ua4fc' ∨ c = '\ua4fd' then .ligature .tone false
  else if c.toNat = 0x10c03 then .ligature .orkhonI false
  else if c.toNat = 0x16d67 then .vowelE
  else if c.toNat = 0x16d68 then .vowelAi
  else if Emoji.isIndicator c then .indicator
  else if Emoji.isModifier c then .modifier
  else if Emoji.pictures.contains c then .emoji
  else .nothing

/-- A character before a variation selector, if the selector applies to it. -/
def select? (selector : Selector) (start : Start) (c : Char) : Option (Int × Start) :=
  match selector with
  | .picture =>
    if Emoji.selectable.contains c then
      some (if start = .joiner ∨ start = .keycap then 0 else 2, .emoji)
    else none
  | .sign => if Emoji.isNarrowSign c then some (1, .nothing) else none
  | .wideQuote =>
    if c = '\u2018' ∨ c = '\u2019' ∨ c = '\u201c' ∨ c = '\u201d' then some (2, .nothing) else none

/-- Columns that a character adds in front of a text, and the front of the longer text. A carriage
return is one with the line feed after it; other characters of the ASCII range are not displayed
together with what follows them. -/
def step (c : Char) (front : Front) : Int × Front :=
  match front.selector.bind (select? · front.start c) with
  | some (added, start) => (added, ⟨start, none⟩)
  | none =>
    let start := match front.selector with
      | some .picture => front.start.behind .sign
      | _ => front.start
    if c.toNat ≤ 0xa0 then
      (if c = '\r' ∧ start = .lineFeed then 0 else 1, ⟨startOf c, none⟩)
    else match selector? c with
      | some selector => (0, ⟨start.behind selector, some selector⟩)
      | none =>
        match start.join? c with
        | some (added, start) => (added, ⟨start, none⟩)
        | none => ((charWidth c : Int), ⟨startOf c, none⟩)

/-- Columns of a text, and its front. -/
def measure (text : List Char) : Int × Front :=
  text.foldr
    (fun c (columns, front) =>
      let (added, front) := step c front
      (added + columns, front))
    (0, ⟨.nothing, none⟩)

end Width

/-- Columns that a text takes. -/
def width (text : String) : Nat := (Width.measure text.toList).1.toNat

end DialARide.Text
