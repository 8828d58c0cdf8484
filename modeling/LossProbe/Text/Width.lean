import LossProbe.Text.Table.Emoji
import LossProbe.Text.Table.Extending
import LossProbe.Text.Table.Ignorable
import LossProbe.Text.Table.Wide

/-! # Columns that a text fills

Most characters fill one column of a terminal. Marks that are drawn upon others fill none, and the
characters of East Asian scripts and pictures fill two. Some characters are drawn as one with those
behind them: a picture with a skin tone, pictures joined to one, two halves of a flag, a line end of
two characters, and the ligatures of a few scripts. So a text is measured from its end: `step` says
how many columns a character adds to what stands behind it. -/

namespace LossProbe.Text

/-- A part of something that is drawn as one, where its other parts may stand before it. -/
inductive Part where
  | none
  | lineFeed
  | picture
  | skinTone
  /-- Half of a flag. -/
  | indicator
  /-- Halves of flags, at least two. -/
  | indicators
  /-- A joiner before a picture. -/
  | joined
  /-- The frame of a key, before a joiner and a picture. -/
  | joinedKey
  /-- Halves of flags before a joiner and a picture: one, an even number, an odd number. -/
  | joinedIndicator
  | joinedEven
  | joinedOdd
  | alef
  /-- A letter that makes a ligature with another one, perhaps behind a joiner. -/
  | lamed (joiner : Bool)
  | ya (joiner : Bool)
  | yaVowel
  | tifinagh (joiner : Bool)
  | tifinaghJoined
  | turkicI (joiner : Bool)
  | lisuTone
  | coengLetter
  | kiratE
  | kiratAi
deriving DecidableEq, Repr

namespace Part

/-- Whether selectors may stand inside of the ligature. -/
def isLigature : Part → Bool
  | alef | lamed _ | ya _ | yaVowel | tifinagh _ | tifinaghJoined | turkicI _ | lisuTone
  | coengLetter => true
  | _ => false

/-- Whether a joiner may stand in front of a part of a picture. -/
def isJoinable : Part → Bool
  | picture | skinTone | indicators | joinedEven | joinedOdd => true
  | _ => false

/-- Whether the part is a picture that one in front of it is joined to. -/
def isJoined : Part → Bool
  | joined | joinedKey => true
  | _ => false

/-- The part behind a joiner. -/
def withJoiner : Part → Part
  | lamed _ => lamed true
  | ya _ => ya true
  | tifinagh _ => tifinagh true
  | turkicI _ => turkicI true
  | p => p

end Part

/-- A choice between two ways of drawing the character before it. -/
inductive Selector where
  | picture
  | text
deriving DecidableEq, Repr

/-- What stands behind a character. -/
structure Behind where
  part : Part := .none
  selector : Option Selector := none
deriving DecidableEq, Repr

namespace Behind

/-- Without the selector, which did not find its character. -/
def drop (b : Behind) : Behind :=
  match b.selector with
  | some _ => ⟨if b.part.isLigature then b.part else .none, none⟩
  | none => b

/-- With a selector in front. -/
def select (b : Behind) : Selector → Behind
  | .picture => ⟨if b.part.isLigature || b.part.isJoined then b.part else .none, some .picture⟩
  | .text => ⟨if b.part.isLigature then b.part else .none, some .text⟩

end Behind

/-- Whether a number is in a range. -/
def within (first last : Nat) (c : Char) : Bool := first ≤ c.toNat && c.toNat ≤ last

def isIndicator (c : Char) : Bool := within 0x1f1e6 0x1f1ff c

def isSkinTone (c : Char) : Bool := within 0x1f3fb 0x1f3ff c

def isTifinagh (c : Char) : Bool := within 0x2d31 0x2d65 c || c = '\u2d6f'

/-- Letters that can be written below another one. -/
def isCoengLetter (c : Char) : Bool :=
  within 0x1780 0x1782 c || within 0x1784 0x1787 c || within 0x1789 0x178c c ||
    within 0x178e 0x1793 c || within 0x1795 0x1798 c || within 0x179b 0x179d c ||
    ['\u17a0', '\u17a2', '\u17a7', '\u17ab', '\u17ac', '\u17af'].contains c

def isAlef (c : Char) : Bool :=
  within 0x622 0x623 c || ['\u0625', '\u0627', '\u0675'].contains c || within 0x671 0x673 c ||
    within 0x773 0x774 c || within 0x870 0x882 c

def isLam (c : Char) : Bool :=
  ['\u0644', '\u076a', '\u08a6', '\u08c7'].contains c || within 0x6b5 0x6b8 c

/-- Marks that do not interrupt a ligature. -/
def isTransparent (c : Char) : Bool :=
  ['\u034f', '\u180f', '\u200d'].contains c || within 0x17b4 0x17b5 c || within 0x180b 0x180d c ||
    within 0xfe00 0xfe0f c || within 0xe0100 0xe01ef c

/-- Vowels and last consonants of a syllable block, which are drawn into the block. -/
def isBlockPart (c : Char) : Bool :=
  within 0x1160 0x11ff c || within 0xd7b0 0xd7c6 c || within 0xd7cb 0xd7fb c

/-- Signs that are drawn over, under or around the characters next to them. -/
def isEnclosing (c : Char) : Bool :=
  ['\u0605', '\u070f', '\u0890', '\u0891', '\u08e2', '\u0d4e', '\ua8fa'].contains c ||
    within 0x111c2 0x111c3 c || within 0x11a84 0x11a89 c ||
    [0x113d1, 0x1193f, 0x11941, 0x11a3a, 0x11d46, 0x11f02].contains c.toNat

/-- How many columns a character fills by itself. -/
def columns (c : Char) : Nat :=
  if c = '\u2d7f' then 1
  else if c = '\u115f' || c = '\u17a4' then 2
  else if c = '\u17d8' then 3
  else if Table.extending.contains c || Table.ignorable.contains c || isBlockPart c ||
      isEnclosing c then 0
  else if Table.wide.contains c then 2
  else 1

/-- Whether a mark may stand between the letters of an Arabic ligature. -/
def isArabicMark (c : Char) : Bool :=
  columns c = 0 && !isBlockPart c && !isEnclosing c && !within 0x2066 0x2069 c &&
    c ∉ ['\u180e', '\u200c', '\u200d', '\u3164', '\uffa0']

/-- What a character is to those before it. -/
def behind (c : Char) : Behind :=
  if c = '\ufe0f' then ⟨.none, some .picture⟩
  else if c = '\ufe0e' then ⟨.none, some .text⟩
  else
    { part :=
        if isIndicator c then .indicator
        else if isSkinTone c then .skinTone
        else if Table.pictorial.contains c then .picture
        else if isAlef c then .alef
        else if c = '\u05dc' then .lamed false
        else if c = '\u1a10' then .ya false
        else if isTifinagh c then .tifinagh false
        else if c.toNat = 0x10c03 then .turkicI false
        else if c = '\ua4fc' || c = '\ua4fd' then .lisuTone
        else if isCoengLetter c then .coengLetter
        else if c.toNat = 0x16d67 then .kiratE
        else if c.toNat = 0x16d68 then .kiratAi
        else .none }

/-- Columns that are added to a part behind, and what the two are to those before them, where they
are drawn as one. -/
def combine? (c : Char) (p : Part) : Option (Int × Part) :=
  match p with
  | .alef => if isLam c then some (0, .none) else if isArabicMark c then some (0, .alef) else none
  | .lamed true => if c = '\u05d0' then some (0, .none) else none
  | .coengLetter => if c = '\u17d2' then some (-1, .none) else none
  | .ya true => if c = '\u1a17' then some (0, .yaVowel) else none
  | .yaVowel => if c = '\u1a15' then some (0, .none) else none
  | .tifinagh joiner =>
    if c = '\u2d7f' then some (1, .tifinaghJoined)
    else if joiner && isTifinagh c then some (0, .none)
    else none
  | .tifinaghJoined => if isTifinagh c then some (-1, .none) else none
  | .lisuTone => if within 0xa4f8 0xa4fb c then some (0, .none) else none
  | .turkicI true => if c.toNat = 0x10c32 then some (0, .none) else none
  | .kiratE =>
    if c.toNat = 0x16d63 || c.toNat = 0x16d69 then some (0, .none)
    else if c.toNat = 0x16d67 then some (0, .kiratAi)
    else none
  | .kiratAi => if c.toNat = 0x16d63 then some (0, .none) else none
  | .skinTone => if Table.toned.contains c then some (0, .picture) else none
  | .indicator | .indicators => if isIndicator c then some (1, .indicators) else none
  | .joined =>
    if c = '\u20e3' then some (0, .joinedKey)
    else if isIndicator c then some (1, .joinedIndicator)
    else if isSkinTone c then some (0, .skinTone)
    else if Table.pictorial.contains c then some (0, .picture)
    else none
  | .joinedIndicator | .joinedOdd => if isIndicator c then some (-1, .joinedEven) else none
  | .joinedEven => if isIndicator c then some (3, .joinedOdd) else none
  | _ => none

/-- Columns that a character beyond the basic ones adds, and what it is to those before it. -/
def stepBeyond (c : Char) (b : Behind) : Int × Behind :=
  let alone : Int × Behind := (columns c, behind c)
  if b = {} then alone
  else if c = '\ufe0f' then (0, b.select .picture)
  else if c = '\ufe0e' then (0, b.select .text)
  else if b.selector = some .text && Table.textual.contains c then (1, {})
  else
    let p := b.drop.part
    if p.isLigature && p ≠ .alef && isTransparent c then
      (0, ⟨if c = '\u200d' then p.withJoiner else p, none⟩)
    else if p.isJoinable && c = '\u200d' then (0, ⟨.joined, none⟩)
    else
      match combine? c p with
      | some (n, p) => (n, ⟨p, none⟩)
      | none => alone

/-- Columns that a character adds, and what it is to those before it. -/
def step (c : Char) (b : Behind) : Int × Behind :=
  if b.selector = some .picture && Table.variant.contains c then
    (if b.part.isJoined then 0 else 2, ⟨.picture, none⟩)
  else
    let b := if b.selector = some .picture then b.drop else b
    if c = '\n' then (1, ⟨.lineFeed, none⟩)
    else if c = '\r' && b.part = .lineFeed then (0, {})
    else if c.toNat ≤ 0xa0 then (1, {})
    else stepBeyond c b

/-- The columns of a text, and what it is to a character before it. -/
def measure : List Char → Int × Behind
  | [] => (0, {})
  | c :: cs =>
    let rest := measure cs
    let first := step c rest.2
    (rest.1 + first.1, first.2)

/-- How many columns a text fills. -/
def width (s : List Char) : Nat := (measure s).1.toNat

/-- Whether a character is a visible one of ASCII, or the blank. -/
def isBasic (c : Char) : Bool := within 0x20 0x7e c

/-- A text of basic characters is as wide as it has characters. -/
theorem measure_basic {s : List Char} (h : ∀ c ∈ s, isBasic c) :
    measure s = ((s.length : Int), {}) := by
  induction s with
  | nil => rfl
  | cons c cs ih =>
    have hc : isBasic c := h c List.mem_cons_self
    have hcs := ih fun d hd => h d (List.mem_cons_of_mem c hd)
    simp only [isBasic, within, Bool.and_eq_true, decide_eq_true_eq] at hc
    have hne : ∀ d : Char, d.toNat < 0x20 → c ≠ d := by
      rintro d hd rfl
      omega
    have h10 : c ≠ '\n' := hne _ (by decide)
    have h13 : c ≠ '\r' := hne _ (by decide)
    have hle : c.toNat ≤ 0xa0 := by omega
    simp [measure, hcs, step, h10, h13, hle]

/-- In a text of basic characters each fills one column. -/
theorem width_basic {s : List Char} (h : ∀ c ∈ s, isBasic c) : width s = s.length := by
  simp [width, measure_basic h]

end LossProbe.Text
