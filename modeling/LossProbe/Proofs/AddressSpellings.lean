import Mathlib.Data.Nat.Notation
import Mathlib.Data.List.Induction
import LossProbe.Net.IpAddr.Parser
import LossProbe.Proofs.JsonStrings

/-!
# The spellings of an address

An address of four octets has one text. One of eight groups has many: each group has up to four
hexadecimal digits of either case, with zeros in front or without; a gap stands for some of the zero
groups, wherever they are and however many; and the last two groups may be four octets. `Spelling`
says this without the reader, and the reader accepts exactly the spellings, each as its address
(`ofChars?_eq_some_iff`).

Digits are read up to the first character that is none (`spanDigits_append`), which gives octets and
groups, and a run of groups ends where nothing follows or a gap does (`groupRun_joined`).
-/

namespace LossProbe.IpAddr

open Json (HexDigit)

/-! ## Texts of addresses -/

/-- A group as it is written. -/
structure Group where
  digits : List HexDigit
  nonempty : digits ≠ []
  short : digits.length ≤ 4

namespace Group

def chars (g : Group) : List Char := g.digits.map HexDigit.char

def value (g : Group) : UInt16 :=
  ((g.digits.map HexDigit.value).foldl (fun n d => 16 * n + d) 0).toUInt16

end Group

/-- Groups as they are written. -/
structure Groups where
  list : List Group
  /-- Four octets for the last two groups. -/
  octets : Option (UInt8 × UInt8 × UInt8 × UInt8)

namespace Groups

/-- What stands between the colons. -/
def parts (gs : Groups) : List (List Char) :=
  gs.list.map Group.chars ++ gs.octets.toList.map fun (a, b, c, d) => dotted a b c d

def chars (gs : Groups) : List Char := [':'].intercalate gs.parts

def values (gs : Groups) : List UInt16 :=
  gs.list.map Group.value ++
    gs.octets.toList.flatMap fun (a, b, c, d) => [pairGroup a b, pairGroup c d]

end Groups

/-- Groups with a gap among them. -/
structure Gapped where
  front : List Group
  back : Groups
  /-- The gap stands for one group at least. -/
  room : front.length + back.values.length < 8

namespace Gapped

def chars (g : Gapped) : List Char :=
  Groups.chars ⟨g.front, none⟩ ++ ':' :: ':' :: g.back.chars

def values (g : Gapped) : List UInt16 :=
  g.front.map Group.value ++
    List.replicate (8 - g.front.length - g.back.values.length) 0 ++ g.back.values

/-- With the zeros of its gap, an address has eight groups. -/
theorem length_values (g : Gapped) : g.values.length = 8 := by
  have hroom := g.room
  simp only [values, List.length_append, List.length_map, List.length_replicate]
  omega

/-- The gap stands for as many zeros as the groups around it leave room for. -/
theorem values_eq (g : Gapped) {zeros : Nat}
    (h : g.front.length + zeros + g.back.values.length = 8) :
    g.values = g.front.map Group.value ++ List.replicate zeros 0 ++ g.back.values := by
  have hmissing : 8 - g.front.length - g.back.values.length = zeros := by omega
  rw [values, hmissing]

end Gapped

/-- An address as it is written. -/
inductive Spelling where
  | octets (a b c d : UInt8)
  | whole (gs : Groups) (h : gs.values.length = 8)
  | gapped (g : Gapped)

/-- Eight groups fill an address. -/
theorem size_toArray_of_length {gs : List UInt16} (h : gs.length = 8) : gs.toArray.size = 8 := by
  simpa using h

/-- Eight groups as an address. -/
def ofGroups (gs : List UInt16) (h : gs.length = 8) : IpAddr :=
  .v6 ⟨gs.toArray, size_toArray_of_length h⟩

namespace Spelling

def chars : Spelling → List Char
  | octets a b c d => dotted a b c d
  | whole gs _ => gs.chars
  | gapped g => g.chars

def address : Spelling → IpAddr
  | octets a b c d => .v4 a b c d
  | whole gs h => ofGroups gs.values h
  | gapped g => ofGroups g.values g.length_values

end Spelling

/-! ## Digits -/

section

variable {base n : Nat} {rest s : List Char} {c : Char}

/-- A digit to a base is a hexadecimal one that is less than the base. -/
theorem digitValue?_eq (base : Nat) (c : Char) :
    digitValue? base c = (Json.hexDigit? c).filter (· < base) := rfl

/-- A hexadecimal digit is read as its value where it is less than the base. -/
theorem digitValue?_char {d : HexDigit} (h : d.value < base) :
    digitValue? base d.char = some d.value := by
  rw [digitValue?_eq, Json.hexDigit?_char, Option.filter_some, if_pos (decide_eq_true h)]

/-- No hexadecimal digit is worth more than fifteen. -/
theorem value_lt (d : HexDigit) : d.value < 16 := by
  cases d with
  | digit d => exact Nat.lt_trans d.isLt (by decide)
  | letter l capital =>
    show 10 + l.val < 16
    omega

/-- What has a value is a hexadecimal digit of this value. -/
theorem exists_hexDigit (h : digitValue? base c = some n) :
    n < base ∧ ∃ d : HexDigit, d.char = c ∧ d.value = n := by
  rw [digitValue?_eq, Option.filter_eq_some_iff] at h
  obtain ⟨hvalue, hlt⟩ := h
  obtain ⟨d, rfl⟩ := Json.exists_hexDigit hvalue
  rw [Json.hexDigit?_char] at hvalue
  exact ⟨of_decide_eq_true hlt, d, rfl, Option.some.inj hvalue⟩

/-- A digit is read as what it was written for, to any base up to sixteen. -/
theorem digitValue?_digitChar {d : Nat} (hd : d < base) (hbase : base ≤ 16) :
    digitValue? base (Nat.digitChar d) = some d := by
  obtain ⟨x, hchar, rfl⟩ := Json.exists_hexDigit_of_lt (Nat.lt_of_lt_of_le hd hbase)
  rw [← hchar, digitValue?_char hd]

/-- Below ten there are no letters. -/
theorem eq_digitChar (h : digitValue? 10 c = some n) : n < 10 ∧ c = Nat.digitChar n := by
  obtain ⟨hlt, d, rfl, rfl⟩ := exists_hexDigit h
  refine ⟨hlt, ?_⟩
  cases d with
  | digit d =>
    have hall : ∀ d : Fin 10, Json.digitChar d = Nat.digitChar d := by decide
    exact hall d
  | letter l capital => exact absurd hlt (Nat.not_lt.mpr (Nat.le_add_right _ _))

/-- The digits of a number, by their values. Only zero begins with a zero. -/
theorem exists_digitValues (hbase : 1 < base) (n : Nat) :
    ∃ ds : List Nat, Nat.toDigits base n = ds.map Nat.digitChar ∧ (∀ d ∈ ds, d < base) ∧
      ds.foldl (fun n d => base * n + d) 0 = n ∧ (ds.head? = some 0 → ds.length = 1) := by
  induction n using Nat.strongRecOn with
  | _ n ih =>
    by_cases hn : n < base
    · exact ⟨[n], by simp [Nat.toDigits_of_lt_base hn], by simpa using hn, by simp, fun _ => rfl⟩
    · -- The last digit follows those of the quotient, which is not zero.
      have hlt : n / base < n := Nat.div_lt_self (by omega) hbase
      have hpos : 0 < n / base := Nat.div_pos (by omega) (by omega)
      obtain ⟨ds, hchars, hall, hvalue, hzero⟩ := ih (n / base) hlt
      refine ⟨ds ++ [n % base], ?_, ?_, ?_, fun hhead => ?_⟩
      · rw [Nat.toDigits_eq_if hbase, if_neg hn, hchars, List.map_append, List.map_singleton]
      · simpa [or_imp, forall_and] using ⟨hall, Nat.mod_lt n (by omega)⟩
      · rw [List.foldl_append, hvalue]
        exact Nat.div_add_mod n base
      · -- A quotient whose digits begin with a zero would be zero.
        match ds, hzero, hvalue, hhead with
        | [], _, hvalue, _ =>
          exact absurd hvalue (Nat.ne_of_lt hpos)
        | d :: more, hzero, hvalue, hhead =>
          have hd : d = 0 := by simpa using hhead
          have hmore : more = [] := by simpa using hzero (by simp [hd])
          subst hd hmore
          exact absurd hvalue (Nat.ne_of_lt hpos)

/-- Digits that follow do not make a number smaller. -/
theorem le_foldl (hbase : 0 < base) (n : Nat) (ds : List Nat) :
    n ≤ ds.foldl (fun n d => base * n + d) n := by
  induction ds generalizing n with
  | nil => exact Nat.le_refl n
  | cons d ds ih =>
    have hle : n ≤ base * n := Nat.le_mul_of_pos_left n hbase
    exact Nat.le_trans (Nat.le_trans hle (Nat.le_add_right _ d)) (ih (base * n + d))

/-- Digits without a zero in front are the digits of their number. -/
theorem toDigits_foldl (hbase : 1 < base) {ds : List Nat} (hne : ds ≠ [])
    (hall : ∀ d ∈ ds, d < base) (hzero : ds.head? = some 0 → ds.length = 1) :
    Nat.toDigits base (ds.foldl (fun n d => base * n + d) 0) = ds.map Nat.digitChar := by
  -- From the end, as the last digit is the one that is split off from a number.
  induction ds using List.reverseRecOn with
  | nil => exact absurd rfl hne
  | append_singleton ds d ih =>
    obtain ⟨hds, hd⟩ := List.forall_mem_append.mp hall
    have hd : d < base := hd d (List.mem_singleton_self d)
    rw [List.foldl_append, List.map_append]
    by_cases hempty : ds = []
    · subst hempty
      simp [Nat.toDigits_of_lt_base hd]
    · obtain ⟨x, more, rfl⟩ := List.exists_cons_of_ne_nil hempty
      have hx : x ≠ 0 := by
        rintro rfl
        have hlength := hzero rfl
        simp at hlength
      -- The number of the digits in front is not zero, so the last digit is split off.
      have hpos : 0 < (x :: more).foldl (fun n d => base * n + d) 0 := by
        have hle := le_foldl (show 0 < base by omega) (base * 0 + x) more
        rw [Nat.mul_zero, Nat.zero_add] at hle
        rw [List.foldl_cons, Nat.mul_zero, Nat.zero_add]
        omega
      have hfront := ih hempty hds fun hhead => absurd (Option.some.inj hhead) hx
      generalize (x :: more).foldl (fun n d => base * n + d) 0 = v at hpos hfront
      have hlarge : ¬ base * v + d < base := by
        have hle : base ≤ base * v := Nat.le_mul_of_pos_right base hpos
        omega
      show Nat.toDigits base (base * v + d) = _
      rw [Nat.toDigits_eq_if hbase, if_neg hlarge, Nat.mul_add_div (by omega),
        Nat.div_eq_of_lt hd, Nat.add_zero, hfront, Nat.mul_add_mod, Nat.mod_eq_of_lt hd]
      rfl

/-- Not followed by a digit. -/
def EndsDigits (base : Nat) (rest : List Char) : Prop :=
  ∀ c ∈ rest.head?, digitValue? base c = none

theorem endsDigits_nil : EndsDigits base [] := nofun

/-- Digits end before a character that is no digit to their base. -/
theorem endsDigits_cons {c : Char} : EndsDigits base (c :: rest) ↔ digitValue? base c = none := by
  simp [EndsDigits]

/-- A run of digits is taken as a whole. -/
theorem spanDigits_append {cs : List Char} {ds : List Nat}
    (h : cs.map (digitValue? base) = ds.map some) (hrest : EndsDigits base rest) :
    spanDigits base (cs ++ rest) = (ds, rest) := by
  induction cs generalizing ds with
  | nil =>
    obtain rfl : ds = [] := by simpa using h.symm
    -- Nothing is left of the digits, so the rest has to stop the reader.
    cases rest with
    | nil => rfl
    | cons c rest =>
      rw [endsDigits_cons] at hrest
      simp [spanDigits, hrest]
  | cons c cs ih =>
    match ds, h with
    | d :: ds, h =>
      obtain ⟨hc, hcs⟩ := List.cons.inj h
      simp [spanDigits, hc, ih hcs]

/-- What a run of digits is taken from. -/
theorem exists_of_spanDigits {ds : List Nat} (h : spanDigits base s = (ds, rest)) :
    ∃ cs, s = cs ++ rest ∧ cs.map (digitValue? base) = ds.map some := by
  induction s generalizing ds with
  | nil =>
    cases h
    exact ⟨[], rfl, rfl⟩
  | cons c s ih =>
    rw [spanDigits] at h
    split at h
    · rename_i d hd
      cases h
      obtain ⟨cs, hs, hcs⟩ := ih rfl
      exact ⟨c :: cs, congrArg (c :: ·) hs, by rw [List.map_cons, hd, hcs]; rfl⟩
    · cases h
      exact ⟨[], rfl, rfl⟩

/-- Only a character behind the digits can be left in front. -/
theorem head?_spanDigits_ne {p : List Char} {c : Char} (hp : c ∉ p) (hrest : rest.head? ≠ some c)
    (hends : EndsDigits base rest) : (spanDigits base (p ++ rest)).2.head? ≠ some c := by
  induction p with
  | nil =>
    cases rest with
    | nil => exact hrest
    | cons d rest =>
      rw [endsDigits_cons] at hends
      simpa [spanDigits, hends] using hrest
  | cons d p ih =>
    obtain ⟨hne, hp⟩ := not_or.mp (List.mem_cons.not.mp hp)
    -- The reader stops at `d` or goes on behind it, and either way `c` is not next.
    cases hd : digitValue? base d with
    | none => simpa [spanDigits, hd] using Ne.symm hne
    | some v => simpa [spanDigits, hd] using ih hp

end

/-! ## Octets and groups -/

section

variable {rest s : List Char}

/-- An octet is read back. -/
theorem octet?_digits (o : UInt8) (hrest : EndsDigits 10 rest) :
    octet? (Decimal.digits o.toNat ++ rest) = some (o, rest) := by
  have hlt := o.toNat_lt
  obtain ⟨ds, hchars, hall, hvalue, hzero⟩ := exists_digitValues (by decide : 1 < 10) o.toNat
  have hspan : spanDigits 10 (Decimal.digits o.toNat ++ rest) = (ds, rest) := by
    rw [Decimal.digits, hchars]
    apply spanDigits_append _ hrest
    rw [List.map_map]
    exact List.map_congr_left fun d hd => digitValue?_digitChar (hall d hd) (by decide)
  have hlength : (Nat.toDigits 10 o.toNat).length = ds.length := by rw [hchars, List.length_map]
  have hthree : ds.length ≤ 3 := by
    rw [← hlength]
    exact (Nat.length_toDigits_le_iff (by decide) (by decide)).mpr (by omega)
  -- There is no reason to refuse these digits.
  have hbad : ¬ (ds = [] ∨ 3 < ds.length ∨ (ds.head? = some 0 ∧ 1 < ds.length) ∨
      255 < ds.foldl (fun n d => 10 * n + d) 0) := by
    rw [hvalue]
    rintro (rfl | h | ⟨h, h'⟩ | h)
    · exact Nat.toDigits_ne_nil hchars
    · omega
    · have := hzero h
      omega
    · omega
  unfold octet?
  rw [hspan]
  dsimp only
  rw [if_neg hbad, hvalue]
  simp

/-- Characters that are read as decimal digits are the ones that these are written with. -/
theorem eq_map_digitChar {cs : List Char} {ds : List Nat}
    (h : cs.map (digitValue? 10) = ds.map some) :
    cs = ds.map Nat.digitChar ∧ ∀ d ∈ ds, d < 10 := by
  have hdigit (c : Char) (n : Nat) (hc : digitValue? 10 c = some n) :
      ∃ d : Fin 10, Nat.digitChar d = c ∧ d.val = n := by
    obtain ⟨hlt, rfl⟩ := eq_digitChar hc
    exact ⟨⟨n, hlt⟩, rfl, rfl⟩
  -- Read the digits as elements of `Fin 10`, which keeps their bound.
  obtain ⟨xs, rfl, rfl⟩ := Json.exists_map_of_values hdigit h
  constructor
  · rw [List.map_map]
    rfl
  · intro d hd
    obtain ⟨x, -, rfl⟩ := List.mem_map.mp hd
    exact x.isLt

/-- An octet has no other text. -/
theorem eq_of_octet? {o : UInt8} (h : octet? s = some (o, rest)) :
    s = Decimal.digits o.toNat ++ rest := by
  unfold octet? at h
  rcases hspan : spanDigits 10 s with ⟨ds, rest'⟩
  rw [hspan] at h
  dsimp only at h
  split at h
  · cases h
  · rename_i hgood
    simp only [not_or, not_and, Nat.not_lt] at hgood
    obtain ⟨hne, -, hzero, hbound⟩ := hgood
    obtain ⟨rfl, rfl⟩ := Prod.mk.inj (Option.some.inj h)
    obtain ⟨cs, rfl, hcs⟩ := exists_of_spanDigits hspan
    obtain ⟨rfl, hall⟩ := eq_map_digitChar hcs
    -- A zero in front stands alone, so these are the digits that the octet is written with.
    have hone (hhead : ds.head? = some 0) : ds.length = 1 := by
      have hle := hzero hhead
      have hpos := List.length_pos_iff.mpr hne
      omega
    have hoctet : (ds.foldl (fun n d => 10 * n + d) 0).toUInt8.toNat =
        ds.foldl (fun n d => 10 * n + d) 0 := Nat.mod_eq_of_lt (by omega)
    rw [Decimal.digits, hoctet, toDigits_foldl (by decide) hne hall hone]

/-- Hexadecimal digits, by their values. -/
theorem map_digitValue?_char (ds : List HexDigit) :
    (ds.map HexDigit.char).map (digitValue? 16) = (ds.map HexDigit.value).map some := by
  rw [List.map_map, List.map_map]
  exact List.map_congr_left fun d _ => digitValue?_char (value_lt d)

/-- Characters that are read as hexadecimal digits are the spellings of such digits. -/
theorem exists_hexDigits {cs : List Char} {ds : List Nat}
    (h : cs.map (digitValue? 16) = ds.map some) :
    ∃ hs : List HexDigit, hs.map HexDigit.char = cs ∧ hs.map HexDigit.value = ds :=
  Json.exists_map_of_values (fun _ _ hc => (exists_hexDigit hc).2) h

/-- A group is read back. -/
theorem group?_chars (g : Group) (hrest : EndsDigits 16 rest) :
    group? (g.chars ++ rest) = some (g.value, rest) := by
  have hspan : spanDigits 16 (g.chars ++ rest) = (g.digits.map HexDigit.value, rest) :=
    spanDigits_append (map_digitValue?_char g.digits) hrest
  have hgood : ¬ (g.digits.map HexDigit.value = [] ∨ 4 < (g.digits.map HexDigit.value).length) := by
    rw [List.map_eq_nil_iff, List.length_map]
    rintro (h | h)
    · exact g.nonempty h
    · exact Nat.not_lt.mpr g.short h
  unfold group?
  rw [hspan]
  exact if_neg hgood

/-- What is read as a group is the text of one. -/
theorem exists_of_group? {v : UInt16} (h : group? s = some (v, rest)) :
    ∃ g : Group, s = g.chars ++ rest ∧ g.value = v := by
  unfold group? at h
  rcases hspan : spanDigits 16 s with ⟨ds, rest'⟩
  rw [hspan] at h
  dsimp only at h
  -- The reader takes all digits that come, and refuses none or more than four.
  split at h
  · cases h
  · rename_i hgood
    obtain ⟨hne, hshort⟩ := not_or.mp hgood
    obtain ⟨rfl, rfl⟩ := Prod.mk.inj (Option.some.inj h)
    obtain ⟨cs, rfl, hcs⟩ := exists_of_spanDigits hspan
    obtain ⟨hs, rfl, rfl⟩ := exists_hexDigits hcs
    rw [List.map_eq_nil_iff] at hne
    rw [List.length_map, Nat.not_lt] at hshort
    exact ⟨⟨hs, hne, hshort⟩, rfl, rfl⟩

/-- Four octets are four numbers with dots between them. -/
theorem dotted_append (a b c d : UInt8) (rest : List Char) :
    dotted a b c d ++ rest = Decimal.digits a.toNat ++ '.' ::
      (Decimal.digits b.toNat ++ '.' :: (Decimal.digits c.toNat ++ '.' ::
        (Decimal.digits d.toNat ++ rest))) := by
  simp [dotted, List.intercalate]

/-- Four octets are read back. -/
theorem dotted?_dotted (a b c d : UInt8) (hrest : EndsDigits 10 rest) :
    dotted? (dotted a b c d ++ rest) = some ((a, b, c, d), rest) := by
  have hdot (s : List Char) : EndsDigits 10 ('.' :: s) := endsDigits_cons.mpr (by decide)
  rw [dotted_append, dotted?, octet?_digits a (hdot _)]
  simp [skip?, octet?_digits b (hdot _), octet?_digits c (hdot _), octet?_digits d hrest]

/-- A character is only skipped where it stands in front. -/
theorem eq_of_skip? {c : Char} (h : skip? c s = some rest) : s = c :: rest := by
  cases s with
  | nil => cases h
  | cons d s =>
    rw [skip?] at h
    split at h
    · rename_i hd
      rw [hd, Option.some.inj h]
    · cases h

/-- Nor have four octets any other text. -/
theorem eq_of_dotted? {a b c d : UInt8} (h : dotted? s = some ((a, b, c, d), rest)) :
    s = dotted a b c d ++ rest := by
  unfold dotted? at h
  simp only [Option.bind_eq_bind, Option.bind_eq_some_iff, Prod.exists] at h
  obtain ⟨_, _, ha, _, hdot, _, _, hb, _, hdot', _, _, hc, _, hdot'', _, _, hd, heq⟩ := h
  obtain ⟨hoctets, rfl⟩ := Prod.mk.inj (Option.some.inj heq)
  cases hoctets
  rw [dotted_append, eq_of_octet? ha, eq_of_skip? hdot, eq_of_octet? hb, eq_of_skip? hdot',
    eq_of_octet? hc, eq_of_skip? hdot'', eq_of_octet? hd]

/-- Without a dot behind it, no first octet is the beginning of four. -/
theorem dotted?_eq_none {p : List Char} (hp : '.' ∉ p) (hrest : rest.head? ≠ some '.')
    (hends : EndsDigits 10 rest) : dotted? (p ++ rest) = none := by
  -- However many digits there are, what is left does not begin with a dot.
  have hskip : skip? '.' (spanDigits 10 (p ++ rest)).2 = none := by
    have hne := head?_spanDigits_ne hp hrest hends
    cases hleft : (spanDigits 10 (p ++ rest)).2 with
    | nil => rfl
    | cons c t =>
      rw [hleft] at hne
      exact if_neg (by simpa using hne)
  unfold dotted? octet?
  dsimp only
  split <;> simp [hskip]

end

/-! ## Runs of groups -/

/-- Where a run of groups ends: with the text, or at a gap. -/
def Stops (rest : List Char) : Prop := rest = [] ∨ ∃ t, rest = ':' :: ':' :: t

/-- What can stand behind a group: nothing, or a colon. -/
def EndsGroup (rest : List Char) : Prop := rest = [] ∨ ∃ t, rest = ':' :: t

/-- The colon in front of a group that is not the first. -/
def lead (isFirst : Bool) : List Char := if isFirst then [] else [':']

/-- Parts with colons between them, and one in front unless they are the first. -/
def joined (isFirst : Bool) : List (List Char) → List Char
  | [] => []
  | p :: ps => lead isFirst ++ p ++ joined false ps

section

variable {rest s : List Char} {isFirst : Bool} {left : Nat}

/-- Where a run of groups ends, so does its last group. -/
theorem Stops.endsGroup (h : Stops rest) : EndsGroup rest := by
  obtain h | ⟨t, h⟩ := h
  · exact .inl h
  · exact .inr ⟨_, h⟩

/-- Neither the end of the text nor a colon is a digit. -/
theorem EndsGroup.endsDigits {base : Nat} (h : EndsGroup rest) :
    EndsDigits base rest := by
  obtain rfl | ⟨t, rfl⟩ := h
  · exact endsDigits_nil
  · rw [endsDigits_cons]
    rfl

/-- A group ends before further groups and before the end of its run. -/
theorem endsGroup_joined (ps : List (List Char)) (h : Stops rest) :
    EndsGroup (joined false ps ++ rest) := by
  cases ps with
  | nil => exact h.endsGroup
  | cons p ps => exact .inr ⟨_, rfl⟩

/-- Parts with colons between them are parts of which the first has none in front. -/
theorem intercalate_eq_joined (ps : List (List Char)) : [':'].intercalate ps = joined true ps := by
  -- `joined` has no colon before its first piece only, so the induction is on the pieces behind it.
  have hmore (p : List Char) (ps : List (List Char)) :
      [':'].intercalate (p :: ps) = p ++ joined false ps := by
    induction ps generalizing p with
    | nil => simp [joined, List.intercalate]
    | cons q ps ih =>
      have hcons : [':'].intercalate (p :: q :: ps) = p ++ ':' :: [':'].intercalate (q :: ps) := by
        simp [List.intercalate]
      rw [hcons, ih]
      rfl
  cases ps with
  | nil => rfl
  | cons p ps => exact hmore p ps

/-- A group is not taken for an octet, as no dot follows it. -/
theorem dotted?_group (g : Group) (h : EndsGroup rest) : dotted? (g.chars ++ rest) = none := by
  apply dotted?_eq_none
  · intro hdot
    obtain ⟨d, -, hd⟩ := List.mem_map.mp hdot
    have hvalue := digitValue?_char (value_lt d)
    rw [hd] at hvalue
    cases hvalue
  · obtain rfl | ⟨t, rfl⟩ := h <;> simp
  · exact h.endsDigits

/-- What follows the colon in front. -/
theorem body_lead (isFirst : Bool) (s : List Char) :
    (if isFirst then some (lead isFirst ++ s) else skip? ':' (lead isFirst ++ s)) = some s := by
  cases isFirst <;> rfl

/-- What is read of a group begins behind its colon, where it needs one. -/
theorem eq_of_body {t : List Char} (h : (if isFirst then some s else skip? ':' s) = some t) :
    s = lead isFirst ++ t := by
  cases isFirst with
  | false => exact eq_of_skip? h
  | true => exact Option.some.inj h

/-- A run goes on behind a group, as long as there is room for more. -/
theorem groupRun_group (left : Nat) (isFirst : Bool) (g : Group) (h : EndsGroup rest) :
    groupRun (left + 1) isFirst (lead isFirst ++ g.chars ++ rest) =
      ⟨g.value :: (groupRun left false rest).groups, (groupRun left false rest).endsDotted,
        (groupRun left false rest).rest⟩ := by
  rw [groupRun, List.append_assoc, body_lead]
  simp [dotted?_group g h, group?_chars g h.endsDigits]

/-- Four octets end a run, and count for two groups. -/
theorem groupRun_octets (left : Nat) (isFirst : Bool) (a b c d : UInt8) (h : EndsDigits 10 rest) :
    groupRun (left + 2) isFirst (lead isFirst ++ dotted a b c d ++ rest) =
      ⟨[pairGroup a b, pairGroup c d], true, rest⟩ := by
  rw [groupRun, List.append_assoc, body_lead]
  simp [dotted?_dotted a b c d h]

/-- There is no group behind the text, nor at a gap. -/
theorem groupRun_stops (limit : Nat) (isFirst : Bool) (h : Stops rest) :
    groupRun limit isFirst rest = ⟨[], false, rest⟩ := by
  cases limit with
  | zero => rfl
  | succ left =>
    rw [groupRun]
    -- At the end or at a colon, neither an address with dots nor a group can be read.
    obtain rfl | ⟨t, rfl⟩ := h
    · have hdotted : dotted? [] = none := rfl
      have hgroup : group? [] = none := rfl
      cases isFirst <;> simp [skip?, hdotted, hgroup]
    · have hdotted (s : List Char) : dotted? (':' :: s) = none := rfl
      have hgroup (s : List Char) : group? (':' :: s) = none := rfl
      cases isFirst <;> simp [skip?, hdotted, hgroup]

/-- Groups are read up to the end of the run. -/
theorem groupRun_joined (gs : Groups) (limit : Nat) (isFirst : Bool)
    (hlimit : gs.values.length ≤ limit) (h : Stops rest) :
    groupRun limit isFirst (joined isFirst gs.parts ++ rest) =
      ⟨gs.values, gs.octets.isSome, rest⟩ := by
  obtain ⟨list, octets⟩ := gs
  induction list generalizing limit isFirst with
  | nil =>
    cases octets with
    | none => exact groupRun_stops limit isFirst h
    | some o =>
      -- Four octets stand for two groups, so the limit leaves room for two.
      obtain ⟨a, b, c, d⟩ := o
      obtain ⟨left, rfl⟩ := Nat.exists_eq_add_of_le' (show 2 ≤ limit from hlimit)
      have hrun := groupRun_octets left isFirst a b c d h.endsGroup.endsDigits
      have hchars : joined isFirst (Groups.parts ⟨[], some (a, b, c, d)⟩) =
          lead isFirst ++ dotted a b c d := by simp [Groups.parts, joined]
      rw [hchars, hrun]
      rfl
  | cons g list ih =>
    obtain ⟨left, rfl⟩ := Nat.exists_eq_add_of_le' (Nat.le_trans (Nat.le_add_left 1 _) hlimit)
    have hends := endsGroup_joined (Groups.parts ⟨list, octets⟩) h
    have hrun := groupRun_group left isFirst g hends
    rw [ih left false (Nat.le_of_succ_le_succ hlimit)] at hrun
    have hsplit : joined isFirst (Groups.parts ⟨g :: list, octets⟩) ++ rest =
        lead isFirst ++ g.chars ++ (joined false (Groups.parts ⟨list, octets⟩) ++ rest) := by
      simp [Groups.parts, joined]
    rw [hsplit, hrun]
    rfl

/-- What is read as groups is the text of groups. -/
theorem exists_of_groupRun (limit : Nat) (isFirst : Bool) (s : List Char) :
    ∃ gs : Groups, gs.values = (groupRun limit isFirst s).groups ∧ gs.values.length ≤ limit ∧
      gs.octets.isSome = (groupRun limit isFirst s).endsDotted ∧
      s = joined isFirst gs.parts ++ (groupRun limit isFirst s).rest := by
  induction limit generalizing isFirst s with
  | zero => exact ⟨⟨[], none⟩, rfl, Nat.le_refl 0, rfl, rfl⟩
  | succ left ih =>
    rw [groupRun]
    split
    · -- Four octets end the run.
      rename_i a b c d rest hdotted
      split at hdotted
      · rename_i hleft
        obtain ⟨t, hbody, hdotted⟩ := Option.bind_eq_some_iff.mp hdotted
        refine ⟨⟨[], some (a, b, c, d)⟩, rfl, Nat.succ_le_succ hleft, rfl, ?_⟩
        rw [eq_of_body hbody, eq_of_dotted? hdotted]
        simp [Groups.parts, joined]
      · cases hdotted
    · split
      · -- One group is taken, and the run goes on behind it.
        rename_i g rest hgroup
        obtain ⟨t, hbody, hgroup⟩ := Option.bind_eq_some_iff.mp hgroup
        obtain ⟨g, rfl, rfl⟩ := exists_of_group? hgroup
        obtain ⟨gs, hvalues, hlength, hoctets, hrest⟩ := ih false rest
        refine ⟨⟨g :: gs.list, gs.octets⟩, ?_, Nat.succ_le_succ hlength, hoctets, ?_⟩
        · exact congrArg (g.value :: ·) hvalues
        · rw [eq_of_body hbody]
          conv_lhs => rw [hrest]
          simp [Groups.parts, joined]
      · exact ⟨⟨[], none⟩, rfl, Nat.zero_le _, rfl, rfl⟩

end

/-! ## Groups with and without a gap -/

section

variable {s : List Char} {vs : List UInt16}

/-- A run of groups is read whole where it ends. -/
theorem groupRun_chars (gs : Groups) {limit : Nat} (hlimit : gs.values.length ≤ limit)
    {rest : List Char} (h : Stops rest) :
    groupRun limit true (gs.chars ++ rest) = ⟨gs.values, gs.octets.isSome, rest⟩ := by
  rw [Groups.chars, intercalate_eq_joined]
  exact groupRun_joined gs limit true hlimit h

/-- Groups without a gap are read back if there are eight. -/
theorem groups?_whole (gs : Groups) (h : gs.values.length = 8) :
    groups? gs.chars = some (gs.values, []) := by
  have hrun := groupRun_chars gs (Nat.le_of_eq h) (.inl rfl)
  rw [List.append_nil] at hrun
  simp [groups?, hrun, h]

/-- A gap stands for as many zero groups as are missing. -/
theorem groups?_gapped (g : Gapped) : groups? g.chars = some (g.values, []) := by
  have hroom := g.room
  have hvalues : Groups.values ⟨g.front, none⟩ = g.front.map Group.value := List.append_nil _
  have hlength : (Groups.values ⟨g.front, none⟩).length = g.front.length := by
    rw [hvalues, List.length_map]
  -- The groups before the gap are read first, and those behind it with the room that is left.
  have hfront : groupRun 8 true g.chars =
      ⟨g.front.map Group.value, false, ':' :: ':' :: g.back.chars⟩ := by
    rw [← hvalues]
    exact groupRun_chars ⟨g.front, none⟩ (by omega) (.inr ⟨_, rfl⟩)
  have hback : groupRun (7 - g.front.length) true g.back.chars =
      ⟨g.back.values, g.back.octets.isSome, []⟩ := by
    have hrun := groupRun_chars g.back (show _ ≤ 7 - g.front.length by omega) (.inl rfl)
    rwa [List.append_nil] at hrun
  have hne : g.front.length ≠ 8 := by omega
  simp [groups?, hfront, hne, skip?, hback, Gapped.values]

/-- Nothing else is read as eight groups. -/
theorem exists_of_groups? (h : groups? s = some (vs, [])) :
    (∃ gs : Groups, s = gs.chars ∧ gs.values = vs ∧ vs.length = 8) ∨
      ∃ g : Gapped, s = g.chars ∧ g.values = vs := by
  obtain ⟨front, hvalues, hlength, hoctets, hs⟩ := exists_of_groupRun 8 true s
  unfold groups? at h
  dsimp only at h
  rw [← hvalues] at h
  split at h
  · -- Eight groups leave no room for a gap.
    rename_i height
    obtain ⟨rfl, hrest⟩ := Prod.mk.inj (Option.some.inj h)
    rw [hrest, List.append_nil, ← intercalate_eq_joined] at hs
    exact .inl ⟨front, hs, rfl, height⟩
  · rename_i hfew
    split at h
    · cases h
    · rename_i hplain
      simp only [Option.bind_eq_bind, Option.bind_eq_some_iff] at h
      obtain ⟨t, hcolon, u, hcolon', h⟩ := h
      obtain ⟨back, hbackValues, hbackLength, -, hu⟩ :=
        exists_of_groupRun (7 - front.values.length) true u
      obtain ⟨rfl, hrest⟩ := Prod.mk.inj (Option.some.inj h)
      rw [hrest, List.append_nil, ← intercalate_eq_joined] at hu
      -- Octets end an address, so there are none in front of the gap.
      obtain ⟨list, octets⟩ := front
      have hnone : octets = none := by
        rw [← hoctets] at hplain
        simpa using hplain
      subst hnone
      have hfront : (Groups.values ⟨list, none⟩) = list.map Group.value := List.append_nil _
      have hroom : list.length + back.values.length < 8 := by
        rw [hfront, List.length_map] at hlength hfew hbackLength
        omega
      refine .inr ⟨⟨list, back, hroom⟩, ?_, ?_⟩
      · rw [hs, eq_of_skip? hcolon, eq_of_skip? hcolon', hu, ← intercalate_eq_joined]
        rfl
      · rw [← hbackValues, hfront, List.length_map]
        rfl

/-- Eight groups are not taken for four octets. -/
theorem dotted?_whole (gs : Groups) (h : gs.values.length = 8) : dotted? gs.chars = none := by
  obtain ⟨list, octets⟩ := gs
  cases list with
  | nil =>
    -- Octets alone are two groups.
    have hfew : (Groups.values ⟨[], octets⟩).length ≤ 2 := by
      cases octets <;> simp [Groups.values]
    omega
  | cons g list =>
    have hnone := dotted?_group g (endsGroup_joined (Groups.parts ⟨list, octets⟩) (.inl rfl))
    rw [List.append_nil] at hnone
    rw [Groups.chars, intercalate_eq_joined]
    exact hnone

/-- An address with a gap is not mistaken for four octets. -/
theorem dotted?_gapped (g : Gapped) : dotted? g.chars = none := by
  obtain ⟨front, back, hroom⟩ := g
  cases front with
  | nil => rfl
  | cons g front =>
    have hnone := dotted?_group g (endsGroup_joined (Groups.parts ⟨front, none⟩)
      (.inr ⟨back.chars, rfl⟩))
    rw [Gapped.chars, Groups.chars, intercalate_eq_joined]
    simpa [Groups.parts, joined, lead] using hnone

end

/-! ## Addresses -/

/-- Eight groups are an address. -/
theorem ofGroups?_eq {gs : List UInt16} (h : gs.length = 8) : ofGroups? gs = some (ofGroups gs h) :=
  dif_pos h

/-- A spelling is read as its address. -/
theorem ofChars?_spelling (sp : Spelling) : ofChars? sp.chars = some sp.address := by
  cases sp with
  | octets a b c d =>
    -- An address with dots is tried first, and only this spelling is one.
    have hdotted := dotted?_dotted a b c d endsDigits_nil
    rw [List.append_nil] at hdotted
    simp [ofChars?, Spelling.chars, Spelling.address, hdotted]
  | whole gs h =>
    simp only [ofChars?, Spelling.chars, dotted?_whole gs h, groups?_whole gs h]
    exact ofGroups?_eq h
  | gapped g =>
    simp only [ofChars?, Spelling.chars, dotted?_gapped, groups?_gapped]
    exact ofGroups?_eq g.length_values

/-- A text is read as an address exactly if it is one of its spellings. -/
theorem ofChars?_eq_some_iff {s : List Char} {ip : IpAddr} :
    ofChars? s = some ip ↔ ∃ sp : Spelling, s = sp.chars ∧ sp.address = ip := by
  constructor
  · intro h
    unfold ofChars? at h
    -- The reader tries four octets first, and eight groups, with or without a gap, second.
    split at h
    · rename_i a b c d hdotted
      have hs := eq_of_dotted? hdotted
      rw [List.append_nil] at hs
      exact ⟨.octets a b c d, hs, Option.some.inj h⟩
    · split at h
      · rename_i gs hgroups
        rcases exists_of_groups? hgroups with ⟨gs, hs, rfl, hlength⟩ | ⟨g, hs, rfl⟩
        · rw [ofGroups?_eq hlength] at h
          exact ⟨.whole gs hlength, hs, Option.some.inj h⟩
        · rw [ofGroups?_eq g.length_values] at h
          exact ⟨.gapped g, hs, Option.some.inj h⟩
      · cases h
  · rintro ⟨sp, rfl, rfl⟩
    exact ofChars?_spelling sp

end LossProbe.IpAddr
