import LossProbe.Proofs.JsonWriting
import LossProbe.Proofs.NearestEven
import LossProbe.Report.JsonLine

/-!
# Rates in JSON

The shortest decimal of a double rounds to this double again (`Decimal.magnitude_shortest`), and so
does the numeral that is written for it. The text decides the numeral's value
(`Numeral.magnitude_eq_of_chars_eq`), and the value decides the double that is nearest to it. So no
rate is lost in its text, wherever the text stands (`rate_text_keeps_rate`).
-/

namespace LossProbe.Decimal

/-! ## Decimals of doubles -/

section

variable {d d' : Decimal} {m : Nat}

/-- The value of a decimal is the quotient that is rounded to find its double. -/
theorem value_eq_div (d : Decimal) :
    d.value = ((d.coefficient * scaleUp d.exponent : ℕ) : ℚ) / (scaleDown d.exponent : ℕ) := by
  have hdown : (scaleDown d.exponent : ℚ) ≠ 0 := by exact_mod_cast (scaleDown_pos d.exponent).ne'
  rw [value, eq_div_iff hdown]
  push_cast
  rw [scaleUp_eq]
  ring

/-- Decimals of the same value round to the same double. -/
theorem magnitude_eq_of_value_eq (h : d.value = d'.value) : d.magnitude = d'.magnitude := by
  have hdown : (scaleDown d.exponent : ℚ) ≠ 0 := by exact_mod_cast (scaleDown_pos d.exponent).ne'
  have hdown' : (scaleDown d'.exponent : ℚ) ≠ 0 := by
    exact_mod_cast (scaleDown_pos d'.exponent).ne'
  rw [value_eq_div, value_eq_div, div_eq_div_iff hdown hdown'] at h
  apply Binary64.nearest_congr (scaleDown_pos _) (scaleDown_pos _)
  exact_mod_cast h

/-- The exact decimal of a double rounds to this double. -/
theorem magnitude_exact (hm : m ≠ 0) (hfinite : m < Binary64.infinityMagnitude) :
    (exact m).magnitude = m := by
  have hvalue := (exact_spec hm).2.2
  have hdown : (scaleDown (exact m).exponent : ℚ) ≠ 0 := by
    exact_mod_cast (scaleDown_pos (exact m).exponent).ne'
  conv_rhs => rw [← Binary64.nearest_unitsOf hfinite]
  apply Binary64.nearest_congr (scaleDown_pos _) Binary64.unitsPerOne_pos
  rw [value_eq_div, div_mul_eq_mul_div, div_eq_iff hdown] at hvalue
  exact_mod_cast hvalue

/-- The shortest decimal of a double rounds to this double: what is found on a grid was tried, and
    there is the exact decimal to fall back on. -/
theorem magnitude_shortest (hm : m ≠ 0) (hfinite : m < Binary64.infinityMagnitude) :
    (shortest m).magnitude = m := by
  obtain ⟨d, hd, hfound⟩ := shortest_cases m
  obtain ⟨hcoefficient, hmagnitude⟩ : d.coefficient ≠ 0 ∧ d.magnitude = m := by
    rcases hfound with rfl | ⟨n, -, hgrid⟩
    · exact ⟨(exact_spec hm).1, magnitude_exact hm hfinite⟩
    · refine ⟨(onGrid?_coefficient hm hgrid).2.1, ?_⟩
      unfold onGrid? at hgrid
      simpa using List.find?_some hgrid
  rw [hd, magnitude_eq_of_value_eq (normalize_spec hcoefficient).2.1, hmagnitude]

end

end LossProbe.Decimal

namespace LossProbe.Json

/-! ## Numerals of doubles -/

/-- Whether a double is the one nearest to the number that is written, with its sign. -/
def Numeral.RoundsTo (n : Numeral) (x : Binary64) : Prop := x.IsNearest n.negative n.magnitude

/-- What is written for a finite double rounds to this double and to no other. -/
theorem exists_numeral_roundsTo {x : Binary64} (hfinite : x.isFinite = true) :
    ∃ n : Numeral, (number (.float x)).chars = n.chars ∧ ∀ y, n.RoundsTo y ↔ y = x := by
  obtain ⟨n, hsign, -, hchars, hmagnitude⟩ := exists_numeral_of_isFinite hfinite
  have hlt : x.magnitude < Binary64.infinityMagnitude := of_decide_eq_true hfinite
  have hrounds : n.RoundsTo x := by
    unfold Numeral.RoundsTo
    rw [hsign, hmagnitude]
    split
    · rename_i hzero
      -- Both zeros are written with their sign.
      have hnearest := Binary64.isNearest_of_magnitude hfinite Nat.one_pos
        ((Binary64.nearest_zero Nat.one_pos).trans hzero.symm)
      simpa using hnearest
    · rename_i hzero
      rw [Decimal.value_eq_div]
      exact Binary64.isNearest_of_magnitude hfinite (Decimal.scaleDown_pos _)
        (Decimal.magnitude_shortest hzero hlt)
  refine ⟨n, ?_, fun y => ⟨fun hy => hy.unique hrounds, ?_⟩⟩
  · rw [chars, numberChars, hchars]
    rfl
  · rintro rfl
    exact hrounds

/-- A numeral begins with a dash exactly if it is negative. -/
theorem Numeral.negative_eq_of_chars_eq {m n : Numeral} (h : m.chars = n.chars) :
    m.negative = n.negative ∧ m.unsignedChars = n.unsignedChars := by
  have hdigit (n : Numeral) (rest : List Char) : n.unsignedChars ≠ '-' :: rest := by
    intro heq
    have hfirst : digitChar n.whole.first = '-' := (List.cons.inj heq).1
    exact (digitChar_ne_sign n.whole.first).2 hfirst
  -- Two numerals of one text both have the sign in front, or neither has.
  unfold chars at h
  split at h <;> split at h
  · rename_i hm hn
    exact ⟨hm.trans hn.symm, (List.cons.inj h).2⟩
  · exact absurd h.symm (hdigit n _)
  · exact absurd h (hdigit m _)
  · rename_i hm hn
    rw [Bool.not_eq_true] at hm hn
    exact ⟨hm.trans hn.symm, h⟩

/-- The text of a numeral decides which number is written. -/
theorem Numeral.magnitude_eq_of_chars_eq {m n : Numeral} (h : m.chars = n.chars) :
    m.negative = n.negative ∧ m.magnitude = n.magnitude := by
  obtain ⟨hnegative, hunsigned⟩ := negative_eq_of_chars_eq h
  refine ⟨hnegative, ?_⟩
  -- Both are read from the same text.
  have hends : EndsNumeral [] := nofun
  have hm := taken_literal_chars m hends
  rw [hnegative, hunsigned, taken_literal_chars n hends] at hm
  have hliteral : n.literal = m.literal := congrArg Prod.fst (Option.some.inj hm)
  have hwhole : n.whole.values = m.whole.values := congrArg Literal.whole hliteral
  have hfraction : n.fractionValues = m.fractionValues :=
    congrArg (fun l => l.fraction.getD []) hliteral
  have hpower : n.power = m.power := by
    have hvalue (n : Numeral) : n.power = (n.literal.exponent.map fun e =>
        if e.1 then -(Decimal.foldDigits 0 e.2 : Int) else Decimal.foldDigits 0 e.2).getD 0 := by
      unfold power literal
      cases n.exponent <;> rfl
    rw [hvalue, hvalue, hliteral]
  rw [magnitude, magnitude, significand, significand, hwhole, hfraction, hpower]

/-- Different doubles have different texts. -/
theorem floatChars_injective {x y : Binary64} (hx : x.isFinite = true) (hy : y.isFinite = true)
    (h : (number (.float x)).chars = (number (.float y)).chars) : x = y := by
  obtain ⟨m, hm, hroundsX⟩ := exists_numeral_roundsTo hx
  obtain ⟨n, hn, hroundsY⟩ := exists_numeral_roundsTo hy
  rw [hm, hn] at h
  obtain ⟨hnegative, hmagnitude⟩ := Numeral.magnitude_eq_of_chars_eq h
  -- The same number is written, so the other numeral rounds to `x`, too.
  have hrounds : m.RoundsTo x := (hroundsX x).mpr rfl
  unfold Numeral.RoundsTo at hrounds
  rw [hnegative, hmagnitude] at hrounds
  exact (hroundsY x).mp hrounds

/-! ## Parts of a text -/

/-- Each item stands in the text of the items. -/
theorem chars_isInfix_itemChars {v : Json} {vs : List Json} (h : v ∈ vs) :
    v.chars <:+: itemChars vs := by
  induction vs with
  | nil => cases h
  | cons w vs ih =>
    -- The last item has no comma behind it.
    cases vs with
    | nil =>
      obtain rfl := List.mem_singleton.mp h
      exact List.infix_rfl
    | cons u vs =>
      rw [itemChars]
      rcases List.mem_cons.mp h with rfl | h
      · exact (List.prefix_append _ _).isInfix
      · exact (ih h).trans ((List.suffix_cons _ _).trans (List.suffix_append _ _)).isInfix

/-- The value of each member stands in the text of the members. -/
theorem chars_isInfix_memberChars {name : String} {v : Json} {ms : List (String × Json)}
    (h : (name, v) ∈ ms) : v.chars <:+: memberChars ms := by
  induction ms with
  | nil => cases h
  | cons m ms ih =>
    have hsuffix : v.chars <:+ stringChars name ++ ':' :: v.chars :=
      (List.suffix_cons _ _).trans (List.suffix_append _ _)
    -- Between two members stands a comma, so the last one has a case of its own.
    cases ms with
    | nil =>
      obtain rfl := List.mem_singleton.mp h
      exact hsuffix.isInfix
    | cons u ms =>
      rw [memberChars]
      rcases List.mem_cons.mp h with rfl | h
      · exact hsuffix.isInfix.trans (List.prefix_append _ _).isInfix
      · exact (ih h).trans ((List.suffix_cons _ _).trans (List.suffix_append _ _)).isInfix

/-- Each item stands in the text of the array. -/
theorem chars_isInfix_array {v : Json} {vs : List Json} (h : v ∈ vs) :
    v.chars <:+: (array vs).chars := by
  apply (chars_isInfix_itemChars h).trans
  rw [chars]
  exact ⟨['['], [']'], rfl⟩

/-- The value of each member stands in the text of the object. -/
theorem chars_isInfix_object (name : String) {v : Json} {ms : List (String × Json)}
    (h : (name, v) ∈ ms) : v.chars <:+: (object ms).chars := by
  apply (chars_isInfix_memberChars h).trans
  rw [chars]
  exact ⟨['\x7b'], ['\x7d'], rfl⟩

/-- The last member stands at the end of the text of the members. -/
theorem last_isSuffix_memberChars (name : String) (v : Json) (ms : List (String × Json)) :
    stringChars name ++ ':' :: v.chars <:+ memberChars (ms ++ [(name, v)]) := by
  induction ms with
  | nil => exact List.suffix_rfl
  | cons m ms ih =>
    -- A comma is written because more members follow, the last one at least.
    obtain ⟨u, us, hus⟩ : ∃ u us, ms ++ [(name, v)] = u :: us :=
      List.exists_cons_of_ne_nil (by simp)
    rw [List.cons_append, hus, memberChars, ← hus]
    exact ih.trans ((List.suffix_cons _ _).trans (List.suffix_append _ _))

/-- An object ends with its last member. -/
theorem last_isSuffix_object (name : String) (v : Json) (ms : List (String × Json)) :
    stringChars name ++ ':' :: v.chars ++ ['\x7d'] <:+ (object (ms ++ [(name, v)])).chars := by
  obtain ⟨before, hbefore⟩ := last_isSuffix_memberChars name v ms
  rw [chars, ← hbefore]
  exact ⟨'\x7b' :: before, by simp⟩

end LossProbe.Json

namespace LossProbe.JsonReport

open Json

/-! ## Rates -/

/-- The text of a device is part of every report that shows it. -/
theorem device_isInfix_render (h : Heading) {s : Summary} {d : Snapshot} (hd : d ∈ s.v2 ++ s.v3) :
    (device d).chars <:+: (render h s).toList := by
  have hsummary : (device d).chars <:+: (summary s).chars := by
    rcases List.mem_append.mp hd with hd | hd
    · apply (chars_isInfix_array (List.mem_map_of_mem hd)).trans
      apply chars_isInfix_object "v2"
      simp
    · apply (chars_isInfix_array (List.mem_map_of_mem hd)).trans
      apply chars_isInfix_object "v3"
      simp
  rw [show (render h s).toList = (report h s).chars from String.toList_ofList]
  apply hsummary.trans
  apply chars_isInfix_object "report"
  simp

/-- The name of the rate, what is written for it, and the end of the object. -/
def rateMember (text : List Char) : List Char :=
  stringChars "timeoutRate" ++ ':' :: text ++ ['\x7d']

/-- What is written for a finite rate, in counters and in the devices of a report alike, is a
    numeral that rounds to this rate, zero's sign included, and to no other double. So different
    rates are written differently. -/
theorem rate_text_keeps_rate (s : Stats) (hfinite : s.rate.isFinite = true) :
    ∃ n : Numeral, (number (.float s.rate)).chars = n.chars ∧
      rateMember n.chars <:+ s.toJson.chars ∧
      (∀ d : Snapshot, d.stats = s → rateMember n.chars <:+ (device d).chars ∧
        ∀ heading summary, d ∈ summary.v2 ++ summary.v3 →
          (device d).chars <:+: (render heading summary).toList) ∧
      (∀ x, n.RoundsTo x ↔ x = s.rate) ∧
      ∀ t : Stats, t.rate.isFinite = true → t.rate ≠ s.rate →
        (number (.float t.rate)).chars ≠ n.chars := by
  obtain ⟨n, hchars, hrounds⟩ := exists_numeral_roundsTo hfinite
  refine ⟨n, hchars, ?_⟩
  rw [← hchars]
  refine ⟨?_, ?_, hrounds, ?_⟩
  · show _ <:+ (object s.members).chars
    exact last_isSuffix_object "timeoutRate" _ (s.members.take 3)
  · rintro d rfl
    refine ⟨?_, fun heading summary hd => device_isInfix_render heading hd⟩
    show _ <:+ (object _).chars
    exact last_isSuffix_object "timeoutRate" _
      [("allCnt", .nat d.stats.sent.toNat), ("continuousCnt", .nat d.stats.streak.toNat),
        ("discoveredAt", d.discoveredAt.toJson), ("ip", .string d.ip),
        ("protocolVersion", .string d.version.name), ("timeoutCnt", .nat d.stats.lost.toNat)]
  · -- Texts that are the same round to the same double.
    intro t ht hne heq
    exact hne (floatChars_injective ht hfinite heq)

/-- Counters with the smallest rate above zero. -/
def leastRate : Stats := ⟨1, 0, 0, ⟨1⟩⟩

/-- The least rate above zero, which is written as `5e-324` and rounds back to itself alone. -/
theorem rate_text_keeps_least_rate :
    leastRate.rate.isFinite = true ∧
      rateMember "5e-324".toList <:+ leastRate.toJson.chars ∧
      ∃ n : Numeral, n.chars = "5e-324".toList ∧ n.RoundsTo ⟨1⟩ ∧
        ¬ n.RoundsTo .zero ∧ ¬ n.RoundsTo ⟨2⟩ := by
  have hfinite : leastRate.rate.isFinite = true := by decide
  -- The least double above zero takes a single digit.
  have htext : (number (.float leastRate.rate)).chars = "5e-324".toList := by decide +kernel
  obtain ⟨n, hchars, hsuffix, -, hrounds, -⟩ := rate_text_keeps_rate leastRate hfinite
  rw [htext] at hchars
  rw [← hchars] at hsuffix
  refine ⟨hfinite, hsuffix, n, hchars.symm, (hrounds _).mpr rfl, ?_, ?_⟩
  · intro hzero
    exact absurd ((hrounds _).mp hzero) (by decide)
  · intro htwo
    exact absurd ((hrounds _).mp htwo) (by decide)

end LossProbe.JsonReport
