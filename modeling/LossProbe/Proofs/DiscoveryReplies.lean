import LossProbe.Discovery.Reply
import LossProbe.Proofs.JsonTrees
import LossProbe.Proofs.Utf8

/-!
# What is a reply, and what it announces

A datagram is no reply where it is not text, where it is text but not JSON, and where it is JSON
but no object. Every object is a reply, and only the last member that is named for the version
counts, if its value is written `3`.
-/

namespace LossProbe.Reply

open Json (Document Tree Pieces Numeral)

/-! ## Replies -/

/-- Whether the last member that is named for the version has the value `3`, written so. -/
def announcesThird (ms : List (Pieces × Tree)) : Bool :=
  (Json.lastNamed? "protocol_version".toList ms).any fun t => t.chars = ['3']

/-- The version of an object is fixed by its last member with the right name. -/
theorem classify_object {ms : List (Pieces × Tree)} {js : List (String × Json)}
    (h : List.Forall₂ Json.MemberStandsFor ms js) :
    classify (.object js) = .ok (if announcesThird ms then .v3 else .v2) := by
  have hlast := Json.member?_of_lastNamed? versionMember h
  show Except.ok (Version.ofWire
    (((Json.member? versionMember js).bind Json.int64?).getD defaultVersion)) = _
  unfold announcesThird
  rw [versionMember] at hlast ⊢
  generalize Json.lastNamed? "protocol_version".toList ms = written at hlast ⊢
  generalize Json.member? "protocol_version" js = read at hlast ⊢
  cases hlast with
  | none => rfl
  | @some t v ht =>
    have hthree := Json.Tree.int64?_eq_three_iff ht
    simp only [Option.bind_some, Option.any_some, decide_eq_true_eq, ← hthree]
    -- Any other integer, and anything that is no integer, comes to the second version.
    by_cases hv : v.int64? = some 3
    · rw [hv, if_pos rfl]
      rfl
    · rw [if_neg hv]
      cases hn : v.int64? with
      | none => rfl
      | some n =>
        have hne : n ≠ 3 := fun heq => hv (by rw [hn, heq])
        rw [Option.getD_some, Version.ofWire, if_neg hne]

section

variable {octets : List UInt8} {text : List Char}

/-- Octets that are no text are refused as such. -/
theorem parse_of_not_wellFormed (h : ¬ Utf8.WellFormed octets) :
    ∃ e, parse octets = .error (.invalidUtf8 e) := by
  unfold parse
  cases hdecode : Utf8.decode octets with
  | error e => exact ⟨e, rfl⟩
  | ok text => exact absurd ⟨text, Utf8.decode_eq_ok_iff.mp hdecode⟩ h

/-- Text is read as JSON, and then classified. -/
theorem parse_of_text (h : Utf8.octetsOf text = octets) :
    parse octets = ((Json.parseChars text).mapError (.invalidJson · text)).bind classify := by
  unfold parse
  rw [Utf8.decode_eq_ok_iff.mpr h]
  rfl

/-- Text is not refused for its octets. -/
theorem parse_ne_invalidUtf8 (h : Utf8.octetsOf text = octets) (e : Utf8.DecodeError) :
    parse octets ≠ .error (.invalidUtf8 e) := by
  intro he
  rw [parse_of_text h] at he
  cases hparse : Json.parseChars text with
  | error f => rw [hparse] at he; exact nomatch he
  | ok v =>
    rw [hparse] at he
    change classify v = _ at he
    -- No class of a document is the one of octets that are no text.
    unfold classify at he
    split at he <;> exact nomatch he

/-- Text that is not read as JSON is refused with the text. -/
theorem parse_of_unreadable (h : Utf8.octetsOf text = octets)
    (hnone : (Json.parseChars text).toOption = none) :
    ∃ f, parse octets = .error (.invalidJson f text) := by
  rw [parse_of_text h]
  cases hparse : Json.parseChars text with
  | error f => exact ⟨f, rfl⟩
  | ok v => rw [hparse] at hnone; exact nomatch hnone

/-- A text that no document spells is not read. -/
theorem parse_of_no_document (h : Utf8.octetsOf text = octets)
    (hno : ¬ ∃ d : Document, d.chars = text) :
    ∃ f, parse octets = .error (.invalidJson f text) := by
  apply parse_of_unreadable h
  cases hparse : Json.parseChars text with
  | error f => rfl
  | ok v =>
    -- Whatever is read was spelled by a document.
    obtain ⟨d, hd⟩ := Json.exists_document hparse
    exact absurd ⟨d, hd.symm⟩ hno

variable {d : Document}

/-- Half a surrogate pair, or too deep a nesting, anywhere in a document is not read. -/
theorem parse_of_bad_document (h : Utf8.octetsOf d.chars = octets)
    (hbad : (∃ ps ∈ d.root.strings, ¬ ps.Paired) ∨ 128 ≤ d.root.depth) :
    ∃ f, parse octets = .error (.invalidJson f d.chars) := by
  apply parse_of_unreadable h
  rw [Json.parseChars_document]
  split
  · rename_i hdepth
    -- A surrogate alone has no meaning, and what is too deep is given up.
    rcases hbad with ⟨ps, hps, hunpaired⟩ | hdeep
    · rw [← Option.not_isSome_iff_eq_none, Json.Tree.isSome_json?]
      exact fun hgood => hunpaired (hgood.1 ps hps)
    · exact absurd hdepth (by unfold Json.maxNesting; omega)
  · rfl

/-- A document that can be read is a reply if it is an object. -/
theorem parse_of_good_document (h : Utf8.octetsOf d.chars = octets)
    (hpaired : ∀ ps ∈ d.root.strings, ps.Paired) (hdepth : d.root.depth ≤ 127)
    (hmoderate : ∀ n ∈ d.root.numerals, n.Moderate) :
    parse octets =
      match d.root.members? with
      | none => .error .notAnObject
      | some ms => .ok (if announcesThird ms then .v3 else .v2) := by
  -- Moderate numbers are in range, so the tree stands for a value, and that is what is read.
  have hsome := (Json.Tree.isSome_json? d.root).mpr
    ⟨hpaired, fun n hn => (hmoderate n hn).inRange⟩
  obtain ⟨v, hv⟩ := Option.isSome_iff_exists.mp hsome
  have hread : Json.parseChars d.chars = .ok v := by
    have hdocument := Json.parseChars_document d
    rw [if_pos (show d.root.depth ≤ Json.maxNesting from hdepth), hv] at hdocument
    cases hparse : Json.parseChars d.chars with
    | error f => rw [hparse] at hdocument; exact nomatch hdocument
    | ok w => rw [hparse] at hdocument; cases hdocument; rfl
  rw [parse_of_text h, hread]
  show classify v = _
  rcases Json.Tree.members?_of_json? hv with ⟨hmembers, hother⟩ | ⟨ms, js, hmembers, rfl, hms⟩
  · rw [hmembers]
    unfold classify
    split
    · exact absurd rfl (hother _)
    · rfl
  · rw [hmembers]
    exact classify_object hms

end

/-- An object without members is the shortest reply. -/
theorem parse_braces : parse [0x7b, 0x7d] = .ok .v2 := by
  let d : Document := { before := [], root := .emptyObject [], after := [] }
  have hoctets : Utf8.octetsOf d.chars = [0x7b, 0x7d] := by decide
  exact parse_of_good_document hoctets (by decide) (by decide)
    (List.forall_mem_nil _)

/-- What is a reply, and what it announces. Octets that are not well-formed text are refused as
    such, and so is text that no JSON document spells, that has half a surrogate pair in a string or
    that nests arrays and objects 128 deep. Any other document is a reply if it is an object, as
    long as its numbers are moderate, and its last member with the right name decides on the
    version. -/
theorem parse_classifies (octets : List UInt8) :
    ((∃ e, parse octets = .error (.invalidUtf8 e)) ↔ ¬ Utf8.WellFormed octets) ∧
      ∀ text, Utf8.octetsOf text = octets →
        ((¬ ∃ d : Document, d.chars = text) →
          ∃ f, parse octets = .error (.invalidJson f text)) ∧
        ∀ d : Document, d.chars = text →
          ((∃ ps ∈ d.root.strings, ¬ ps.Paired) ∨ 128 ≤ d.root.depth →
            ∃ f, parse octets = .error (.invalidJson f text)) ∧
          ((∀ ps ∈ d.root.strings, ps.Paired) → d.root.depth ≤ 127 →
            (∀ n ∈ d.root.numerals, n.Moderate) →
              parse octets =
                match d.root.members? with
                | none => .error .notAnObject
                | some ms => .ok (if announcesThird ms then .v3 else .v2)) := by
  refine ⟨⟨?_, parse_of_not_wellFormed⟩, ?_⟩
  · rintro ⟨e, he⟩ ⟨text, htext⟩
    exact parse_ne_invalidUtf8 htext e he
  · intro text htext
    refine ⟨parse_of_no_document htext, ?_⟩
    rintro d rfl
    exact ⟨parse_of_bad_document htext, parse_of_good_document htext⟩

/-- A reply that names the version twice, the second time with one character escaped. -/
def announcement (first second : Fin 10) (escaped : Json.CodeUnit) : Document where
  before := []
  root := .object (.more [] (Pieces.ofPlain "protocol_version".toList) [] [.space]
    (.number (.ofDigit first)) []
    (.last [.space]
      (Pieces.ofPlain "protocol".toList ++ .unicode escaped :: Pieces.ofPlain "version".toList)
      [] [.space] (.number (.ofDigit second)) []))
  after := []

/-- Two replies, whose last versions are three and two. -/
theorem parse_announcement :
    let reply := announcement 2 3 ⟨.digit 0, .digit 0, .digit 5, .letter 5 false⟩
    reply.chars = "\x7b\"protocol_version\": 2, \"protocol\\u005fversion\": 3\x7d".toList ∧
      parse (Utf8.octetsOf reply.chars) = .ok .v3 := by
  intro reply
  have hpaired : ∀ ps ∈ reply.root.strings, ps.Paired := by decide
  have hmoderate : ∀ n ∈ reply.root.numerals, n.Moderate := by
    intro n hn
    rcases List.mem_pair.mp hn with rfl | rfl <;> exact Numeral.moderate_ofDigit _
  refine ⟨by decide, ?_⟩
  exact (((parse_classifies _).2 _ rfl).2 reply rfl).2 hpaired (by decide) hmoderate

end LossProbe.Reply
