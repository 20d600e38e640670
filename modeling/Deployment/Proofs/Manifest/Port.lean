import Deployment.Manifest.Service
import Deployment.Proofs.Text.Parts
import Deployment.Proofs.Value.Number

/-!
# Proofs/Manifest/Port — how ports are spelled

A text spells a port by an optional plus sign and digits, between a host before the last colon and a
protocol behind a slash (`SpellsPort`).  A number in a manifest may be written bare or as a text,
and under the target of a mapping (`SpellsNumber`).  Texts and numbers are converted by different
rules, and `ports_spelled` says that the spelling plays no part.
-/

namespace Deployment.Manifest

/-! ## Ports as texts

A text is cut behind its last colon, then before the first slash, then trimmed. What is left has to
be a port and nothing else. -/

/-- **How a text spells a port**: the part behind its last colon, before the first slash and between
the blanks is an optional plus sign and digits that denote the port. -/
structure SpellsPort (entry : String) (p : Nat) : Prop where
  parts : ∃ behind before core digits, Text.BehindLast ':' behind entry.toList ∧
    Text.BeforeFirst '/' before behind ∧ Text.Trimmed core before ∧
    (core = digits ∨ core = '+' :: digits) ∧ Text.IsDecimal digits p
  range : 1 ≤ p ∧ p ≤ 65535

/-- A number is a port in the range of ports. -/
theorem portOfText?_eq_some_iff {cs : List Char} {p : Nat} :
    Service.portOfText? cs = some p ↔ Text.readNat? 10 cs = some p ∧ 1 ≤ p ∧ p ≤ 65535 := by
  have hbound : p < Nat.pow 2 16 ↔ p ≤ 65535 := Nat.lt_succ_iff
  rw [Service.portOfText?, Option.filter_eq_some_iff, Text.readBelow?, Option.filter_eq_some_iff,
    decide_eq_true_iff, decide_eq_true_iff, hbound, and_assoc, Nat.one_le_iff_ne_zero,
    and_comm (a := p ≤ 65535)]

/-- **A text has the port that it spells**, and none if it spells none. -/
theorem normalizePort?_eq_some_iff {entry : String} {p : Nat} :
    normalizePort? entry = some p ↔ SpellsPort entry p := by
  rw [normalizePort?, portOfText?_eq_some_iff, Text.readNat?_eq_some_iff]
  constructor
  · rintro ⟨⟨digits, hdigits, hdecimal⟩, hrange⟩
    exact ⟨⟨_, _, _, digits, Text.afterLast_eq_iff.1 rfl, Text.beforeFirst_eq_iff.1 rfl,
      Text.trimChars_eq_iff.1 rfl, hdigits, hdecimal⟩, hrange⟩
  · rintro ⟨⟨behind, before, core, digits, hbehind, hbefore, hcore, hdigits, hdecimal⟩, hrange⟩
    rw [Text.afterLast_eq_iff.2 hbehind, Text.beforeFirst_eq_iff.2 hbefore,
      Text.trimChars_eq_iff.2 hcore]
    exact ⟨⟨digits, hdigits, hdecimal⟩, hrange⟩

/-- What is before a colon plays no part. -/
theorem normalizePort?_host (host entry : String) :
    normalizePort? (host ++ ":" ++ entry) = normalizePort? entry := by
  have htext : (host ++ ":" ++ entry).toList = host.toList ++ ':' :: entry.toList := by simp
  rw [normalizePort?, normalizePort?, htext, Text.afterLast_append]

/-- What is behind a slash plays no part, if it has no colon. -/
theorem normalizePort?_protocol {protocol : String} (h : ':' ∉ protocol.toList) (entry : String) :
    normalizePort? (entry ++ "/" ++ protocol) = normalizePort? entry := by
  have htext : (entry ++ "/" ++ protocol).toList = entry.toList ++ '/' :: protocol.toList := by
    simp
  have hclear : ':' ∉ '/' :: protocol.toList := by simp [h]
  rw [normalizePort?, normalizePort?, htext, Text.afterLast_append_of_not_mem _ hclear,
    Text.beforeFirst_append]

/-- A text with neither a colon nor a slash is looked at as a whole. -/
theorem normalizePort?_of_unbroken {entry : String} (h : Text.Unbroken entry.toList) :
    normalizePort? entry = Service.portOfText? (Text.trimChars entry.toList) := by
  have hcolon : ':' ∉ entry.toList := fun hmem => (h _ hmem).1 rfl
  have hslash : '/' ∉ entry.toList := fun hmem => (h _ hmem).2 rfl
  rw [normalizePort?, Text.afterLast_eq_iff.2 ⟨hcolon, Or.inl rfl⟩,
    Text.beforeFirst_of_not_mem hslash]

/-- The characters around and in a port. -/
theorem cases_of_portOfText? {cs : List Char} {p : Nat}
    (h : Service.portOfText? (Text.trimChars cs) = some p) :
    ∀ c ∈ cs, Text.isBlank c = true ∨ c = '+' ∨ c.isDigit = true := by
  obtain ⟨digits, hdigits, hdecimal⟩ :=
    Text.readNat?_eq_some_iff.1 (portOfText?_eq_some_iff.1 h).1
  obtain ⟨⟨before, behind, hcut, hbefore, hbehind⟩, -, -⟩ :=
    Text.trimChars_eq_iff.1 (rfl : Text.trimChars cs = _)
  rw [hcut, List.forall_mem_append, List.forall_mem_append]
  refine ⟨⟨fun c hc => Or.inl (hbefore c hc), fun c hc => Or.inr ?_⟩,
    fun c hc => Or.inl (hbehind c hc)⟩
  rcases hdigits with heq | heq
  · rw [heq] at hc
    exact Or.inr (hdecimal.digits c hc)
  · rw [heq, List.mem_cons] at hc
    exact hc.imp_right (hdecimal.digits c)

/-- **A text with a character of another kind is no port.** -/
theorem normalizePort?_eq_none {entry : String} (h : Text.Unbroken entry.toList) {c : Char}
    (hc : c ∈ entry.toList) (hblank : Text.isBlank c = false) (hplus : c ≠ '+')
    (hdigit : c.isDigit = false) : normalizePort? entry = none := by
  rw [normalizePort?_of_unbroken h]
  refine Option.eq_none_iff_forall_ne_some.2 fun p hport => ?_
  rcases cases_of_portOfText? hport c hc with hc | hc | hc
  · exact absurd hc (by simp [hblank])
  · exact hplus hc
  · exact absurd hc (by simp [hdigit])

/-! ## Ports as numbers

A number has a text. That of an integer is its digits, and that of any other number has a character
that no port has, so both ways of reading agree. -/

/-- The port that a number is. -/
def numberPort? : Number → Option Nat
  | .int i => if 0 < i ∧ i ≤ 65535 then some i.toNat else none
  | .float _ => none

theorem isBlank_of_isDigit {c : Char} (h : c.isDigit = true) : Text.isBlank c = false := by
  obtain ⟨hlow, hhigh⟩ := Char.isDigit_iff_toNat.1 h
  have hzero : '0'.toNat = 48 := rfl
  have hnine : '9'.toNat = 57 := rfl
  rw [Text.isBlank, Bool.eq_false_iff, ne_eq, CharSet.contains_iff]
  rintro ⟨r, hr, hrange⟩
  have hapart : ∀ r ∈ Text.blankSet.ranges, r.2 < 48 ∨ 57 < r.1 := by decide
  have := hapart r hr
  omega

/-- A bare number is a port if it is an integer in the range. -/
theorem scalarPort?_number (n : Number) : scalarPort? (.number n) = numberPort? n := by
  cases n with
  | int i =>
    have hbound : i < Nat.pow 2 16 ↔ i ≤ 65535 := Int.lt_add_one_iff (b := 65535)
    simp only [scalarPort?, numberPort?, hbound]
  | float x => rfl

/-- The digits of a number are its port. -/
theorem portOfText?_toDigits (n : Nat) :
    Service.portOfText? (Text.trimChars (Nat.toDigits 10 n)) = numberPort? (.int n) := by
  have hdecimal := Text.isDecimal_toDigits n
  have hblank (c : Char) (hc : c ∈ Nat.toDigits 10 n) : Text.isBlank c = false :=
    isBlank_of_isDigit (hdecimal.digits c hc)
  have htrim : Text.trimChars (Nat.toDigits 10 n) = Nat.toDigits 10 n :=
    Text.trimChars_eq_iff.2 ⟨⟨[], [], by simp, nofun, nofun⟩,
      fun c hc => hblank c (List.mem_of_mem_head? hc),
      fun c hc => hblank c (List.mem_of_mem_getLast? hc)⟩
  refine Option.ext fun p => ?_
  rw [htrim, portOfText?_eq_some_iff, Text.readNat?_toDigits, numberPort?,
    Option.ite_none_right_eq_some, Option.some.injEq, Option.some.injEq]
  omega

/-- **The text of a number spells the port that the number is.** -/
theorem normalizePort?_text (n : Number) : normalizePort? n.text = numberPort? n := by
  cases n with
  | int i =>
    have htext := Number.toList_text_int i
    split at htext
    · rename_i hneg
      have hwhole : Text.Unbroken (Number.text (.int i)).toList := by
        rw [htext]
        exact Text.unbroken_append.2 ⟨by decide, Text.unbroken_toDigits _⟩
      have hsign : '-' ∈ (Number.text (.int i)).toList := by simp [htext]
      rw [normalizePort?_eq_none hwhole hsign (by decide) (by decide) (by decide), numberPort?,
        if_neg (by omega)]
    · rename_i hnonneg
      rw [List.nil_append] at htext
      have hwhole : Text.Unbroken (Number.text (.int i)).toList := htext ▸ Text.unbroken_toDigits _
      rw [normalizePort?_of_unbroken hwhole, htext, portOfText?_toDigits,
        Int.natAbs_of_nonneg (Int.not_lt.1 hnonneg)]
  | float x =>
    obtain ⟨hwhole, c, hc, rfl | rfl⟩ := Number.pointed_floatText x
    · exact normalizePort?_eq_none hwhole hc (by decide) (by decide) (by decide)
    · exact normalizePort?_eq_none hwhole hc (by decide) (by decide) (by decide)

theorem scalarPort?_text (n : Number) : scalarPort? (.string n.text) = numberPort? n := by
  rw [scalarPort?, normalizePort?_text]

/-- A mapping has the port of its target. -/
theorem entryPort?_mapping {long : List (Value × Value)} {v : Value}
    (h : Value.lookup "target" long = some v) : entryPort? (.mapping long) = scalarPort? v := by
  rw [entryPort?, h, Option.bind_some]

/-- **How an entry of `ports` spells a number**: bare or as a text, by itself or as the target of a
mapping. -/
inductive SpellsNumber (n : Number) : Value → Prop
  | number : SpellsNumber n (.number n)
  | text : SpellsNumber n (.string n.text)
  | numberTarget {long : List (Value × Value)} :
    Value.lookup "target" long = some (.number n) → SpellsNumber n (.mapping long)
  | textTarget {long : List (Value × Value)} :
    Value.lookup "target" long = some (.string n.text) → SpellsNumber n (.mapping long)

/-- **However a number is spelled, its port is the same.** -/
theorem SpellsNumber.entryPort?_eq {n : Number} {v : Value} (h : SpellsNumber n v) :
    entryPort? v = numberPort? n := by
  cases h with
  | number => exact scalarPort?_number n
  | text => exact scalarPort?_text n
  | numberTarget h => exact (entryPort?_mapping h).trans (scalarPort?_number n)
  | textTarget h => exact (entryPort?_mapping h).trans (scalarPort?_text n)

/-- **How ports are spelled.**  A text has the port that it spells, whatever the number of its
digits, and has none otherwise.  A number has one port or none, however it is spelled.  A host
before a colon and a protocol without colons behind a slash leave the port as it is. -/
theorem ports_spelled :
    (∀ entry p, normalizePort? entry = some p ↔ SpellsPort entry p) ∧
      (∀ n v, SpellsNumber n v → entryPort? v = numberPort? n) ∧
      (∀ host entry, normalizePort? (host ++ ":" ++ entry) = normalizePort? entry) ∧
      ∀ entry protocol, ':' ∉ protocol.toList →
        normalizePort? (entry ++ "/" ++ protocol) = normalizePort? entry :=
  ⟨fun _ _ => normalizePort?_eq_some_iff, fun _ _ h => h.entryPort?_eq, normalizePort?_host,
    fun entry _ h => normalizePort?_protocol h entry⟩

/-- A mapping with the number of its target as a text. -/
def longPort : List (Value × Value) :=
  [(.string "published", .number (.int 8080)), (.string "target", .string "80")]

theorem ports_spelled_loopback :
    SpellsPort "::1:8080: +0080\t" 80 ∧
      normalizePort? ("::1:8080: +0080\t" ++ "/" ++ "udp/tcp") = some 80 ∧
      SpellsNumber (.int 80) (.mapping longPort) ∧ entryPort? (.mapping longPort) = some 80 ∧
      SpellsNumber (.float (.ofRatio false 80 1)) (.string "80.0") ∧
      entryPort? (.string "80.0") = none := by
  obtain ⟨htext, hnumber, -, hprotocol⟩ := ports_spelled
  have hport : normalizePort? "::1:8080: +0080\t" = some 80 := by decide +kernel
  have hlong : SpellsNumber (.int 80) (.mapping longPort) := by
    have htext : Number.text (.int 80) = "80" := by decide +kernel
    refine .textTarget ?_
    rw [htext]
    rfl
  have hfloat : SpellsNumber (.float (.ofRatio false 80 1)) (.string "80.0") := by
    have htext : Number.text (.float (.ofRatio false 80 1)) = "80.0" := by decide +kernel
    rw [← htext]
    exact .text
  exact ⟨(htext _ _).1 hport, (hprotocol _ "udp/tcp" (by decide +kernel)).trans hport, hlong,
    hnumber _ _ hlong, hfloat, hnumber _ _ hfloat⟩

end Deployment.Manifest
