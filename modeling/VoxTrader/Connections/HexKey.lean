import Mathlib.Algebra.GroupWithZero.Nat
import Mathlib.Data.List.Basic

/-!
# Master keys

A master key is read from a text of 64 hexadecimal digits. The text is measured and cut in bytes,
and two bytes at a time are read as a number, which may have a sign.

## Main results

* `parse_hex_key_strict` — the 64 digits are read and nothing else, exactly of a text that is
  neither read with a sign nor cut inside a character.
-/

namespace VoxTrader.Connections

/-- Why there is no key. -/
inductive KeyProviderError
  | missingVersion (version : ℕ)
  | missingExternalKey
  | invalidExternalKey
  | nonMonotonicVersion
  | unavailable
deriving DecidableEq

/-- The bytes of a key. -/
def keyLen : ℕ := 32

/-- The bytes of a text. -/
def byteLen (text : List Char) : ℕ := (text.map Char.utf8Size).sum

/-- Cut a text behind some bytes; nothing if that is inside a character. -/
def cutAt : List Char → ℕ → Option (List Char × List Char)
  | text, 0 => some ([], text)
  | [], _ + 1 => none
  | c :: text, bytes + 1 =>
    if c.utf8Size ≤ bytes + 1 then
      (cutAt text (bytes + 1 - c.utf8Size)).map fun cut => (c :: cut.1, cut.2)
    else none

/-- The value of a hexadecimal digit. -/
def toDigit (c : Char) : Option ℕ :=
  if '0' ≤ c ∧ c ≤ '9' then some (c.toNat - '0'.toNat)
  else if 'a' ≤ c ∧ c ≤ 'f' then some (c.toNat - 'a'.toNat + 10)
  else if 'A' ≤ c ∧ c ≤ 'F' then some (c.toNat - 'A'.toNat + 10)
  else none

/-- Read digits; two of them fit into a byte. -/
def readDigits (digits : List Char) : Option ℕ :=
  digits.foldlM (fun value c => (toDigit c).map (value * 16 + ·)) 0

/-- Read a number as the standard library does: a plus may stand before the digits. -/
def fromStrRadix : List Char → Option ℕ
  | [] | ['+'] | ['-'] => none
  | '+' :: digits => readDigits digits
  | digits => readDigits digits

/-- Read the bytes of a text; nothing if that panics. -/
def parseBytes : ℕ → List Char → Option (Except KeyProviderError (List UInt8))
  | 0, _ => some (.ok [])
  | count + 1, text => do
    let (slice, rest) ← cutAt text 2
    match fromStrRadix slice with
    | none => some (.error .invalidExternalKey)
    | some byte => (parseBytes count rest).map (·.map (UInt8.ofNat byte :: ·))

/-- Read a key; nothing if that panics. -/
def parseHexKey (value : String) : Option (Except KeyProviderError (List UInt8)) :=
  if byteLen value.toList ≠ keyLen * 2 then some (.error .invalidExternalKey)
  else parseBytes keyLen value.toList

/-! ## What is read -/

/-- The bytes that hexadecimal digits denote. -/
def denoted : List Char → List UInt8
  | high :: low :: text =>
    UInt8.ofNat ((toDigit high).getD 0 * 16 + (toDigit low).getD 0) :: denoted text
  | _ => []

/-- A pair of characters that is read as a byte: a digit behind a digit or behind a plus. -/
def Readable (pair : Char × Char) : Prop :=
  (pair.1 = '+' ∨ (toDigit pair.1).isSome) ∧ (toDigit pair.2).isSome

/-- The texts that are misread. Behind pairs that are read, the next two bytes end inside a
character, or a plus and a digit come before digits only. -/
inductive Misread : List Char → Prop
  | cut {c : Char} {text : List Char}
      (h : 2 < c.utf8Size ∨ c.utf8Size = 1 ∧ ∃ d ∈ text.head?, 1 < d.utf8Size) :
      Misread (c :: text)
  | sign {d : Char} {text : List Char} (h : ∀ c ∈ d :: text, (toDigit c).isSome) :
      Misread ('+' :: d :: text)
  | later {c d : Char} {text : List Char} (hpair : Readable (c, d)) (h : Misread text) :
      Misread (c :: d :: text)

/-- A digit is one byte. -/
lemma utf8Size_digit {c : Char} (h : (toDigit c).isSome) : c.utf8Size = 1 := by
  have hle : c.toNat ≤ 0x7f := by
    unfold toDigit at h
    split_ifs at h with h₀ h₁ h₂
    · exact Nat.le_trans h₀.2 (by decide)
    · exact Nat.le_trans h₁.2 (by decide)
    · exact Nat.le_trans h₂.2 (by decide)
    · cases h
  exact if_pos hle

/-- Digits have as many bytes as there are of them. -/
lemma byteLen_digits {text : List Char} (h : ∀ c ∈ text, (toDigit c).isSome) :
    byteLen text = text.length := by
  rw [byteLen, List.map_congr_left fun c hc => utf8Size_digit (h c hc), List.map_const',
    List.sum_replicate_nat, Nat.mul_one]

/-- Both characters of a readable pair are one byte. -/
lemma Readable.utf8Size {pair : Char × Char} (h : Readable pair) :
    pair.1.utf8Size = 1 ∧ pair.2.utf8Size = 1 := by
  refine ⟨?_, utf8Size_digit h.2⟩
  obtain hplus | hdigit := h.1
  · rw [hplus]
    decide
  · exact utf8Size_digit hdigit

/-- Two characters of one byte are cut off. -/
lemma cutAt_pair {c d : Char} (hc : c.utf8Size = 1) (hd : d.utf8Size = 1) (rest : List Char) :
    cutAt (c :: d :: rest) 2 = some ([c, d], rest) := by
  simp [cutAt, hc, hd]

/-- Two characters are read as a byte if both are digits. -/
lemma fromStrRadix_pair {high low : Char} (hhigh : high ≠ '+') : fromStrRadix [high, low] =
    (toDigit high).bind fun h => (toDigit low).map (h * 16 + ·) := by
  have hread : fromStrRadix [high, low] = readDigits [high, low] := by
    unfold fromStrRadix
    split <;> simp_all
  rw [hread]
  cases hh : toDigit high <;> simp [readDigits, hh]

/-- Two characters are read exactly if they are a readable pair. -/
lemma isSome_fromStrRadix (c d : Char) : (fromStrRadix [c, d]).isSome ↔ Readable (c, d) := by
  by_cases hc : c = '+'
  · subst hc
    cases hd : toDigit d <;> simp [fromStrRadix, readDigits, Readable, hd]
  · rw [fromStrRadix_pair hc]
    cases hc' : toDigit c <;> cases hd : toDigit d <;> simp [Readable, hc, hc', hd]

/-- A readable pair takes two of the bytes. -/
lemma readable_bytes {c d : Char} {text : List Char} {count : ℕ} (hpair : Readable (c, d))
    (hbytes : byteLen (c :: d :: text) = count * 2) :
    ∃ left, count = left + 1 ∧ byteLen text = left * 2 := by
  have hsum : c.utf8Size + (d.utf8Size + byteLen text) = count * 2 := hbytes
  rw [hpair.utf8Size.1, hpair.utf8Size.2] at hsum
  exact ⟨count - 1, by omega, by omega⟩

/-- A readable pair is read as a byte, and the reading goes on. -/
lemma parseBytes_readable {c d : Char} (hpair : Readable (c, d)) (count : ℕ) (text : List Char) :
    ∃ byte, parseBytes (count + 1) (c :: d :: text) =
      (parseBytes count text).map (·.map (byte :: ·)) := by
  obtain ⟨byte, hbyte⟩ := Option.isSome_iff_exists.mp ((isSome_fromStrRadix c d).mpr hpair)
  refine ⟨UInt8.ofNat byte, ?_⟩
  rw [parseBytes, cutAt_pair hpair.utf8Size.1 hpair.utf8Size.2]
  simp only [Option.bind_eq_bind, Option.bind_some, hbyte]

/-- The result that hexadecimal digits and nothing else should have. -/
def strictly (text : List Char) : Option (Except KeyProviderError (List UInt8)) :=
  some (if text.all fun c => (toDigit c).isSome then .ok (denoted text)
    else .error .invalidExternalKey)

/-- A text that does not begin with a digit, or whose second character is none, is refused. -/
lemma parseBytes_refused {count : ℕ} {text slice rest : List Char}
    (hcut : cutAt text 2 = some (slice, rest)) (hread : fromStrRadix slice = none)
    (hdigits : ¬ ∀ c ∈ text, (toDigit c).isSome) : parseBytes (count + 1) text = strictly text := by
  have hall : ¬ (text.all fun c => (toDigit c).isSome) = true := by simpa using hdigits
  rw [parseBytes, hcut, strictly, if_neg hall]
  simp only [Option.bind_eq_bind, Option.bind_some, hread]

/-- A pair of one-byte characters is read strictly if the text behind it is and there is no sign
to read. -/
lemma parseBytes_pair {count : ℕ} {c d : Char} {text : List Char} (hc : c.utf8Size = 1)
    (hd : d.utf8Size = 1) (hread : ¬ Misread (c :: d :: text))
    (hrest : Readable (c, d) → parseBytes count text = strictly text) :
    parseBytes (count + 1) (c :: d :: text) = strictly (c :: d :: text) := by
  have hcut := cutAt_pair hc hd text
  by_cases hpair : Readable (c, d)
  swap
  · have hread : fromStrRadix [c, d] = none := by
      rw [← Option.not_isSome_iff_eq_none, isSome_fromStrRadix]
      exact hpair
    refine parseBytes_refused hcut hread fun hdigits => hpair ⟨.inr ?_, ?_⟩
    · exact hdigits c List.mem_cons_self
    · exact hdigits d (List.mem_cons_of_mem _ List.mem_cons_self)
  obtain ⟨low, hlow⟩ := Option.isSome_iff_exists.mp hpair.2
  rw [parseBytes, hcut]
  simp only [Option.bind_eq_bind, Option.bind_some, hrest hpair]
  by_cases hplus : c = '+'
  · -- the sign is read, so what follows it has to be refused
    subst hplus
    have hdigits : ¬ ∀ c ∈ text, (toDigit c).isSome :=
      fun h => hread (.sign (List.forall_mem_cons.mpr ⟨hpair.2, h⟩))
    have hall : ¬ (text.all fun c => (toDigit c).isSome) = true := by simpa using hdigits
    have hread : fromStrRadix ['+', d] = some low := by simp [fromStrRadix, readDigits, hlow]
    rw [hread, strictly, if_neg hall, strictly, if_neg (by simp [toDigit])]
    rfl
  · obtain ⟨high, hhigh⟩ := Option.isSome_iff_exists.mp (hpair.1.resolve_left hplus)
    rw [fromStrRadix_pair hplus]
    simp only [hhigh, hlow, Option.bind_some, Option.map_some, strictly, List.all_cons,
      Option.isSome_some, Bool.true_and, denoted, Option.getD_some]
    split_ifs <;> rfl

/-- The loop reads strictly what is not misread. -/
lemma parseBytes_strict (count : ℕ) {text : List Char} (hbytes : byteLen text = count * 2)
    (hread : ¬ Misread text) : parseBytes count text = strictly text := by
  -- what is left behind a readable pair is not misread either
  induction count generalizing text with
  | zero =>
    obtain _ | ⟨c, rest⟩ := text
    · rfl
    · have hpos := c.utf8Size_pos
      simp only [byteLen, List.map_cons, List.sum_cons] at hbytes
      omega
  | succ count ih =>
    obtain _ | ⟨c, rest⟩ := text
    · simp [byteLen] at hbytes
    have hsum : c.utf8Size + byteLen rest = (count + 1) * 2 := hbytes
    have hpos := c.utf8Size_pos
    have hc : c.utf8Size ≤ 2 := by
      by_contra hlarge
      exact hread (.cut (.inl (by omega)))
    obtain hc | hc : c.utf8Size = 1 ∨ c.utf8Size = 2 := by omega
    · obtain _ | ⟨d, rest⟩ := rest
      · simp [byteLen] at hsum
        omega
      have hd : d.utf8Size = 1 := by
        by_contra hlarge
        have hpos' := d.utf8Size_pos
        exact hread (.cut (.inr ⟨hc, d, rfl, by omega⟩))
      have hrest : byteLen rest = count * 2 := by
        have hsum' : c.utf8Size + (d.utf8Size + byteLen rest) = (count + 1) * 2 := hbytes
        omega
      exact parseBytes_pair hc hd hread fun hpair => ih hrest fun h => hread (.later hpair h)
    · -- a character of two bytes is no digit and no sign
      have hdigit : toDigit c = none := by
        rw [← Option.not_isSome_iff_eq_none]
        exact fun h => absurd (utf8Size_digit h) (by omega)
      have hcut : cutAt (c :: rest) 2 = some ([c], rest) := by simp [cutAt, hc]
      have hnone : fromStrRadix [c] = none := by
        unfold fromStrRadix
        split <;> simp_all [readDigits]
      exact parseBytes_refused hcut hnone fun h => by simp [hdigit] at h

/-- What is misread is not made of digits. -/
lemma Misread.not_digits {text : List Char} (h : Misread text) :
    ¬ ∀ c ∈ text, (toDigit c).isSome := by
  intro hdigits
  induction h with
  | @cut c text h =>
    obtain ⟨hc, htext⟩ := List.forall_mem_cons.mp hdigits
    obtain hlarge | ⟨-, d, hd, hlarge⟩ := h
    · exact absurd (utf8Size_digit hc) (by omega)
    · exact absurd (utf8Size_digit (htext d (List.mem_of_head? hd))) (by omega)
  | sign => exact absurd (hdigits '+' List.mem_cons_self) (by decide)
  | later _ _ ih => exact ih fun c hc => hdigits c (by simp [hc])

/-- What is misread panics, or a key is read from it. -/
lemma Misread.panics_or_accepted {count : ℕ} {text : List Char} (h : Misread text)
    (hbytes : byteLen text = count * 2) :
    parseBytes count text = none ∨ ∃ key, parseBytes count text = some (.ok key) := by
  induction h generalizing count with
  | @cut c text h =>
    obtain _ | count := count
    · exact absurd hbytes (Nat.ne_of_gt (Nat.add_pos_left c.utf8Size_pos _))
    have hcut : cutAt (c :: text) 2 = none := by
      obtain hlarge | ⟨hone, d, hd, hlarge⟩ := h
      · simp [cutAt, Nat.not_le.mpr hlarge]
      · obtain ⟨text, rfl⟩ := List.head?_eq_some_iff.mp hd
        simp [cutAt, hone, Nat.not_le.mpr hlarge]
    rw [parseBytes, hcut]
    exact .inl rfl
  | @sign d text h =>
    obtain ⟨hd, htext⟩ := List.forall_mem_cons.mp h
    have hpair : Readable ('+', d) := ⟨.inl rfl, hd⟩
    obtain ⟨count, rfl, hrest⟩ := readable_bytes hpair hbytes
    have hdigits : (text.all fun c => (toDigit c).isSome) = true := List.all_eq_true.mpr htext
    have hread := parseBytes_strict count hrest fun h => h.not_digits htext
    rw [strictly, if_pos hdigits] at hread
    obtain ⟨byte, hbyte⟩ := parseBytes_readable hpair count text
    exact .inr ⟨_, by rw [hbyte, hread]; rfl⟩
  | @later c d text hpair h ih =>
    obtain ⟨count, rfl, hrest⟩ := readable_bytes hpair hbytes
    obtain ⟨byte, hbyte⟩ := parseBytes_readable hpair count text
    rw [hbyte]
    obtain hnone | ⟨key, hkey⟩ := ih hrest
    · exact .inl (by rw [hnone]; rfl)
    · exact .inr ⟨_, by rw [hkey]; rfl⟩

/-- **Keys are read strictly exactly if they are not misread**: 64 hexadecimal digits are read as
the bytes they denote, everything else is refused and nothing panics, if and only if the text is
not one of 64 bytes that is cut inside a character or read with a sign. -/
theorem parse_hex_key_strict (value : String) :
    parseHexKey value = some (if value.toList.length = 64 ∧
        value.toList.all (fun c => (toDigit c).isSome) then .ok (denoted value.toList)
      else .error .invalidExternalKey) ↔
    ¬ (byteLen value.toList = 64 ∧ Misread value.toList) := by
  have hlength : (∀ c ∈ value.toList, (toDigit c).isSome) →
      byteLen value.toList = value.toList.length := byteLen_digits
  by_cases hbytes : byteLen value.toList = keyLen * 2
  swap
  · have hparse : parseHexKey value = some (.error .invalidExternalKey) := if_pos hbytes
    rw [hparse, if_neg fun h => hbytes ((hlength (List.all_eq_true.mp h.2)).trans h.1)]
    exact iff_of_true rfl fun h => hbytes h.1
  have hparse : parseHexKey value = parseBytes keyLen value.toList := if_neg (not_not.mpr hbytes)
  have hall : (value.toList.length = 64 ∧ value.toList.all fun c => (toDigit c).isSome) ↔
      (value.toList.all fun c => (toDigit c).isSome) = true :=
    ⟨And.right, fun h => ⟨(hlength (List.all_eq_true.mp h)).symm.trans hbytes, h⟩⟩
  simp only [hparse, hall]
  constructor
  · rintro hstrict ⟨-, hmisread⟩
    have hdigits : ¬ (value.toList.all fun c => (toDigit c).isSome) = true :=
      fun h => hmisread.not_digits (List.all_eq_true.mp h)
    rw [if_neg hdigits] at hstrict
    obtain hnone | ⟨key, hkey⟩ := hmisread.panics_or_accepted hbytes
    · cases hnone.symm.trans hstrict
    · cases hkey.symm.trans hstrict
  · intro h
    exact parseBytes_strict keyLen hbytes fun hmisread => h ⟨hbytes, hmisread⟩

/-- **A sign is read as part of a key, and a text that is not ASCII panics.** -/
theorem sign_is_read_and_slice_panics :
    (∃ key, parseHexKey (String.ofList ('+' :: List.replicate 63 'f')) = some (.ok key)) ∧
      parseHexKey (String.ofList ('0' :: 'é' :: List.replicate 61 '0')) = none :=
  ⟨⟨_, rfl⟩, rfl⟩

end VoxTrader.Connections
