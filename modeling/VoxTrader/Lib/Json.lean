import Mathlib.Data.List.Basic
import Mathlib.Data.Nat.Digits.Defs
import Mathlib.Tactic.IntervalCases

/-!
# Reading JSON texts

A reader for JSON texts whose numbers are integers, and a writer that is free in how it escapes the
characters of a text. The reader takes back whatever the writer writes, so a format that is written
with the one and read with the other loses nothing.

## Main definitions

* `Json` — the values.
* `Json.render` — the text of a value, given how characters are escaped.
* `Json.readValue`, `Json.parse` — the value at the beginning of a text, and the value of a text.
* `Json.Escapes` — every escaped character is read as the character.
* `Json.fieldsOf`, `Json.variantOf`, `Json.optionOf` — records of named fields, words and optional
  values.

## Main results

* `Json.readNumber_render` — a number is read back.
* `Json.readText_escaped` — a text is read back.
* `Json.parse_render` — every value is read back.
-/

mutual

/-- A JSON value. -/
inductive Json
  | null
  | bool (value : Bool)
  | number (value : ℤ)
  | text (value : List Char)
  | array (items : Json.Items)
  | object (fields : Json.Fields)

/-- The elements of an array. -/
inductive Json.Items
  | nil
  | cons (item : Json) (rest : Json.Items)

/-- The fields of an object, in the order of the text. -/
inductive Json.Fields
  | nil
  | cons (key : List Char) (value : Json) (rest : Json.Fields)

end

namespace Json

open List (append_nil nil_append cons_append tail_cons flatMap_cons length_cons append_assoc
  length_append)
open Option (bind_eq_bind bind_some map_some)

/-! ## Writing -/

section

variable (escape : Char → List Char)

/-- A text between quotation marks. -/
def renderText (value : List Char) : List Char := '"' :: value.flatMap escape ++ ['"']

mutual

/-- The text of a value. -/
def render : Json → List Char
  | null => "null".toList
  | bool value => (if value then "true" else "false").toList
  | number value => (toString value).toList
  | text value => renderText escape value
  | array items => '[' :: renderItems items ++ [']']
  | object fields => '\x7b' :: renderFields fields ++ ['\x7d']

/-- The elements of an array, with commas between them. -/
def renderItems : Items → List Char
  | .nil => []
  | .cons item .nil => render item
  | .cons item rest => render item ++ ',' :: renderItems rest

/-- The fields of an object, with commas between them. -/
def renderFields : Fields → List Char
  | .nil => []
  | .cons key value .nil => renderText escape key ++ ':' :: render value
  | .cons key value rest => renderText escape key ++ ':' :: render value ++ ',' :: renderFields rest

end

end

/-! ## Reading -/

/-- White space between the parts of a text. -/
def isSpace (c : Char) : Bool := c = ' ' || c = '\t' || c = '\n' || c = '\r'

/-- Pass over white space. -/
def skip (s : List Char) : List Char := s.dropWhile isSpace

/-- The value of a hexadecimal digit. -/
def hexDigit (c : Char) : Option ℕ :=
  if c.isDigit then some (c.toNat - '0'.toNat)
  else if 'a' ≤ c ∧ c ≤ 'f' then some (c.toNat - 'a'.toNat + 10)
  else if 'A' ≤ c ∧ c ≤ 'F' then some (c.toNat - 'A'.toNat + 10)
  else none

/-- Four hexadecimal digits. -/
def readHex : List Char → Option (ℕ × List Char)
  | a :: b :: c :: d :: s => do
    some (((← hexDigit a) * 16 + (← hexDigit b)) * 256 + (← hexDigit c) * 16 + (← hexDigit d), s)
  | _ => none

/-- The character of a code point above the basic plane, from its two halves. -/
def joinSurrogates (high low : ℕ) : Option Char :=
  if 0xDC00 ≤ low ∧ low < 0xE000 then
    some (Char.ofNat (0x10000 + (high - 0xD800) * 0x400 + (low - 0xDC00)))
  else none

/-- An escape, after its backslash. -/
def readEscape : List Char → Option (Char × List Char)
  | '"' :: s => some ('"', s)
  | '\\' :: s => some ('\\', s)
  | '/' :: s => some ('/', s)
  | 'b' :: s => some ('\x08', s)
  | 'f' :: s => some ('\x0c', s)
  | 'n' :: s => some ('\n', s)
  | 'r' :: s => some ('\r', s)
  | 't' :: s => some ('\t', s)
  | 'u' :: s => do
    let (code, s) ← readHex s
    if 0xD800 ≤ code ∧ code < 0xDC00 then
      match s with
      | '\\' :: 'u' :: s =>
        let (low, s) ← readHex s
        (joinSurrogates code low).map fun c => (c, s)
      | _ => none
    else if 0xDC00 ≤ code ∧ code < 0xE000 then none
    else some (Char.ofNat code, s)
  | _ => none

/-- One character of a text; a quotation mark and control characters have to be escaped. -/
def readChar : List Char → Option (Char × List Char)
  | [] => none
  | c :: s =>
    if c = '\\' then readEscape s
    else if c = '"' ∨ c.toNat < 0x20 then none
    else some (c, s)

/-- The characters of a text up to its quotation mark; `fuel` bounds how many there are. -/
def readText : ℕ → List Char → Option (List Char × List Char)
  | 0, _ => none
  | fuel + 1, s =>
    if s.head? = some '"' then some ([], s.tail)
    else do
      let (c, s) ← readChar s
      let (value, s) ← readText fuel s
      some (c :: value, s)

/-- An integer without leading zeros. -/
def readNumber (s : List Char) : Option (ℤ × List Char) :=
  let negative := s.head? = some '-'
  let unsigned := if negative then s.tail else s
  let digits := unsigned.takeWhile Char.isDigit
  let rest := unsigned.dropWhile Char.isDigit
  if digits = [] ∨ (1 < digits.length ∧ digits.head? = some '0') ∨
      rest.head? ∈ [some '.', some 'e', some 'E'] then none
  else
    let value : ℤ := Nat.ofDigitChars 10 digits 0
    some (if negative then -value else value, rest)

/-- A fixed word. -/
def readWord (word : String) (value : Json) (s : List Char) : Option (Json × List Char) :=
  if word.toList.isPrefixOf s then some (value, s.drop word.toList.length) else none

mutual

/-- The value at the beginning of a text; `fuel` bounds the depth and the number of parts. -/
def readValue : ℕ → List Char → Option (Json × List Char)
  | 0, _ => none
  | fuel + 1, s =>
    let s := skip s
    match s.head? with
    | some '\x7b' =>
      if (skip s.tail).head? = some '\x7d' then some (object .nil, (skip s.tail).tail)
      else (readFields fuel s.tail).map fun (fields, s) => (object fields, s)
    | some '[' =>
      if (skip s.tail).head? = some ']' then some (array .nil, (skip s.tail).tail)
      else (readItems fuel s.tail).map fun (items, s) => (array items, s)
    | some '"' => (readText fuel s.tail).map fun (value, s) => (text value, s)
    | some 't' => readWord "true" (bool true) s
    | some 'f' => readWord "false" (bool false) s
    | some 'n' => readWord "null" null s
    | _ => (readNumber s).map fun (value, s) => (number value, s)

/-- The elements of an array, up to its end. -/
def readItems : ℕ → List Char → Option (Items × List Char)
  | 0, _ => none
  | fuel + 1, s => do
    let (item, s) ← readValue fuel s
    let s := skip s
    match s.head? with
    | some ']' => some (.cons item .nil, s.tail)
    | some ',' => (readItems fuel s.tail).map fun (rest, s) => (.cons item rest, s)
    | _ => none

/-- The fields of an object, up to its end. -/
def readFields : ℕ → List Char → Option (Fields × List Char)
  | 0, _ => none
  | fuel + 1, s => do
    let s := skip s
    if s.head? ≠ some '"' then none
    let (key, s) ← readText fuel s.tail
    let s := skip s
    if s.head? ≠ some ':' then none
    let (value, s) ← readValue fuel s.tail
    let s := skip s
    match s.head? with
    | some '\x7d' => some (.cons key value .nil, s.tail)
    | some ',' => (readFields fuel s.tail).map fun (rest, s) => (.cons key value rest, s)
    | _ => none

end

/-- The value of a text. -/
def parse (s : List Char) : Option Json := do
  let (value, rest) ← readValue (s.length + 1) s
  if skip rest = [] then some value else none

/-! ## Reading what was written -/

/-- A value ends where a comma or a bracket follows, or nothing. -/
def Ends (rest : List Char) : Prop := ∀ c ∈ rest.head?, c = ',' ∨ c = ']' ∨ c = '\x7d'

lemma ends_nil : Ends [] := nofun

variable {c : Char} {rest : List Char}

lemma ends_cons (h : c = ',' ∨ c = ']' ∨ c = '\x7d') :
    Ends (c :: rest) := by
  intro c' hc'
  cases hc'
  exact h

lemma skip_cons {s : List Char} (h : isSpace c = false) : skip (c :: s) = c :: s := by
  rw [skip, List.dropWhile_cons_of_neg (by rw [h]; exact Bool.false_ne_true)]

/-- The digits of a number are digits. -/
lemma all_isDigit_toDigits (n : ℕ) : ∀ c ∈ Nat.toDigits 10 n, c.isDigit = true :=
  fun _ hc => Nat.isDigit_of_mem_toDigits (by decide) (by decide) hc

/-- The digits of a positive number do not begin with a zero. -/
lemma head_toDigits_ne_zero {n : ℕ} (h : 0 < n) : (Nat.toDigits 10 n).head? ≠ some '0' := by
  induction n using Nat.strong_induction_on with
  | _ n ih =>
    by_cases hn : n < 10
    · rw [Nat.toDigits_of_lt_base hn]
      interval_cases n <;> decide
    · rw [Nat.toDigits_of_base_le (by decide) (by omega),
        List.head?_append_of_ne_nil _ Nat.toDigits_ne_nil]
      exact ih (n / 10) (by omega) (by omega)

/-- A digit is none of several characters that are not digits. -/
lemma not_mem_of_isDigit (h : c.isDigit = true) {others : List Char}
    (hothers : others.all (!·.isDigit) = true) : c ∉ others := by
  intro hmem
  have hnot := List.all_eq_true.mp hothers c hmem
  rw [h] at hnot
  cases hnot

lemma isSpace_of_isDigit (h : c.isDigit = true) : isSpace c = false := by
  have hnot : c ∉ [' ', '\t', '\n', '\r'] := not_mem_of_isDigit h (by decide)
  simpa [isSpace, and_assoc] using hnot

/-- Digits are told from what follows them. -/
lemma span_digits {digits rest : List Char} (hdigits : ∀ c ∈ digits, c.isDigit = true)
    (hrest : Ends rest) :
    (digits ++ rest).takeWhile Char.isDigit = digits ∧
      (digits ++ rest).dropWhile Char.isDigit = rest := by
  rw [List.takeWhile_append_of_pos hdigits, List.dropWhile_append_of_pos hdigits]
  cases rest with
  | nil => exact ⟨append_nil _, rfl⟩
  | cons c =>
    have hc : ¬ c.isDigit = true := by
      rcases hrest c rfl with rfl | rfl | rfl <;> decide
    rw [List.takeWhile_cons_of_neg hc, List.dropWhile_cons_of_neg hc, append_nil]
    exact ⟨rfl, rfl⟩

/-- The digits of a natural number are read back, with or without a sign. -/
lemma readNumber_digits (negative : Bool) (n : ℕ) (hrest : Ends rest) :
    readNumber ((if negative then ['-'] else []) ++ Nat.toDigits 10 n ++ rest) =
      some (if negative then -(n : ℤ) else n, rest) := by
  obtain ⟨htake, hdrop⟩ := span_digits (all_isDigit_toDigits n) hrest
  have hlead : ¬ (1 < (Nat.toDigits 10 n).length ∧ (Nat.toDigits 10 n).head? = some '0') := by
    rintro ⟨hlong, hzero⟩
    refine head_toDigits_ne_zero ?_ hzero
    by_contra hnot
    rw [Nat.eq_zero_of_not_pos hnot] at hlong
    exact absurd hlong (by decide)
  have hfollow : rest.head? ∉ [some '.', some 'e', some 'E'] := by
    cases rest with
    | nil => decide
    | cons c =>
      rw [List.head?_cons]
      rcases hrest c rfl with rfl | rfl | rfl <;> decide
  have hsign : ((Nat.toDigits 10 n ++ rest).head? = some '-') = False := by
    rw [List.head?_append_of_ne_nil _ Nat.toDigits_ne_nil, eq_iff_iff, iff_false]
    exact fun hhead => absurd (all_isDigit_toDigits n _ (List.mem_of_mem_head? hhead)) (by decide)
  cases negative with
  | false =>
    simp only [readNumber, Bool.false_eq_true, if_false, nil_append, hsign, htake, hdrop,
      Nat.toDigits_ne_nil, hlead, hfollow, or_self, Nat.ofDigitChars_ten_toDigits]
  | true =>
    simp only [readNumber, if_true, cons_append, nil_append, List.head?_cons,
      tail_cons, htake, hdrop, Nat.toDigits_ne_nil, hlead, hfollow, or_self, if_false,
      Nat.ofDigitChars_ten_toDigits]

/-- The text of a number, sign and digits. -/
lemma toString_number (n : ℤ) : (toString n).toList =
    (if n < 0 then ['-'] else []) ++ Nat.toDigits 10 n.natAbs := by
  have hdigits : ∀ m : ℕ, (toString m).toList = Nat.toDigits 10 m := fun m => String.toList_ofList
  cases n with
  | ofNat m =>
    have hsign : ¬ Int.ofNat m < 0 := Int.not_lt.mpr (Int.natCast_nonneg m)
    rw [if_neg hsign]
    exact hdigits m
  | negSucc m =>
    rw [if_pos (by omega)]
    change ("-" ++ toString (m + 1)).toList = _
    rw [String.toList_append, hdigits]
    rfl

/-- **A number is read back.** -/
lemma readNumber_render {n : ℤ} (hrest : Ends rest) :
    readNumber ((toString n).toList ++ rest) = some (n, rest) := by
  have h := readNumber_digits (decide (n < 0)) n.natAbs hrest
  rw [toString_number]
  by_cases hn : n < 0
  · simp only [hn, decide_true, if_true] at h ⊢
    rw [h, Int.ofNat_natAbs_of_nonpos (by omega), Int.neg_neg]
  · simp only [hn, decide_false, Bool.false_eq_true, if_false] at h ⊢
    rw [h, Int.natAbs_of_nonneg (by omega)]

/-- Every escaped character is read as the character. -/
def Escapes (escape : Char → List Char) : Prop :=
  ∀ c rest, readChar (escape c ++ rest) = some (c, rest)

section

variable {escape : Char → List Char}

/-- An escaped character is some text, which is not the end of the text. -/
lemma Escapes.head (h : Escapes escape) (c : Char) :
    ∃ first more, escape c = first :: more ∧ first ≠ '"' := by
  have hread := h c []
  rw [append_nil] at hread
  rcases hescape : escape c with _ | ⟨first, more⟩
  · rw [hescape] at hread
    cases hread
  · refine ⟨first, more, rfl, ?_⟩
    rintro rfl
    rw [hescape] at hread
    simp [readChar] at hread

/-- **A text is read back**, by induction on its characters. -/
lemma readText_escaped (h : Escapes escape) (value : List Char) :
    ∀ {fuel : ℕ} {rest : List Char}, value.length < fuel →
      readText fuel (value.flatMap escape ++ '"' :: rest) = some (value, rest) := by
  induction value with
  | nil =>
    intro fuel rest hfuel
    rcases fuel with _ | fuel
    · cases hfuel
    · rfl
  | cons c value ih =>
    intro fuel rest hfuel
    rcases fuel with _ | fuel
    · cases hfuel
    obtain ⟨first, more, hescape, hfirst⟩ := h.head c
    have hhead : ((c :: value).flatMap escape ++ '"' :: rest).head? ≠ some '"' := by
      rw [flatMap_cons, hescape]
      exact fun heq => hfirst (Option.some.inj heq)
    rw [length_cons] at hfuel
    have hmore : readText fuel (value.flatMap escape ++ '"' :: rest) = some (value, rest) :=
      ih (by omega)
    rw [readText, if_neg hhead, flatMap_cons, append_assoc, h c]
    simp only [bind_eq_bind, bind_some, hmore]

lemma length_le_flatMap (h : Escapes escape) (value : List Char) :
    value.length ≤ (value.flatMap escape).length := by
  induction value with
  | nil => exact Nat.le_refl _
  | cons c value ih =>
    obtain ⟨first, more, hescape, -⟩ := h.head c
    rw [flatMap_cons, hescape, length_append, length_cons, length_cons]
    omega

/-- The text of a number begins like no other value. -/
lemma number_first (n : ℤ) : ∃ first more, (toString n).toList = first :: more ∧
    isSpace first = false ∧ first ∉ ['\x7b', '[', ']', '"', 't', 'f', 'n'] := by
  rw [toString_number]
  split_ifs
  · exact ⟨_, _, rfl, by decide, by decide⟩
  · rcases hdigits : Nat.toDigits 10 n.natAbs with _ | ⟨c, more⟩
    · exact absurd hdigits Nat.toDigits_ne_nil
    · have hc := all_isDigit_toDigits n.natAbs c (hdigits ▸ List.mem_cons_self)
      exact ⟨c, more, rfl, isSpace_of_isDigit hc, not_mem_of_isDigit hc (by decide)⟩

/-- The text of a value begins with a character that is neither white space nor the end of an
array. -/
lemma render_first (escape : Char → List Char) (v : Json) :
    ∃ first more, v.render escape = first :: more ∧ isSpace first = false ∧ first ≠ ']' := by
  cases v with
  | null | text value | array items | object fields => exact ⟨_, _, rfl, by decide, by decide⟩
  | bool value => cases value <;> exact ⟨_, _, rfl, by decide, by decide⟩
  | number n =>
    obtain ⟨first, more, hn, hspace, hfirst⟩ := number_first n
    exact ⟨first, more, hn, hspace, fun heq => hfirst (by simp [heq])⟩

end

section

variable {escape : Char → List Char}

/-- A text that begins like no other value is a number. -/
lemma readValue_number {fuel : ℕ} {s : List Char} (hspace : isSpace c = false)
    (hc : c ∉ ['\x7b', '[', ']', '"', 't', 'f', 'n']) :
    readValue (fuel + 1) (c :: s) = (readNumber (c :: s)).map fun (n, s) => (number n, s) := by
  simp only [List.mem_cons, List.not_mem_nil, or_false, not_or] at hc
  obtain ⟨hobject, harray, -, htext, htrue, hfalse, hnull⟩ := hc
  simp only [readValue, skip_cons hspace, List.head?_cons]
  split
  · exact absurd (Option.some.inj ‹_›) hobject
  · exact absurd (Option.some.inj ‹_›) harray
  · exact absurd (Option.some.inj ‹_›) htext
  · exact absurd (Option.some.inj ‹_›) htrue
  · exact absurd (Option.some.inj ‹_›) hfalse
  · exact absurd (Option.some.inj ‹_›) hnull
  · rfl

/-- A key and its colon are read back, and what follows is read next. -/
lemma readFields_key (h : Escapes escape) {fuel : ℕ} {key s : List Char}
    (hfuel : key.length < fuel) :
    readFields (fuel + 1) (renderText escape key ++ ':' :: s) = (do
      let (value, s) ← readValue fuel s
      let s := skip s
      match s.head? with
      | some '\x7d' => some (.cons key value .nil, s.tail)
      | some ',' => (readFields fuel s.tail).map fun (rest, s) => (.cons key value rest, s)
      | _ => none) := by
  have hread : readText fuel (key.flatMap escape ++ '"' :: (':' :: s)) = some (key, ':' :: s) :=
    readText_escaped h key hfuel
  have hquote : isSpace '"' = false := by decide
  have hcolon : isSpace ':' = false := by decide
  simp only [readFields, renderText, cons_append, append_assoc, nil_append,
    skip_cons hquote, List.head?_cons, tail_cons, ne_eq, not_true_eq_false, if_false, hread,
    bind_eq_bind, bind_some, skip_cons hcolon]

/-- An element with others after it. -/
lemma renderItems_cons (item next : Json) (more : Items) :
    renderItems escape (.cons item (.cons next more)) =
      render escape item ++ ',' :: renderItems escape (.cons next more) := by
  rw [renderItems]
  exact Items.noConfusion

/-- A field with others after it. -/
lemma renderFields_cons (key next : List Char) (value value' : Json) (more : Fields) :
    renderFields escape (.cons key value (.cons next value' more)) =
      renderText escape key ++ ':' :: render escape value ++
        ',' :: renderFields escape (.cons next value' more) := by
  rw [renderFields]
  exact Fields.noConfusion

lemma renderItems_first (escape : Char → List Char) (item : Json) (more : Items) :
    ∃ first others, renderItems escape (.cons item more) = first :: others ∧
      isSpace first = false ∧ first ≠ ']' := by
  obtain ⟨first, others, hitem, hspace, hfirst⟩ := render_first escape item
  cases more with
  | nil => exact ⟨first, others, by rw [renderItems, hitem], hspace, hfirst⟩
  | cons next more =>
    refine ⟨first, others ++ ',' :: renderItems escape (.cons next more), ?_, hspace, hfirst⟩
    rw [renderItems_cons, hitem, cons_append]

lemma renderFields_first (escape : Char → List Char) (key : List Char) (value : Json)
    (more : Fields) :
    ∃ others, renderFields escape (.cons key value more) = '"' :: others := by
  cases more with
  | nil => exact ⟨_, by rw [renderFields, renderText, cons_append, cons_append]⟩
  | cons =>
    exact ⟨_, by
      rw [renderFields_cons, renderText, cons_append, cons_append, cons_append]⟩

mutual

/-- A value is read back. -/
theorem readValue_render (h : Escapes escape) (v : Json) {fuel : ℕ} {rest : List Char}
    (hfuel : (v.render escape).length < fuel) (hrest : Ends rest) :
    readValue fuel (v.render escape ++ rest) = some (v, rest) := by
  rcases fuel with _ | fuel
  · omega
  match v with
  | null => simp [render, readValue, skip_cons, isSpace, readWord]
  | bool value => cases value <;> simp [render, readValue, skip_cons, isSpace, readWord]
  | number n =>
    obtain ⟨first, more, hn, hspace, hfirst⟩ := number_first n
    have hread : readNumber ((toString n).toList ++ rest) = some (n, rest) :=
      readNumber_render hrest
    rw [hn, cons_append] at hread
    rw [render, hn, cons_append, readValue_number hspace hfirst, hread]
    rfl
  | text value =>
    have hread : readText fuel (value.flatMap escape ++ '"' :: rest) = some (value, rest) := by
      refine readText_escaped h value ?_
      have := length_le_flatMap h value
      simp only [render, renderText, length_append, length_cons] at hfuel
      omega
    have hquote : isSpace '"' = false := by decide
    simp only [render, renderText, readValue, cons_append, append_assoc,
      nil_append, skip_cons hquote, List.head?_cons, tail_cons, hread, map_some]
  | array .nil => simp [render, renderItems, readValue, skip_cons, isSpace]
  | array (.cons item more) =>
    have hread : readItems fuel (renderItems escape (.cons item more) ++ ']' :: rest) =
        some (.cons item more, rest) := by
      refine readItems_render h (.cons item more) ?_ Items.noConfusion
      simp only [render, length_append, length_cons] at hfuel
      omega
    obtain ⟨first, others, hitem, hspace, hfirst⟩ := renderItems_first escape item more
    have hbracket : isSpace '[' = false := by decide
    have hopen : (skip (renderItems escape (.cons item more) ++ ']' :: rest)).head? ≠ some ']' := by
      rw [hitem, cons_append, skip_cons hspace]
      exact fun heq => hfirst (Option.some.inj heq)
    simp only [render, readValue, cons_append, append_assoc, nil_append,
      skip_cons hbracket, List.head?_cons, tail_cons, hopen, if_false, hread, map_some]
  | object .nil => simp [render, renderFields, readValue, skip_cons, isSpace]
  | object (.cons key value more) =>
    have hread : readFields fuel (renderFields escape (.cons key value more) ++ '\x7d' :: rest) =
        some (.cons key value more, rest) := by
      refine readFields_render h (.cons key value more) ?_ Fields.noConfusion
      simp only [render, length_append, length_cons] at hfuel
      omega
    obtain ⟨others, hfields⟩ := renderFields_first escape key value more
    have hbrace : isSpace '\x7b' = false := by decide
    have hopen : (skip (renderFields escape (.cons key value more) ++ '\x7d' :: rest)).head? ≠
        some '\x7d' := by
      rw [hfields, cons_append, skip_cons (by decide)]
      exact fun heq => absurd (Option.some.inj heq) (by decide)
    simp only [render, readValue, cons_append, append_assoc, nil_append,
      skip_cons hbrace, List.head?_cons, tail_cons, hopen, if_false, hread, map_some]

/-- The elements of an array are read back. -/
theorem readItems_render (h : Escapes escape) (items : Items) {fuel : ℕ} {rest : List Char}
    (hfuel : (renderItems escape items).length + 1 < fuel) (hitems : items ≠ .nil) :
    readItems fuel (renderItems escape items ++ ']' :: rest) = some (items, rest) := by
  rcases fuel with _ | fuel
  · omega
  have hend : isSpace ']' = false := by decide
  have hcomma : isSpace ',' = false := by decide
  match items with
  | .nil => exact absurd rfl hitems
  | .cons item .nil =>
    have hitem : readValue fuel (item.render escape ++ ']' :: rest) = some (item, ']' :: rest) := by
      rw [renderItems] at hfuel
      exact readValue_render h item (by omega) (ends_cons (by decide))
    simp only [readItems, renderItems, hitem, bind_eq_bind, bind_some,
      skip_cons hend, List.head?_cons, tail_cons]
  | .cons item (.cons next more) =>
    rw [renderItems_cons, length_append, length_cons] at hfuel
    have hitem : readValue fuel (item.render escape ++
        ',' :: (renderItems escape (.cons next more) ++ ']' :: rest)) =
        some (item, ',' :: (renderItems escape (.cons next more) ++ ']' :: rest)) :=
      readValue_render h item (by omega) (ends_cons (by decide))
    have hmore : readItems fuel (renderItems escape (.cons next more) ++ ']' :: rest) =
        some (.cons next more, rest) :=
      readItems_render h (.cons next more) (by omega) Items.noConfusion
    simp only [readItems, renderItems_cons, append_assoc, cons_append, hitem,
      bind_eq_bind, bind_some, skip_cons hcomma, List.head?_cons, tail_cons,
      hmore, map_some]

/-- The fields of an object are read back. -/
theorem readFields_render (h : Escapes escape) (fields : Fields) {fuel : ℕ}
    {rest : List Char} (hfuel : (renderFields escape fields).length < fuel)
    (hfields : fields ≠ .nil) :
    readFields fuel (renderFields escape fields ++ '\x7d' :: rest) = some (fields, rest) := by
  rcases fuel with _ | fuel
  · omega
  have hend : isSpace '\x7d' = false := by decide
  have hcomma : isSpace ',' = false := by decide
  match fields with
  | .nil => exact absurd rfl hfields
  | .cons key value .nil =>
    rw [renderFields, renderText, length_append, length_cons, length_append,
      length_cons] at hfuel
    have hvalue : readValue fuel (value.render escape ++ '\x7d' :: rest) =
        some (value, '\x7d' :: rest) :=
      readValue_render h value (by omega) (ends_cons (by decide))
    have hkey := length_le_flatMap h key
    rw [renderFields, append_assoc, cons_append, readFields_key h (by omega)]
    simp only [hvalue, bind_eq_bind, bind_some, skip_cons hend, List.head?_cons,
      tail_cons]
  | .cons key value (.cons next value' more) =>
    simp only [renderFields_cons, renderText, length_append, length_cons] at hfuel
    have hvalue : readValue fuel (value.render escape ++
        ',' :: (renderFields escape (.cons next value' more) ++ '\x7d' :: rest)) =
        some (value, ',' :: (renderFields escape (.cons next value' more) ++ '\x7d' :: rest)) :=
      readValue_render h value (by omega) (ends_cons (by decide))
    have hmore : readFields fuel (renderFields escape (.cons next value' more) ++ '\x7d' :: rest) =
        some (.cons next value' more, rest) :=
      readFields_render h (.cons next value' more) (by omega) Fields.noConfusion
    have hkey := length_le_flatMap h key
    rw [renderFields_cons, append_assoc, append_assoc, cons_append, cons_append,
      readFields_key h (by omega)]
    simp only [hvalue, bind_eq_bind, bind_some, skip_cons hcomma, List.head?_cons,
      tail_cons, hmore, map_some]

end

end

/-- **Every value is read back**, whatever the escapes. -/
theorem parse_render {escape : Char → List Char} (h : Escapes escape) (v : Json) :
    parse (v.render escape) = some v := by
  have hread : readValue ((v.render escape).length + 1) (v.render escape ++ []) = some (v, []) :=
    readValue_render h v (Nat.lt_succ_self _) ends_nil
  rw [append_nil] at hread
  rw [parse, hread]
  rfl

/-! ## Records of named fields -/

/-- The values a key has in an object, in the order of the text. -/
def Fields.lookup (key : List Char) : Fields → List Json
  | .nil => []
  | .cons key' value rest =>
    if key' = key then value :: rest.lookup key else rest.lookup key

/-- The elements of an array. -/
def Items.toList : Items → List Json
  | .nil => []
  | .cons item rest => item :: rest.toList

/-- The fields of a record: an object may leave fields out and have others, but has none of them
twice; an array has all of them in their order. -/
def fieldsOf (names : List String) : Json → Option (List (Option Json))
  | object fields => names.mapM fun name =>
    match fields.lookup name.toList with
    | [] => some none
    | [value] => some (some value)
    | _ => none
  | array items =>
    if items.toList.length = names.length then some (items.toList.map some) else none
  | _ => none

/-- One of several words; an object with the word as its key and nothing else says the same. -/
def variantOf {α : Type} (all : List α) (word : α → String) : Json → Option α
  | text s => all.find? fun a => (word a).toList = s
  | object (.cons s null .nil) => all.find? fun a => (word a).toList = s
  | _ => none

/-- A field that may be left out or `null`. -/
def optionOf {α : Type} (read : Json → Option α) : Option Json → Option (Option α)
  | none | some null => some none
  | some value => (read value).map some

/-- A word that belongs to one variant only is read as that variant. -/
lemma variantOf_text {α : Type} {all : List α} {word : α → String} {a : α} (ha : a ∈ all)
    (hword : ∀ b ∈ all, word b = word a → b = a) :
    variantOf all word (text (word a).toList) = some a := by
  change all.find? (fun b => (word b).toList = (word a).toList) = some a
  rcases hfind : all.find? fun b => (word b).toList = (word a).toList with _ | b
  · exact absurd (decide_eq_true rfl) (List.find?_eq_none.mp hfind a ha)
  · have hb := List.find?_some hfind
    rw [hword b (List.mem_of_find?_eq_some hfind) (String.toList_injective (of_decide_eq_true hb))]

end Json
