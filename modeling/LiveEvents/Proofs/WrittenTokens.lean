import LiveEvents.Json.Reader
import LiveEvents.Text.Digits
import Mathlib.Data.Nat.Digits.Defs

/-!
# Texts and numerals in JSON documents

The ways to write a character inside a text: as itself, by a short escape, by one UTF-16 unit or by
two. And the numerals: a sign, digits without leading zeros, places and an exponent. The reader
makes of either what was written.
-/

namespace LiveEvents.Json

/-! ## How texts are written -/

/-- The letters of the short escapes, and what they stand for. -/
def shortEscapes : List (Char × Char) :=
  [('"', '"'), ('\\', '\\'), ('/', '/'), ('b', '\x08'), ('f', '\x0c'), ('n', '\n'), ('r', '\r'),
    ('t', '\t')]

/-- Goes on with a number in hexadecimal digits. -/
def hexValue? (start : Nat) (digits : List Char) : Option Nat :=
  digits.foldlM (fun n c => (Reader.hexDigit? c).map (n * 16 + ·)) start

/-- Four hexadecimal digits that write a UTF-16 unit. -/
def WritesUnit (unit : Nat) (digits : List Char) : Prop :=
  digits.length = 4 ∧ hexValue? 0 digits = some unit

/-- What can write a character inside a text. -/
inductive WritesChar : Char → List Char → Prop where
  | itself {c : Char} (hquote : c ≠ '"') (hslash : c ≠ '\\') (hcontrol : 0x20 ≤ c.toNat) :
      WritesChar c [c]
  | short {letter c : Char} (h : (letter, c) ∈ shortEscapes) : WritesChar c ['\\', letter]
  | unit {c : Char} {digits : List Char} (h : WritesUnit c.toNat digits) :
      WritesChar c ('\\' :: 'u' :: digits)
  | pair {c : Char} {high low : List Char} (hlarge : 0x10000 ≤ c.toNat)
      (hhigh : WritesUnit (0xD800 + (c.toNat - 0x10000) / 0x400) high)
      (hlow : WritesUnit (0xDC00 + (c.toNat - 0x10000) % 0x400) low) :
      WritesChar c ('\\' :: 'u' :: (high ++ '\\' :: 'u' :: low))

/-- What can write the characters of a text. -/
inductive WritesChars : List Char → List Char → Prop where
  | nil : WritesChars [] []
  | cons {c : Char} {text cs rest : List Char} (hc : WritesChar c cs)
      (hrest : WritesChars text rest) : WritesChars (c :: text) (cs ++ rest)

/-- What can write a text, with its quotes. -/
def WritesString (s : String) (cs : List Char) : Prop :=
  ∃ body, WritesChars s.toList body ∧ cs = '"' :: (body ++ ['"'])

/-! ## How numerals are written -/

/-- Decimal digits that do not begin with a zero, unless it is the only one. -/
inductive IsWhole : List Char → Prop where
  | zero : IsWhole ['0']
  | digits {c : Char} {rest : List Char} (hc : c.isDigit = true) (hzero : c ≠ '0')
      (hrest : ∀ d ∈ rest, d.isDigit = true) : IsWhole (c :: rest)

/-- An exponent as written: its letter, its sign if it has one, and its digits. -/
structure Power where
  capital : Bool
  sign : Option Bool
  digits : List Char

namespace Power

def chars (e : Power) : List Char :=
  (if e.capital then 'E' else 'e') ::
    ((match e.sign with
      | none => []
      | some false => ['+']
      | some true => ['-']) ++ e.digits)

def value (e : Power) : Int :=
  if e.sign = some true then -(Text.decimalValue e.digits : Int) else Text.decimalValue e.digits

end Power

structure Figures where
  negative : Bool := false
  whole : List Char
  places : List Char := []
  power : Option Power := none

namespace Figures

def chars (f : Figures) : List Char :=
  (if f.negative then ['-'] else []) ++ (f.whole ++
    ((if f.places = [] then [] else '.' :: f.places) ++ (f.power.map (·.chars)).getD []))

def numeral (f : Figures) : Numeral where
  negative := f.negative
  digits := Text.decimalValue (f.whole ++ f.places)
  places := f.places.length
  exponent := (f.power.map (·.value)).getD 0
  plain := f.places.isEmpty && f.power.isNone

/-- The digits are digits, and there are some where there must be. -/
structure Sound (f : Figures) : Prop where
  whole : IsWhole f.whole
  places : ∀ d ∈ f.places, d.isDigit = true
  power : ∀ e ∈ f.power, e.digits ≠ [] ∧ ∀ d ∈ e.digits, d.isDigit = true

/-- A whole number as it is written. -/
def ofInt (i : Int) : Figures where
  negative := decide (i < 0)
  whole := Text.decimal i.natAbs

end Figures

def Numeral.ofInt (i : Int) : Numeral where
  negative := decide (i < 0)
  digits := i.natAbs

namespace Reader

variable {p : Place} {c : Char} {cs : List Char}

theorem foldlM_hex {digits : List Char} {missing start value : Nat} (l : Letters)
    (hlength : digits.length = missing + 1) (hvalue : hexValue? start digits = some value) :
    digits.foldlM step ⟨.hex l (missing + 1) start, p⟩ =
      some ⟨.string (l.addUnit value), p⟩ := by
  induction digits generalizing missing start with
  | nil => cases hlength
  | cons c rest ih =>
    simp only [hexValue?, List.foldlM_cons] at hvalue ⊢
    cases hc : hexDigit? c with
    | none => simp [hc] at hvalue
    | some d =>
      simp only [hc, Option.map_some, Option.bind_eq_bind, Option.bind_some] at hvalue
      cases missing with
      | zero =>
        have hnil : rest = [] := List.length_eq_zero_iff.mp (by simpa using hlength)
        subst hnil
        cases hvalue
        simp [step, hc]
      | succ missing =>
        have hstep : step ⟨.hex l (missing + 1 + 1) start, p⟩ c =
            some ⟨.hex l (missing + 1) (start * 16 + d), p⟩ := by
          simp [step, hc]
        rw [hstep]
        exact ih (by simpa using hlength) hvalue

theorem foldlM_unit {unit : Nat} {digits : List Char} (l : Letters) (h : WritesUnit unit digits) :
    ('\\' :: 'u' :: digits).foldlM step ⟨.string l, p⟩ = some ⟨.string (l.addUnit unit), p⟩ :=
  foldlM_hex l h.1 h.2

/-- No character is half of a surrogate pair. -/
theorem not_surrogate (c : Char) : c.toNat < 0xD800 ∨ 0xE000 ≤ c.toNat ∧ c.toNat < 0x110000 := by
  have hvalid : c.toNat.isValidChar := c.valid
  unfold Nat.isValidChar at hvalid
  omega

theorem addUnit_char (done : List Char) (c : Char) :
    Letters.addUnit { reversed := done } c.toNat = { reversed := c :: done } := by
  have hchar := not_surrogate c
  have hhigh : ¬(0xD800 ≤ c.toNat ∧ c.toNat < 0xDC00) := by omega
  have hlow : ¬(0xDC00 ≤ c.toNat ∧ c.toNat < 0xE000) := by omega
  simp [Letters.addUnit, hhigh, hlow]

/-- The two units of a character beyond the first 65536. -/
theorem addUnit_pair (done : List Char) {high low : Nat} (hhigh : high < 0x400) (hlow : low < 0x400)
    (hc : c.toNat = 0x10000 + high * 0x400 + low) :
    Letters.addUnit (Letters.addUnit { reversed := done } (0xD800 + high)) (0xDC00 + low) =
      { reversed := c :: done } := by
  have hfirst : 0xD800 ≤ 0xD800 + high ∧ 0xD800 + high < 0xDC00 := by omega
  have hsecond : 0xDC00 ≤ 0xDC00 + low ∧ 0xDC00 + low < 0xE000 := by omega
  simp only [Letters.addUnit, hfirst, hsecond, Bool.and_self, decide_true, if_true,
    Nat.add_sub_cancel_left, ← hc, Char.ofNat_toNat]

theorem foldlM_writesChar (done : List Char) (h : WritesChar c cs) :
    cs.foldlM step ⟨.string { reversed := done }, p⟩ =
      some ⟨.string { reversed := c :: done }, p⟩ := by
  cases h with
  | itself hquote hslash hcontrol =>
    have hlt : ¬c.toNat < 0x20 := Nat.not_lt_of_ge hcontrol
    simp [step, hquote, hslash, hlt, Letters.add]
  | short h =>
    simp only [shortEscapes, List.mem_cons, Prod.mk.injEq, List.not_mem_nil, or_false] at h
    rcases h with h | h | h | h | h | h | h | h <;> obtain ⟨rfl, rfl⟩ := h <;> rfl
  | unit h => rw [foldlM_unit _ h, addUnit_char]
  | @pair _ high low hlarge hhigh hlow =>
    have hchar := not_surrogate c
    have hsplit : '\\' :: 'u' :: (high ++ '\\' :: 'u' :: low) =
        ('\\' :: 'u' :: high) ++ ('\\' :: 'u' :: low) := rfl
    have hwhole : c.toNat =
        0x10000 + (c.toNat - 0x10000) / 0x400 * 0x400 + (c.toNat - 0x10000) % 0x400 := by
      omega
    rw [hsplit, List.foldlM_append, foldlM_unit _ hhigh]
    simp only [Option.bind_eq_bind, Option.bind_some]
    rw [foldlM_unit _ hlow, addUnit_pair done (by omega) (by omega) hwhole]

theorem foldlM_writesChars {text : List Char} (done : List Char) (h : WritesChars text cs) :
    cs.foldlM step ⟨.string { reversed := done }, p⟩ =
      some ⟨.string { reversed := text.reverse ++ done }, p⟩ := by
  induction h generalizing done with
  | nil => rfl
  | cons hc _ ih =>
    rw [List.foldlM_append, foldlM_writesChar done hc]
    simpa using ih _

/-- A written text is read as a value or as a key, whichever is wanted. -/
theorem foldlM_writesString {s : String} {p' : Place} (h : WritesString s cs)
    (hp : p.scalar (.string (some s)) = some p') :
    cs.foldlM step ⟨.between, p⟩ = some ⟨.between, p'⟩ := by
  obtain ⟨body, hbody, rfl⟩ := h
  have hopen : step ⟨.between, p⟩ '"' = some ⟨.string { reversed := [] }, p⟩ := rfl
  rw [List.foldlM_cons, hopen]
  simp only [Option.bind_eq_bind, Option.bind_some, List.foldlM_append]
  rw [foldlM_writesChars [] hbody]
  simp [step, Letters.text?, hp]

/-! ## Reading numerals -/

theorem isDigit_cases (h : c.isDigit = true) :
    c = '0' ∨ c = '1' ∨ c = '2' ∨ c = '3' ∨ c = '4' ∨ c = '5' ∨ c = '6' ∨ c = '7' ∨ c = '8' ∨
      c = '9' := by
  simp only [Char.isDigit, Bool.and_eq_true, decide_eq_true_eq] at h
  have hlow : 48 ≤ c.toNat := h.1
  have hhigh : c.toNat ≤ 57 := h.2
  simp only [← Char.toNat_inj, Char.reduceToNat]
  omega

def digitValue (c : Char) : Nat := c.toNat - '0'.toNat

/-- The reader stands in a numeral. -/
def inNumeral (p : Place) (part : NumeralPart) (n : Numeral) (exponentNegative : Bool) : State :=
  ⟨.numeral part n exponentNegative, p⟩

variable {n : Numeral} {neg : Bool} {part : NumeralPart}

theorem step_whole (h : c.isDigit = true) :
    step (inNumeral p .whole n neg) c =
      some (inNumeral p .whole (addDigit n (digitValue c)) neg) := by
  rcases isDigit_cases h with rfl | rfl | rfl | rfl | rfl | rfl | rfl | rfl | rfl | rfl <;> rfl

theorem step_place (hpart : part = .point ∨ part = .places) (h : c.isDigit = true) :
    step (inNumeral p part n neg) c =
      some (inNumeral p .places (addPlace n (digitValue c)) neg) := by
  rcases hpart with rfl | rfl <;>
    rcases isDigit_cases h with rfl | rfl | rfl | rfl | rfl | rfl | rfl | rfl | rfl | rfl <;> rfl

theorem step_exponent (hpart : part = .exponentMark ∨ part = .exponentSign ∨ part = .exponent)
    (h : c.isDigit = true) :
    step (inNumeral p part n neg) c =
      some (inNumeral p .exponent (addExponentDigit n (digitValue c)) neg) := by
  rcases hpart with rfl | rfl | rfl <;>
    rcases isDigit_cases h with rfl | rfl | rfl | rfl | rfl | rfl | rfl | rfl | rfl | rfl <;> rfl

/-- Digits that go on with a part of a numeral are added to it one by one. -/
theorem foldlM_digits {add : Numeral → Nat → Numeral}
    (hstep : ∀ n c, c.isDigit = true → step (inNumeral p part n neg) c =
      some (inNumeral p part (add n (digitValue c)) neg))
    {ds : List Char} (hds : ∀ d ∈ ds, d.isDigit = true) (n : Numeral) :
    ds.foldlM step (inNumeral p part n neg) =
      some (inNumeral p part (ds.foldl (fun n c => add n (digitValue c)) n) neg) := by
  induction ds generalizing n with
  | nil => rfl
  | cons d rest ih =>
    rw [List.foldlM_cons, hstep n d (hds d List.mem_cons_self)]
    exact ih (fun d hd => hds d (List.mem_cons_of_mem _ hd)) _

/-- Goes on with a number in decimal digits. -/
def moreDigits (start : Nat) (ds : List Char) : Nat :=
  ds.foldl (fun n c => n * 10 + digitValue c) start

theorem decimalValue_eq (ds : List Char) : Text.decimalValue ds = moreDigits 0 ds := rfl

theorem moreDigits_append (start : Nat) (ds es : List Char) :
    moreDigits start (ds ++ es) = moreDigits (moreDigits start ds) es :=
  List.foldl_append

theorem foldl_addDigit (n : Numeral) (ds : List Char) :
    ds.foldl (fun n c => addDigit n (digitValue c)) n =
      { n with digits := moreDigits n.digits ds } := by
  induction ds generalizing n with
  | nil => rfl
  | cons d rest ih =>
    rw [List.foldl_cons, ih]
    rfl

theorem foldl_addPlace (n : Numeral) (d : Char) (ds : List Char) :
    (d :: ds).foldl (fun n c => addPlace n (digitValue c)) n =
      { n with
        digits := moreDigits n.digits (d :: ds)
        places := n.places + (d :: ds).length
        plain := false } := by
  induction ds generalizing n d with
  | nil => rfl
  | cons e rest ih =>
    rw [List.foldl_cons, ih]
    simp only [addPlace, moreDigits, List.foldl_cons, List.length_cons, Numeral.mk.injEq, true_and,
      and_true]
    omega

theorem foldl_addExponentDigit (n : Numeral) (start : Nat) (d : Char) (ds : List Char)
    (hstart : n.exponent = start) :
    (d :: ds).foldl (fun n c => addExponentDigit n (digitValue c)) n =
      { n with exponent := (moreDigits start (d :: ds) : Int), plain := false } := by
  induction ds generalizing n start d with
  | nil => simp [addExponentDigit, hstart, moreDigits]
  | cons e rest ih =>
    rw [List.foldl_cons, ih _ (start * 10 + digitValue d) e (by simp [addExponentDigit, hstart])]
    rfl

/-- The reader is done with a value: it stands between tokens, or a numeral may end where it is. -/
def Ends (s : State) (p : Place) : Prop :=
  s = ⟨.between, p⟩ ∨
    ∃ part n neg, s.scan = .numeral part n neg ∧ endNumeral s.place part n neg = some p

/-- What follows a value. -/
def IsDelimiter (c : Char) : Prop :=
  c = ' ' ∨ c = '\t' ∨ c = '\n' ∨ c = '\r' ∨ c = ',' ∨ c = ']' ∨ c = '\x7d'

theorem Ends.step {s : State} (h : Ends s p) (hc : IsDelimiter c) :
    step s c = step ⟨.between, p⟩ c := by
  rcases h with rfl | ⟨part, n, neg, hscan, hend⟩
  · rfl
  · obtain ⟨scan, place⟩ := s
    subst hscan
    have hnone : numeralStep part n neg c = none := by
      rcases hc with rfl | rfl | rfl | rfl | rfl | rfl | rfl <;> cases part <;> rfl
    have hdigit : (digit? c).isSome = false := by
      rcases hc with rfl | rfl | rfl | rfl | rfl | rfl | rfl <;> rfl
    simp only [Reader.step, hnone, hdigit, hend]
    rfl

theorem Ends.foldlM {s : State} (h : Ends s p) (hc : IsDelimiter c) (cs : List Char) :
    (c :: cs).foldlM Reader.step s = (c :: cs).foldlM Reader.step ⟨.between, p⟩ := by
  rw [List.foldlM_cons, List.foldlM_cons, h.step hc]

/-- Sign and whole digits of a numeral. -/
theorem foldlM_whole {ds : List Char} (negative : Bool) (h : IsWhole ds) :
    ∃ part, (part = .zero ∨ part = .whole) ∧
      ((if negative then ['-'] else []) ++ ds).foldlM step ⟨.between, p⟩ =
        some (inNumeral p part { negative, digits := moreDigits 0 ds } false) := by
  cases h with
  | zero =>
    refine ⟨.zero, .inl rfl, ?_⟩
    cases negative <;> rfl
  | @digits c rest hc hzero hrest =>
    refine ⟨.whole, .inr rfl, ?_⟩
    have hfirst : ((if negative then ['-'] else []) ++ [c]).foldlM step ⟨.between, p⟩ =
        some (inNumeral p .whole { negative, digits := digitValue c } false) := by
      rcases isDigit_cases hc with rfl | rfl | rfl | rfl | rfl | rfl | rfl | rfl | rfl | rfl
      · exact absurd rfl hzero
      all_goals cases negative <;> rfl
    rw [List.append_cons, List.foldlM_append, hfirst]
    simp only [Option.bind_eq_bind, Option.bind_some]
    rw [foldlM_digits (fun n c hc => step_whole hc) hrest, foldl_addDigit]
    simp [moreDigits]

/-- The places of a numeral, if it has any. -/
theorem foldlM_places {places : List Char} (hpart : part = .zero ∨ part = .whole)
    (hplaces : ∀ d ∈ places, d.isDigit = true) (negative : Bool) (digits : Nat) :
    ∃ part', (part' = .zero ∨ part' = .whole ∨ part' = .places) ∧
      (if places = [] then [] else '.' :: places).foldlM step
          (inNumeral p part { negative, digits } false) =
        some (inNumeral p part'
          { negative, digits := moreDigits digits places, places := places.length
            plain := places.isEmpty } false) := by
  cases places with
  | nil =>
    refine ⟨part, ?_, rfl⟩
    rcases hpart with rfl | rfl
    · exact .inl rfl
    · exact .inr (.inl rfl)
  | cons d rest =>
    refine ⟨.places, .inr (.inr rfl), ?_⟩
    have hpoint : step (inNumeral p part { negative, digits } false) '.' =
        some (inNumeral p .point { negative, digits } false) := by
      rcases hpart with rfl | rfl <;> rfl
    have hrest : ∀ e ∈ rest, e.isDigit = true := fun e he =>
      hplaces e (List.mem_cons_of_mem _ he)
    simp only [List.cons_ne_nil, if_false, List.foldlM_cons, hpoint, Option.bind_eq_bind,
      Option.bind_some, step_place (.inl rfl) (hplaces d List.mem_cons_self)]
    rw [foldlM_digits (fun n c hc => step_place (.inr rfl) hc) hrest]
    have hall := foldl_addPlace { negative, digits } d rest
    rw [List.foldl_cons] at hall
    rw [hall]
    simp

theorem step_exponentMark (hpart : part = .zero ∨ part = .whole ∨ part = .places)
    (capital : Bool) :
    step (inNumeral p part n false) (if capital then 'E' else 'e') =
      some (inNumeral p .exponentMark n false) := by
  rcases hpart with rfl | rfl | rfl <;> cases capital <;> rfl

/-- The sign of an exponent, if it has one. -/
theorem foldlM_sign (sign : Option Bool) :
    ∃ part', (part' = .exponentMark ∨ part' = .exponentSign ∨ part' = .exponent) ∧
      (match sign with
        | none => []
        | some false => ['+']
        | some true => ['-']).foldlM step (inNumeral p .exponentMark n false) =
      some (inNumeral p part' n (decide (sign = some true))) := by
  cases sign with
  | none => exact ⟨_, .inl rfl, rfl⟩
  | some negative => cases negative <;> exact ⟨_, .inr (.inl rfl), rfl⟩

/-- The exponent of a numeral, if it has one, ends it. -/
theorem foldlM_power {power : Option Power} {p' : Place}
    (hpart : part = .zero ∨ part = .whole ∨ part = .places)
    (hpower : ∀ e ∈ power, e.digits ≠ [] ∧ ∀ d ∈ e.digits, d.isDigit = true)
    (hn : n.exponent = 0)
    (hp : p.scalar (.number
      { n with
        exponent := (power.map (·.value)).getD 0
        plain := n.plain && power.isNone }) = some p') :
    ∃ s, ((power.map (·.chars)).getD []).foldlM step (inNumeral p part n false) = some s ∧
      Ends s p' := by
  cases power with
  | none =>
    refine ⟨inNumeral p part n false, rfl, .inr ⟨part, n, false, rfl, ?_⟩⟩
    have hsame : { n with exponent := 0, plain := n.plain && true } = n := by
      rw [Bool.and_true, ← hn]
    simp only [Option.map_none, Option.getD_none, Option.isNone_none, hsame] at hp
    rcases hpart with rfl | rfl | rfl <;> exact hp
  | some e =>
    obtain ⟨capital, sign, digits⟩ := e
    obtain ⟨hne, hdigits⟩ := hpower _ rfl
    cases digits with
    | nil => exact absurd rfl hne
    | cons d rest =>
      have hrest : ∀ e ∈ rest, e.isDigit = true := fun e he =>
        hdigits e (List.mem_cons_of_mem _ he)
      have hmark := step_exponentMark (p := p) (n := n) hpart capital
      obtain ⟨part', hpart', hsigned⟩ := foldlM_sign (p := p) (n := n) sign
      have hall := foldl_addExponentDigit n 0 d rest hn
      rw [List.foldl_cons] at hall
      refine ⟨inNumeral p .exponent
        { n with exponent := (moreDigits 0 (d :: rest) : Int), plain := false }
        (decide (sign = some true)), ?_, .inr ⟨_, _, _, rfl, ?_⟩⟩
      · simp only [Option.map_some, Option.getD_some, Power.chars, List.foldlM_cons, hmark,
          Option.bind_eq_bind, Option.bind_some, List.foldlM_append, hsigned,
          step_exponent hpart' (hdigits d List.mem_cons_self)]
        rw [foldlM_digits (fun n c hc => step_exponent (.inr (.inr rfl)) hc) hrest, hall]
      · simp only [Option.map_some, Option.getD_some, Power.value, Option.isNone_some,
          Bool.and_false, decimalValue_eq] at hp
        by_cases hneg : sign = some true
        · simpa [inNumeral, endNumeral, hneg] using hp
        · simpa [inNumeral, endNumeral, hneg] using hp

/-- A written numeral is read where a value is wanted. -/
theorem foldlM_figures {f : Figures} {p' : Place} (hf : f.Sound)
    (hp : p.scalar (.number f.numeral) = some p') :
    ∃ s, f.chars.foldlM step ⟨.between, p⟩ = some s ∧ Ends s p' := by
  obtain ⟨part, hpart, hwhole⟩ := foldlM_whole (p := p) f.negative hf.whole
  obtain ⟨part', hpart', hplaces⟩ :=
    foldlM_places (p := p) hpart hf.places f.negative (moreDigits 0 f.whole)
  rw [Figures.numeral, decimalValue_eq, moreDigits_append] at hp
  obtain ⟨s, hpower, hends⟩ := foldlM_power
    (n :=
      { negative := f.negative, digits := moreDigits (moreDigits 0 f.whole) f.places
        places := f.places.length, plain := f.places.isEmpty })
    hpart' hf.power rfl hp
  refine ⟨s, ?_, hends⟩
  rw [Figures.chars, ← List.append_assoc, List.foldlM_append, hwhole]
  simp only [Option.bind_eq_bind, Option.bind_some, List.foldlM_append, hplaces]
  exact hpower

end Reader

/-! ## Whole numbers -/

theorem Numeral.integer?_ofInt (i : Int) : (Numeral.ofInt i).integer? = some i := by
  by_cases hi : i < 0
  · have hne : i.natAbs ≠ 0 := by omega
    simp only [integer?, ofInt, hi, decide_true, Bool.not_true, Bool.true_and, Bool.false_or,
      beq_eq_false_iff_ne.mpr hne, Bool.false_eq_true, if_false, if_true, Option.some.injEq]
    omega
  · simp only [integer?, ofInt, hi, decide_false, Bool.not_true, Bool.false_and, Bool.false_or,
      Bool.false_eq_true, if_false, Option.some.injEq]
    omega

theorem digitValue_digitChar : ∀ d < 10, Reader.digitValue (Nat.digitChar d) = d := by decide

theorem isDigit_digitChar : ∀ d < 10, (Nat.digitChar d).isDigit = true := by decide

theorem digitChar_ne_zero : ∀ d < 10, 0 < d → Nat.digitChar d ≠ '0' := by decide

/-- Only zero is written with a zero in front. -/
theorem isWhole_decimal (n : Nat) : IsWhole (Text.decimal n) := by
  unfold Text.decimal
  have hpos : 0 < n → ∃ c rest, Nat.toDigits 10 n = c :: rest ∧ c.isDigit = true ∧ c ≠ '0' ∧
      ∀ d ∈ rest, d.isDigit = true := by
    induction n using Nat.base_induction 10 (by decide) with
    | single d hd =>
      intro hpos
      rw [Nat.toDigits_of_lt_base hd]
      exact ⟨_, [], rfl, isDigit_digitChar d hd, digitChar_ne_zero d hd hpos, by simp⟩
    | digit n d hd hn ih =>
      intro _
      obtain ⟨c, rest, hrest, hc, hzero, hdigits⟩ := ih hn
      rw [← Nat.toDigits_append_toDigits (by decide) hn hd, Nat.toDigits_of_lt_base hd, hrest]
      refine ⟨c, rest ++ [Nat.digitChar d], rfl, hc, hzero, ?_⟩
      intro e he
      rcases List.mem_append.mp he with hrest | hlast
      · exact hdigits e hrest
      · rw [List.mem_singleton.mp hlast]
        exact isDigit_digitChar d hd
  rcases Nat.eq_zero_or_pos n with rfl | hn
  · exact .zero
  · obtain ⟨c, rest, hrest, hc, hzero, hdigits⟩ := hpos hn
    rw [hrest]
    exact .digits hc hzero hdigits

theorem decimalValue_decimal (n : Nat) : Text.decimalValue (Text.decimal n) = n := by
  unfold Text.decimal
  induction n using Nat.base_induction 10 (by decide) with
  | single d hd =>
    rw [Nat.toDigits_of_lt_base hd]
    simpa [Text.decimalValue, Reader.digitValue] using digitValue_digitChar d hd
  | digit n d hd hn ih =>
    rw [Reader.decimalValue_eq] at ih
    rw [← Nat.toDigits_append_toDigits (by decide) hn hd, Nat.toDigits_of_lt_base hd,
      Reader.decimalValue_eq, Reader.moreDigits_append, ih]
    simp only [Reader.moreDigits, List.foldl_cons, List.foldl_nil, digitValue_digitChar d hd]
    omega

namespace Figures

theorem sound_ofInt (i : Int) : (ofInt i).Sound :=
  ⟨isWhole_decimal _, by simp [ofInt], by simp [ofInt]⟩

theorem numeral_ofInt (i : Int) : (ofInt i).numeral = .ofInt i := by
  simp [numeral, ofInt, Numeral.ofInt, decimalValue_decimal]

theorem chars_ofInt (i : Int) : (ofInt i).chars = Text.decimalInt i := by
  by_cases hi : i < 0 <;> simp [chars, ofInt, Text.decimalInt, hi]

end Figures

end LiveEvents.Json
