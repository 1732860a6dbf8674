import PascalTokens.Json.Reading

/-!
# PascalTokens.Proofs.JsonReading

The reader of JSON documents reads what the grammar says, and no other text:
`read?_eq_some_iff`.  So no document is written for two values.

1. Soundness follows the reader: `isDigits_of_digits?` to `isValue_of_value?`.
2. Completeness follows the grammar.  A reader takes all digits that it finds,
   so the text after a number has to stop it (`Stops inNumber`).  Parts between
   brackets are read by one lemma for items and members (`IsReadBy`).
-/

namespace PascalTokens.Json

/-- Whether a text does not go on with characters of a kind. -/
def Stops (p : Char → Bool) (cs : List Char) : Prop := ∀ c ∈ cs.head?, p c = false

/-- Whether a number can go on with a character. -/
def inNumber (c : Char) : Bool := c.isDigit || c == '.' || isExponentMark c

/-- Whether a character is between parts or at their end. -/
def endsPart (c : Char) : Bool := isSpace c || c == ',' || c == ']' || c == '}'

variable {cs rest : List Char}

@[simp] theorem stops_nil (p : Char → Bool) : Stops p [] := by simp [Stops]

@[simp] theorem stops_cons {p : Char → Bool} {c : Char} :
    Stops p (c :: cs) ↔ p c = false := by
  simp [Stops]

/-- A text that stops a wide kind of character stops a narrower one. -/
theorem Stops.mono {p q : Char → Bool} (h : Stops p cs)
    (hq : ∀ c, q c = true → p c = true) : Stops q cs := by
  intro c hc
  cases hqc : q c with
  | false => rfl
  | true => simpa [hq c hqc] using h c hc

/-- Where no character of a number follows, no digit does. -/
theorem Stops.isDigit (h : Stops inNumber cs) : Stops Char.isDigit cs :=
  h.mono fun c hc => by simp [inNumber, hc]

/-- What ends a part of a list is no part of a number. -/
theorem not_inNumber_of_endsPart {c : Char} (h : endsPart c = true) : inNumber c = false := by
  simp only [endsPart, isSpace, Bool.or_eq_true, beq_iff_eq] at h
  rcases h with (((((h | h) | h) | h) | h) | h) | h <;> subst h <;> decide

theorem ne_of_isDigit {c d : Char} (h : c.isDigit = true) (hd : d.isDigit = false) : c ≠ d := by
  rintro rfl
  simp [h] at hd

section
variable {α β : Type}

theorem some_pair_inj {a b : α} (h : some (a, cs) = some (b, rest)) : a = b ∧ cs = rest := by
  simpa using h

/-- A reader that changes what another one reads leaves what that one leaves. -/
theorem exists_of_map {read : Option (α × List Char)} {f : α → β} {b : β}
    (h : (read.map fun (a, rest) => (f a, rest)) = some (b, rest)) :
    ∃ a, read = some (a, rest) ∧ f a = b := by
  obtain ⟨⟨a, rest'⟩, ha, heq⟩ := Option.map_eq_some_iff.1 h
  obtain ⟨rfl, rfl⟩ := Prod.mk.inj heq
  exact ⟨a, ha, rfl⟩

end

/-! ## blanks -/

/-- Skipping blanks follows the rule for blanks. -/
theorem isSpaces_skipSpaces (cs : List Char) : IsSpaces cs (skipSpaces cs) := by
  induction cs with
  | nil => exact .nil
  | cons c cs ih =>
      by_cases hc : isSpace c = true
      · simpa [skipSpaces, hc] using IsSpaces.cons hc ih
      · simpa [skipSpaces, hc] using IsSpaces.nil

/-- Blanks are all skipped if what follows is no blank. -/
theorem IsSpaces.skipSpaces_eq (h : IsSpaces cs rest)
    (hr : Stops isSpace rest) : skipSpaces cs = rest := by
  induction h with
  | nil =>
      rename_i rest
      cases rest <;> simp_all [skipSpaces]
  | cons hc _ ih => simpa [skipSpaces, hc] using ih hr

/-- Behind blanks there is no more text than before. -/
theorem IsSpaces.length_le (h : IsSpaces cs rest) :
    rest.length ≤ cs.length := by
  induction h with
  | nil => simp
  | cons _ _ ih => simp only [List.length_cons]; omega

/-- No number goes on with a blank. -/
theorem IsSpaces.stops (h : IsSpaces cs rest) (hr : Stops inNumber rest) :
    Stops inNumber cs := by
  cases h with
  | nil => exact hr
  | cons hc _ => simpa using not_inNumber_of_endsPart (by simp [endsPart, hc])

/-! ## numbers -/

/-- What the reader takes for digits are digits. -/
theorem isDigits_of_digits? {ds : List Char} (h : digits? cs = some (ds, rest)) :
    IsDigits ds cs rest := by
  fun_induction digits? cs generalizing ds rest with
  | case1 d cs hd ds' rest' _ ih =>
      obtain ⟨rfl, rfl⟩ := some_pair_inj h
      exact .cons hd (ih ‹_›)
  | case2 d cs hd =>
      obtain ⟨rfl, rfl⟩ := some_pair_inj h
      exact .one hd
  | case3 => simp at h
  | case4 => simp at h

/-- The reader takes no digits where none are. -/
theorem digits?_eq_none (h : Stops Char.isDigit cs) : digits? cs = none := by
  cases cs <;> simp_all [digits?]

/-- The reader takes all the digits, if no digit follows them. -/
theorem IsDigits.digits?_eq {ds : List Char} (h : IsDigits ds cs rest)
    (hr : Stops Char.isDigit rest) : digits? cs = some (ds, rest) := by
  induction h with
  | one hd => simp [digits?, hd, digits?_eq_none hr]
  | cons hd _ ih => simp [digits?, hd, ih hr]

/-- Digits are not empty, so they leave less to read. -/
theorem IsDigits.length_lt {ds : List Char} (h : IsDigits ds cs rest) :
    rest.length < cs.length := by
  induction h with
  | one => simp
  | cons _ _ ih => simp only [List.length_cons]; omega

/-- A run of digits begins with its first one. -/
theorem IsDigits.exists_cons {ds : List Char} (h : IsDigits ds cs rest) :
    ∃ d tail, cs = d :: tail ∧ d.isDigit = true ∧ ds.head? = some d := by
  cases h with
  | one hd => exact ⟨_, _, rfl, hd, rfl⟩
  | cons hd _ => exact ⟨_, _, rfl, hd, rfl⟩

/-- What the reader takes for a whole number is one. -/
theorem isWhole_of_whole? {ds : List Char} (h : whole? cs = some (ds, rest)) :
    IsWhole ds cs rest := by
  unfold whole? at h
  split at h
  · obtain ⟨rfl, rfl⟩ := some_pair_inj h
    exact .zero
  · next hne =>
    have hds := isDigits_of_digits? h
    obtain ⟨d, tail, rfl, -, hhead⟩ := hds.exists_cons
    obtain ⟨ds', rfl⟩ := List.head?_eq_some_iff.1 hhead
    exact .digits (by rintro rfl; exact hne _ rfl) hds

/-- The reader takes a whole number, if no digit follows it. -/
theorem IsWhole.whole?_eq {ds : List Char} (h : IsWhole ds cs rest)
    (hr : Stops Char.isDigit rest) : whole? cs = some (ds, rest) := by
  cases h with
  | zero => rfl
  | digits hd h =>
      obtain ⟨d, tail, rfl, -, hhead⟩ := h.exists_cons
      obtain rfl : _ = d := by simpa using hhead
      simp [whole?, hd, h.digits?_eq hr]

/-- A whole number begins with a digit. -/
theorem IsWhole.exists_cons {ds : List Char} (h : IsWhole ds cs rest) :
    ∃ d tail, cs = d :: tail ∧ d.isDigit = true := by
  cases h with
  | zero => exact ⟨_, _, rfl, rfl⟩
  | digits _ h =>
      obtain ⟨d, tail, hcs, hd, -⟩ := h.exists_cons
      exact ⟨d, tail, hcs, hd⟩

theorem IsWhole.length_lt {ds : List Char} (h : IsWhole ds cs rest) :
    rest.length < cs.length := by
  cases h with
  | zero => simp
  | digits _ h => exact h.length_lt

/-- What the reader takes for a fraction is one, or nothing. -/
theorem isFraction_of_fraction? {ds : List Char} (h : fraction? cs = some (ds, rest)) :
    IsFraction ds cs rest := by
  unfold fraction? at h
  split at h
  · exact .present (isDigits_of_digits? h)
  · obtain ⟨rfl, rfl⟩ := some_pair_inj h
    exact .absent

/-- The reader takes the fraction of a number, if neither a digit nor another dot follows.
-/
theorem IsFraction.fraction?_eq {ds : List Char} (h : IsFraction ds cs rest)
    (hr : Stops Char.isDigit rest) (hp : Stops (· == '.') rest) :
    fraction? cs = some (ds, rest) := by
  cases h with
  | absent =>
      unfold fraction?
      split
      · simp at hp
      · rfl
  | present h => exact h.digits?_eq hr

theorem IsFraction.length_le {ds : List Char} (h : IsFraction ds cs rest) :
    rest.length ≤ cs.length := by
  cases h with
  | absent => simp
  | present h => have := h.length_lt; simp only [List.length_cons]; omega

/-- Digits do not go on where a fraction may begin. -/
theorem IsFraction.stops_isDigit {ds : List Char} (h : IsFraction ds cs rest)
    (hr : Stops Char.isDigit rest) : Stops Char.isDigit cs := by
  cases h with
  | absent => exact hr
  | present => simp

theorem isExponentMark_iff {c : Char} : isExponentMark c = true ↔ c = 'e' ∨ c = 'E' := by
  simp [isExponentMark]

/-- What the reader takes for an exponent is one, or nothing. -/
theorem isExponent_of_exponent? {e : Int}
    (h : exponent? cs = some (e, rest)) : IsExponent e cs rest := by
  unfold exponent? at h
  split at h
  · split at h
    · next hc =>
      unfold signed? at h
      split at h
      · obtain ⟨ds, hds, rfl⟩ := exists_of_map (f := fun ds => (Nat.ofDigitChars 10 ds 0 : Int)) h
        exact .plus hc (isDigits_of_digits? hds)
      · obtain ⟨ds, hds, rfl⟩ := exists_of_map (f := fun ds => -(Nat.ofDigitChars 10 ds 0 : Int)) h
        exact .minus hc (isDigits_of_digits? hds)
      · obtain ⟨ds, hds, rfl⟩ := exists_of_map (f := fun ds => (Nat.ofDigitChars 10 ds 0 : Int)) h
        exact .plain hc (isDigits_of_digits? hds)
    · obtain ⟨rfl, rfl⟩ := some_pair_inj h
      exact .absent
  · obtain ⟨rfl, rfl⟩ := some_pair_inj h
    exact .absent

/-- The reader takes the exponent of a number, if neither a digit nor another mark
follows. -/
theorem IsExponent.exponent?_eq {e : Int} (h : IsExponent e cs rest)
    (hr : Stops Char.isDigit rest) (hm : Stops isExponentMark rest) :
    exponent? cs = some (e, rest) := by
  cases h with
  | absent =>
      cases cs with
      | nil => rfl
      | cons c cs => simp_all [exponent?]
  | plain hc h =>
      obtain ⟨d, tail, rfl, hd, -⟩ := h.exists_cons
      have hplus := ne_of_isDigit hd (d := '+') rfl
      have hminus := ne_of_isDigit hd (d := '-') rfl
      simp [exponent?, signed?, hc, hplus, hminus, h.digits?_eq hr]
  | plus hc h => simp [exponent?, signed?, hc, h.digits?_eq hr]
  | minus hc h => simp [exponent?, signed?, hc, h.digits?_eq hr]

theorem IsExponent.length_le {e : Int} (h : IsExponent e cs rest) :
    rest.length ≤ cs.length := by
  cases h with
  | absent => simp
  | plain _ h => have := h.length_lt; simp only [List.length_cons]; omega
  | plus _ h => have := h.length_lt; simp only [List.length_cons]; omega
  | minus _ h => have := h.length_lt; simp only [List.length_cons]; omega

/-- Neither digits nor a fraction go on where an exponent may begin. -/
theorem IsExponent.stops {e : Int} (h : IsExponent e cs rest)
    (hr : Stops inNumber rest) : Stops Char.isDigit cs ∧ Stops (· == '.') cs := by
  have hmark {c : Char} (hc : isExponentMark c = true) :
      c.isDigit = false ∧ (c == '.') = false := by
    obtain rfl | rfl := isExponentMark_iff.1 hc <;> decide
  cases h with
  | absent => exact ⟨hr.isDigit, hr.mono fun c hc => by simp_all [inNumber]⟩
  | plain hc _ => simpa using hmark hc
  | plus hc _ => simpa using hmark hc
  | minus hc _ => simpa using hmark hc

/-- What the reader takes for a number without a sign is one. -/
theorem isUnsigned_of_unsigned? {n : Number}
    (h : unsigned? cs = some (n, rest)) : IsUnsigned n cs rest := by
  simp only [unsigned?, Option.bind_eq_bind, Option.bind_eq_some_iff, Prod.exists,
    Option.some.injEq, Prod.mk.injEq] at h
  obtain ⟨ds, point, hw, fs, mark, hf, e, rest, he, rfl, rfl⟩ := h
  exact .mk (isWhole_of_whole? hw) (isFraction_of_fraction? hf) (isExponent_of_exponent? he)

/-- The reader takes a number without a sign up to where it stops. -/
theorem IsUnsigned.unsigned?_eq {n : Number} (h : IsUnsigned n cs rest)
    (hr : Stops inNumber rest) : unsigned? cs = some (n, rest) := by
  obtain ⟨hw, hf, he⟩ := h
  obtain ⟨hdigit, hpoint⟩ := he.stops hr
  have hmark : Stops isExponentMark rest := hr.mono fun c hc => by simp [inNumber, hc]
  simp [unsigned?, hw.whole?_eq (hf.stops_isDigit hdigit), hf.fraction?_eq hdigit hpoint,
    he.exponent?_eq hr.isDigit hmark]

/-- A number without a sign begins with a digit. -/
theorem IsUnsigned.exists_cons {n : Number} (h : IsUnsigned n cs rest) :
    ∃ d tail, cs = d :: tail ∧ d.isDigit = true := by
  obtain ⟨hw, -, -⟩ := h
  exact hw.exists_cons

theorem IsUnsigned.length_lt {n : Number} (h : IsUnsigned n cs rest) :
    rest.length < cs.length := by
  obtain ⟨hw, hf, he⟩ := h
  have := hw.length_lt
  have := hf.length_le
  have := he.length_le
  omega

/-- What the reader takes for a number is one. -/
theorem isNumber_of_number? {n : Number}
    (h : number? cs = some (n, rest)) : IsNumber n cs rest := by
  unfold number? at h
  split at h
  · obtain ⟨n, hn, rfl⟩ := exists_of_map h
    exact .minus (isUnsigned_of_unsigned? hn)
  · exact .plain (isUnsigned_of_unsigned? h)

/-- The reader takes a number up to where it stops. -/
theorem IsNumber.number?_eq {n : Number} (h : IsNumber n cs rest)
    (hr : Stops inNumber rest) : number? cs = some (n, rest) := by
  cases h with
  | plain h =>
      obtain ⟨d, tail, rfl, hd⟩ := h.exists_cons
      have hminus := ne_of_isDigit hd (d := '-') rfl
      simp [number?, hminus, h.unsigned?_eq hr]
  | minus h => simp [number?, h.unsigned?_eq hr]

/-- A number starts with a digit or a minus, by which it is told from other values. -/
theorem IsNumber.exists_cons {n : Number} (h : IsNumber n cs rest) :
    ∃ d tail, cs = d :: tail ∧ (d.isDigit || d == '-') = true := by
  cases h with
  | plain h =>
      obtain ⟨d, tail, hcs, hd⟩ := h.exists_cons
      exact ⟨d, tail, hcs, by simp [hd]⟩
  | minus h => exact ⟨_, _, rfl, by simp⟩

theorem IsNumber.length_lt {n : Number} (h : IsNumber n cs rest) :
    rest.length < cs.length := by
  cases h with
  | plain h => exact h.length_lt
  | minus h => have := h.length_lt; simp only [List.length_cons]; omega

/-! ## strings -/

/-- What the reader takes for a code unit is one. -/
theorem isUnit_of_unit? {n : Nat} (h : unit? cs = some (n, rest)) :
    IsUnit n cs rest := by
  unfold unit? at h
  split at h
  · obtain ⟨n, hn, heq⟩ := Option.map_eq_some_iff.1 h
    obtain ⟨rfl, rfl⟩ := Prod.mk.inj heq
    exact .mk hn
  · simp at h

/-- Four hexadecimal digits are read as their code unit. -/
theorem IsUnit.unit?_eq {n : Nat} (h : IsUnit n cs rest) :
    unit? cs = some (n, rest) := by
  obtain ⟨h⟩ := h
  simp [unit?, h]

theorem IsUnit.length_lt {n : Nat} (h : IsUnit n cs rest) :
    rest.length < cs.length := by
  obtain ⟨-⟩ := h
  simp only [List.length_cons]; omega

/-- A valid number is the one of its character. -/
theorem toNat_ofNat {n : Nat} (h : n.isValidChar) : (Char.ofNat n).toNat = n := by
  have hc : Char.ofNat n = Char.ofNatAux n h := dif_pos h
  rw [hc]
  rfl

/-- Two surrogates name one character, past `U+FFFF`. -/
theorem ofSurrogates?_eq_some_iff {high low : Nat} {c : Char} :
    ofSurrogates? high low = some c ↔ ∃ h l, h < 0x400 ∧ l < 0x400 ∧ high = 0xD800 + h ∧
      low = 0xDC00 + l ∧ c.toNat = 0x10000 + 0x400 * h + l := by
  constructor
  · intro h
    unfold ofSurrogates? at h
    split at h
    · next hrange =>
      obtain rfl := Option.some.inj h
      refine ⟨high - 0xD800, low - 0xDC00, by omega, by omega, by omega, by omega, ?_⟩
      exact toNat_ofNat (.inr ⟨by omega, by omega⟩)
    · simp at h
  · rintro ⟨h, l, hh, hl, rfl, rfl, hc⟩
    have hrange : 0xD800 ≤ 0xD800 + h ∧ 0xD800 + h < 0xDC00 ∧ 0xDC00 ≤ 0xDC00 + l ∧
        0xDC00 + l < 0xE000 := by omega
    simp [ofSurrogates?, hrange, ← hc, Char.ofNat_toNat]

/-- What the reader takes for a coded character is one, made of one unit or of a pair. -/
theorem isChar_of_coded? {c : Char} (h : coded? cs = some (c, rest)) :
    IsChar c ('\\' :: 'u' :: cs) rest := by
  simp only [coded?, Option.bind_eq_bind, Option.bind_eq_some_iff, Prod.exists] at h
  obtain ⟨n, mid, hn, h⟩ := h
  have hunit := isUnit_of_unit? hn
  split at h
  · next hvalid =>
    obtain ⟨rfl, rfl⟩ := some_pair_inj h
    exact .unit (by rwa [toNat_ofNat hvalid])
  · unfold lowSurrogate? at h
    split at h
    · simp only [Option.bind_eq_bind, Option.bind_eq_some_iff, Prod.exists,
        Option.map_eq_some_iff, Prod.mk.injEq] at h
      obtain ⟨low, rest, hlow, c, hc, rfl, rfl⟩ := h
      obtain ⟨h, l, hh, hl, rfl, rfl, hcode⟩ := ofSurrogates?_eq_some_iff.1 hc
      exact .pair hh hl hcode hunit (isUnit_of_unit? hlow)
    · simp at h

/-- What the reader takes for a character of a string is one, plain or escaped. -/
theorem isChar_of_char? {c : Char} (h : char? cs = some (c, rest)) :
    IsChar c cs rest := by
  unfold char? at h
  split at h
  · unfold escape? at h
    split at h
    · exact isChar_of_coded? h
    · obtain ⟨c, hl, heq⟩ := Option.map_eq_some_iff.1 h
      obtain ⟨rfl, rfl⟩ := Prod.mk.inj heq
      exact .letter hl
    · simp at h
  · split at h
    · next hplain =>
      obtain ⟨rfl, rfl⟩ := some_pair_inj h
      exact .plain hplain
    · simp at h
  · simp at h

/-- A character of a string is read as itself, in each way it may be written. -/
theorem IsChar.char?_eq {c : Char} (h : IsChar c cs rest) :
    char? cs = some (c, rest) := by
  cases h with
  | plain hc =>
      have hne : c ≠ '\\' := by rintro rfl; simp [isPlain] at hc
      simp [char?, hc]
  | @letter l _ hl =>
      have hne : l ≠ 'u' := by rintro rfl; simp [ofLetter?] at hl
      simp [char?, escape?, hl]
  | unit h =>
      have hvalid : c.toNat.isValidChar := c.valid
      simp [char?, escape?, coded?, h.unit?_eq, hvalid, Char.ofNat_toNat]
  | @pair high low _ _ _ hh hl hc h₁ h₂ =>
      have hvalid : ¬(0xD800 + high).isValidChar := by
        rintro (h | ⟨h, -⟩) <;> omega
      have hpair : ofSurrogates? (0xD800 + high) (0xDC00 + low) = some c :=
        ofSurrogates?_eq_some_iff.2 ⟨high, low, hh, hl, rfl, rfl, hc⟩
      simp [char?, escape?, coded?, lowSurrogate?, h₁.unit?_eq, h₂.unit?_eq, hvalid, hpair]

theorem IsChar.length_lt {c : Char} (h : IsChar c cs rest) :
    rest.length < cs.length := by
  cases h with
  | plain => simp
  | letter => simp only [List.length_cons]; omega
  | unit h => have := h.length_lt; simp only [List.length_cons]; omega
  | pair _ _ _ h₁ h₂ =>
      have := h₁.length_lt
      have := h₂.length_lt
      simp only [List.length_cons] at *
      omega

/-- A character of a string does not begin with the quote that ends it. -/
theorem IsChar.stops {c : Char} (h : IsChar c cs rest) :
    Stops (· == '"') cs := by
  cases h with
  | plain hc => simp_all [isPlain]
  | letter => simp
  | unit => simp
  | pair => simp

/-- What the reader takes for the characters up to a quote are those. -/
theorem isChars_of_chars? {s : List Char} (h : chars? cs = some (s, rest)) :
    IsChars s cs rest := by
  fun_induction chars? cs generalizing s rest with
  | case1 =>
      obtain ⟨rfl, rfl⟩ := some_pair_inj h
      exact .nil
  | case2 cs _ c mid hc _ ih =>
      obtain ⟨s, hs, rfl⟩ := exists_of_map h
      exact .cons (isChar_of_char? hc) (ih hs)
  | case3 => simp at h
  | case4 => simp at h

/-- The characters up to the quote are read one by one. -/
theorem IsChars.chars?_eq {s : List Char} (h : IsChars s cs rest) :
    chars? cs = some (s, rest) := by
  induction h with
  | nil => simp [chars?]
  | @cons c s cs mid rest hc h ih =>
      have hne : ∀ tail, cs ≠ '"' :: tail := by rintro tail rfl; simpa using hc.stops
      rw [chars?.eq_def]
      split
      · exact absurd rfl (hne _)
      · simp [hc.char?_eq, hc.length_lt, ih]

theorem IsChars.length_lt {s : List Char} (h : IsChars s cs rest) :
    rest.length < cs.length := by
  induction h with
  | nil => simp
  | cons hc _ ih => have := hc.length_lt; omega

/-- What the reader takes for a string is one. -/
theorem isString_of_string? {s : String}
    (h : string? cs = some (s, rest)) : IsString s cs rest := by
  unfold string? at h
  split at h
  · obtain ⟨s, hs, rfl⟩ := exists_of_map h
    exact .mk (by simpa using isChars_of_chars? hs)
  · simp at h

/-- A string is read as its characters. -/
theorem IsString.string?_eq {s : String} (h : IsString s cs rest) :
    string? cs = some (s, rest) := by
  obtain ⟨h⟩ := h
  simp [string?, h.chars?_eq]

/-- A string leaves less to read, as it has two quotes. -/
theorem IsString.length_lt {s : String} (h : IsString s cs rest) :
    rest.length < cs.length := by
  obtain ⟨h⟩ := h
  have := h.length_lt
  simp only [List.length_cons]; omega

/-! ## parts between brackets -/

@[simp] theorem closed?_cons (c : Char) (rest : List Char) : closed? c (c :: rest) = some rest := by
  simp [closed?]

/-- A bracket is closed only by itself. -/
theorem eq_of_closed? {close : Char} (h : closed? close cs = some rest) :
    cs = close :: rest := by
  unfold closed? at h
  split at h
  · split at h
    · next hc => simp_all
    · simp at h
  · simp at h

/-- Where nothing of a kind follows, no bracket of that kind closes. -/
theorem closed?_eq_none {p : Char → Bool} {close : Char} (h : Stops p cs)
    (hc : p close = true) : closed? close cs = none := by
  cases cs with
  | nil => rfl
  | cons c cs =>
      have hne : c ≠ close := by rintro rfl; simp_all
      simp [closed?, hne]

section
variable {α : Type} {IsPart : α → List Char → List Char → Prop}
  {part? : List Char → Option (α × List Char)} {limit : Nat}

/-- If single parts are read by their rule, parts between commas are. -/
theorem isSeparated_of_separated?
    (hpart : ∀ {a cs rest}, part? cs = some (a, rest) → IsPart a cs rest)
    {as : List α} (h : separated? part? cs = some (as, rest)) :
    IsSeparated IsPart as cs rest := by
  fun_induction separated? part? cs generalizing as rest with
  | case1 cs a after ha next hnext _ ih =>
      obtain ⟨as, has, rfl⟩ := exists_of_map h
      exact .cons (isSpaces_skipSpaces cs) (hpart ha) (hnext ▸ isSpaces_skipSpaces after) (ih has)
  | case2 => simp at h
  | case3 cs a after ha =>
      obtain ⟨rfl, rfl⟩ := some_pair_inj h
      exact .one (isSpaces_skipSpaces cs) (hpart ha) (isSpaces_skipSpaces after)
  | case4 => simp at h

/-- If single parts are read by their rule, a bracketed list of them is, the empty one
among them. -/
theorem isEnclosed_of_enclosed?
    (hpart : ∀ {a cs rest}, part? cs = some (a, rest) → IsPart a cs rest) {close : Char}
    {as : List α} (h : enclosed? part? close cs = some (as, rest)) :
    IsEnclosed IsPart close as cs rest := by
  unfold enclosed? at h
  split at h
  · next hclose =>
    obtain ⟨rfl, rfl⟩ := some_pair_inj h
    exact .none (eq_of_closed? hclose ▸ isSpaces_skipSpaces cs)
  · simp only [Option.bind_eq_bind, Option.bind_eq_some_iff, Prod.exists, Option.map_eq_some_iff,
      Prod.mk.injEq] at h
    obtain ⟨as, after, has, rest, hclose, rfl, rfl⟩ := h
    exact .some (eq_of_closed? hclose ▸ isSeparated_of_separated? hpart has)

/-- A reader reads what is written by a rule, in a text that is not longer than
the limit. -/
structure IsReadBy (IsPart : α → List Char → List Char → Prop)
    (part? : List Char → Option (α × List Char)) (limit : Nat) : Prop where
  start : ∀ {a cs rest}, IsPart a cs rest → Stops endsPart cs
  shorter : ∀ {a cs rest}, cs.length ≤ limit → IsPart a cs rest → rest.length < cs.length
  read : ∀ {a cs rest}, cs.length ≤ limit → IsPart a cs rest → Stops inNumber rest →
    part? cs = some (a, rest)

namespace IsReadBy
variable {as : List α}

/-- Blanks before a part are all skipped, as no part starts with one. -/
theorem skipSpaces_eq (hp : IsReadBy IsPart part? limit) {a : α} {part after : List Char}
    (before : IsSpaces cs part) (h : IsPart a part after) : skipSpaces cs = part :=
  before.skipSpaces_eq ((hp.start h).mono fun c hc => by simp [endsPart, hc])

/-- Parts between commas leave less to read. -/
theorem separated_shorter (hp : IsReadBy IsPart part? limit) (h : IsSeparated IsPart as cs rest)
    (hl : cs.length ≤ limit) : rest.length < cs.length := by
  induction h with
  | one before h hr =>
      have := before.length_le
      have := hp.shorter (by omega) h
      have := hr.length_le
      omega
  | cons before h hr _ ih =>
      have := before.length_le
      have := hp.shorter (by omega) h
      have := hr.length_le
      simp only [List.length_cons] at this
      have := ih (by omega)
      omega

/-- Parts between commas are read up to the bracket that closes them. -/
theorem separated?_eq (hp : IsReadBy IsPart part? limit) (h : IsSeparated IsPart as cs rest)
    (hl : cs.length ≤ limit) {close : Char} {tail : List Char} (hrest : rest = close :: tail)
    (hclose : endsPart close = true) (hcomma : close ≠ ',') (hspace : isSpace close = false) :
    separated? part? cs = some (as, rest) := by
  induction h with
  | one before h hr =>
      subst hrest
      have hlen := before.length_le
      have hstop : Stops inNumber (close :: tail) := by simpa using not_inNumber_of_endsPart hclose
      rw [separated?, hp.skipSpaces_eq before h, hp.read (by omega) h (hr.stops hstop)]
      simp [hr.skipSpaces_eq (by simpa using hspace), hcomma]
  | @cons a as cs part after next rest before h hr hs ih =>
      have hlen := before.length_le
      have hpart := hp.shorter (by omega) h
      have hnext := hr.length_le
      have hstop : Stops inNumber (',' :: next) := by simp; decide
      simp only [List.length_cons] at hnext
      rw [separated?, hp.skipSpaces_eq before h, hp.read (by omega) h (hr.stops hstop)]
      have hlt : next.length < cs.length := by omega
      simp [hr.skipSpaces_eq (by simp; decide), hlt, ih (by omega) hrest]

/-- Separated parts do not begin with what closes them. -/
theorem closed?_eq_none (hp : IsReadBy IsPart part? limit) (h : IsSeparated IsPart as cs rest)
    {close : Char} (hclose : endsPart close = true) : closed? close (skipSpaces cs) = none := by
  cases h with
  | one before h _ =>
      rw [hp.skipSpaces_eq before h]
      exact Json.closed?_eq_none (hp.start h) hclose
  | cons before h _ _ =>
      rw [hp.skipSpaces_eq before h]
      exact Json.closed?_eq_none (hp.start h) hclose

/-- A bracketed list leaves less to read. -/
theorem enclosed_shorter (hp : IsReadBy IsPart part? limit) {close : Char}
    (h : IsEnclosed IsPart close as cs rest) (hl : cs.length ≤ limit) :
    rest.length < cs.length := by
  cases h with
  | none h => have := h.length_le; simp only [List.length_cons] at this; omega
  | some h => have := hp.separated_shorter h hl; simp only [List.length_cons] at this; omega

/-- A bracketed list of parts is read as those parts. -/
theorem enclosed?_eq (hp : IsReadBy IsPart part? limit) {close : Char}
    (h : IsEnclosed IsPart close as cs rest) (hl : cs.length ≤ limit)
    (hclose : endsPart close = true) (hcomma : close ≠ ',') (hspace : isSpace close = false) :
    enclosed? part? close cs = some (as, rest) := by
  cases h with
  | none h => simp [enclosed?, h.skipSpaces_eq (by simpa using hspace)]
  | some h =>
      have hread := hp.separated?_eq h hl rfl hclose hcomma hspace
      simp [enclosed?, hp.closed?_eq_none h hclose, hread]

end IsReadBy

end

/-! ## values -/

/-- What the reader takes for a value that is no list or object is one. -/
theorem isScalar_of_scalar? {v : Value} (h : scalar? cs = some (v, rest)) :
    IsScalar v cs rest := by
  unfold scalar? at h
  split at h
  · obtain ⟨s, hs, rfl⟩ := exists_of_map h
    exact .string (isString_of_string? hs)
  · obtain ⟨rfl, rfl⟩ := some_pair_inj h
    exact .null
  · obtain ⟨rfl, rfl⟩ := some_pair_inj h
    exact .true
  · obtain ⟨rfl, rfl⟩ := some_pair_inj h
    exact .false
  · obtain ⟨n, hn, rfl⟩ := exists_of_map h
    exact .number (isNumber_of_number? hn)

/-- Whether a character opens an array or an object. -/
def isOpening (c : Char) : Bool := c == '[' || c == '{'

/-- A number is no text that starts with anything but a digit or a minus. -/
theorem IsNumber.ne_of_head {n : Number} (h : IsNumber n cs rest)
    {c : Char} {tail : List Char} (hc : (c.isDigit || c == '-') = false) : cs ≠ c :: tail := by
  obtain ⟨d, tail', rfl, hd⟩ := h.exists_cons
  rintro heq
  obtain ⟨rfl, -⟩ := List.cons_eq_cons.1 heq
  simp [hc] at hd

/-- A value that is no list or object is read as itself. -/
theorem IsScalar.scalar?_eq {v : Value} (h : IsScalar v cs rest)
    (hr : Stops inNumber rest) : scalar? cs = some (v, rest) := by
  cases h with
  | null => rfl
  | true => rfl
  | false => rfl
  | number h =>
      rw [scalar?.eq_def]
      split
      · exact absurd rfl (h.ne_of_head (by decide))
      · exact absurd rfl (h.ne_of_head (by decide))
      · exact absurd rfl (h.ne_of_head (by decide))
      · exact absurd rfl (h.ne_of_head (by decide))
      · simp [h.number?_eq hr]
  | string h =>
      have hread := h.string?_eq
      obtain ⟨-⟩ := h
      simp [scalar?, hread]

theorem IsScalar.length_lt {v : Value} (h : IsScalar v cs rest) :
    rest.length < cs.length := by
  cases h with
  | null => simp only [List.length_cons]; omega
  | true => simp only [List.length_cons]; omega
  | false => simp only [List.length_cons]; omega
  | number h => exact h.length_lt
  | string h => exact h.length_lt

/-- A scalar begins neither like an array or object nor with the end of a part. -/
theorem IsScalar.stops {v : Value} (h : IsScalar v cs rest) :
    Stops (fun c => isOpening c || endsPart c) cs := by
  cases h with
  | null => simp; decide
  | true => simp; decide
  | false => simp; decide
  | string h => obtain ⟨-⟩ := h; simp; decide
  | number h =>
      intro c hc
      obtain ⟨tail, rfl⟩ := List.head?_eq_some_iff.1 hc
      cases hp : isOpening c || endsPart c with
      | false => exact hp
      | true =>
          have hchar : (c.isDigit || c == '-') = Bool.false := by
            simp only [isOpening, endsPart, isSpace, Bool.or_eq_true, beq_iff_eq] at hp
            rcases hp with (hc | hc) | (((((hc | hc) | hc) | hc) | hc) | hc) | hc <;> subst hc <;>
              decide
          exact absurd rfl (h.ne_of_head hchar)

/-- Where no bracket opens, a value is a scalar at every limit. -/
theorem value?_eq_scalar? {limit : Nat} (h : Stops isOpening cs) :
    value? limit cs = scalar? cs := by
  unfold value?
  split
  · simp [isOpening] at h
  · simp [isOpening] at h
  · rfl

/-- If values are read by their rule, a member of an object is. -/
theorem isMember_of_member? {value? : List Char → Option (Value × List Char)}
    (hvalue : ∀ {v cs rest}, value? cs = some (v, rest) → IsValue v cs rest)
    {member : String × Value}
    (h : member? value? cs = some (member, rest)) : IsMember member cs rest := by
  simp only [member?, Option.bind_eq_bind, Option.bind_eq_some_iff, Prod.exists,
    Option.some.injEq, Prod.mk.injEq] at h
  obtain ⟨name, colon, hname, mid, hcolon, v, rest, hv, rfl, rfl⟩ := h
  exact .mk (isString_of_string? hname) (eq_of_closed? hcolon ▸ isSpaces_skipSpaces colon)
    (isSpaces_skipSpaces mid) (hvalue hv)

/-- What the reader takes for a value is one, at every limit. -/
theorem isValue_of_value? {limit : Nat} {v : Value}
    (h : value? limit cs = some (v, rest)) : IsValue v cs rest := by
  induction limit generalizing v cs rest with
  | zero => exact .scalar (isScalar_of_scalar? (by simpa [value?] using h))
  | succ limit ih =>
      unfold value? at h
      split at h
      · obtain ⟨items, hitems, rfl⟩ := exists_of_map h
        exact .array (isEnclosed_of_enclosed? ih (by simp_all))
      · obtain ⟨members, hmembers, rfl⟩ := exists_of_map h
        exact .object (isEnclosed_of_enclosed? (isMember_of_member? ih) (by simp_all))
      · exact .scalar (isScalar_of_scalar? h)

/-- A value starts with no character that could end the part before it. -/
theorem IsValue.stops {v : Value} (h : IsValue v cs rest) :
    Stops endsPart cs := by
  cases h with
  | scalar h => exact h.stops.mono fun c hc => by simp [hc]
  | array => simp; decide
  | object => simp; decide

/-- If values are read up to a limit, members are: the key and the colon only shorten the
text. -/
theorem IsReadBy.member {value? : List Char → Option (Value × List Char)} {limit : Nat}
    (hv : IsReadBy IsValue value? limit) : IsReadBy IsMember (member? value?) limit where
  start := by
    rintro _ _ _ ⟨⟨-⟩, -, -, -⟩
    simp; decide
  shorter := by
    rintro _ _ _ hl ⟨hn, hc, hm, h⟩
    have := hn.length_lt
    have := hc.length_le
    have := hm.length_le
    simp only [List.length_cons] at *
    have := hv.shorter (by omega) h
    omega
  read := by
    rintro _ _ _ hl ⟨hn, hc, hm, h⟩ hr
    have := hn.length_lt
    have := hc.length_le
    have := hm.length_le
    simp only [List.length_cons] at *
    have hread := hv.read (by omega) h hr
    simp [member?, hn.string?_eq, hc.skipSpaces_eq (by simp; decide),
      hv.skipSpaces_eq hm h, hread]

/-- With a limit as long as the text, every value is read. By induction on the limit, as
each bracket takes one character. -/
theorem isReadBy_value? (limit : Nat) : IsReadBy IsValue (value? limit) limit := by
  induction limit with
  | zero =>
      refine ⟨IsValue.stops, ?_, ?_⟩
      · rintro v cs rest hl (h | _ | _)
        · exact h.length_lt
        · simp at hl
        · simp at hl
      · rintro v cs rest hl (h | _ | _) hr
        · simpa [value?] using h.scalar?_eq hr
        · simp at hl
        · simp at hl
  | succ limit ih =>
      refine ⟨IsValue.stops, ?_, ?_⟩
      · rintro v cs rest hl (h | h | h)
        · exact h.length_lt
        · have := ih.enclosed_shorter h (by simpa using hl)
          simp only [List.length_cons]; omega
        · have := ih.member.enclosed_shorter h (by simpa using hl)
          simp only [List.length_cons]; omega
      · rintro v cs rest hl (h | h | h) hr
        · rw [value?_eq_scalar? (h.stops.mono fun c hc => by simp [hc]), h.scalar?_eq hr]
        · have hread := ih.enclosed?_eq h (by simpa using hl) rfl (by decide) rfl
          simp [value?, hread]
        · have hread := ih.member.enclosed?_eq h (by simpa using hl) rfl (by decide) rfl
          simp [value?, hread]

/-! ## documents -/

/-- The reader reads exactly the documents of the grammar. -/
theorem read?_eq_some_iff {document : List Char} {v : Value} :
    read? document = some v ↔ IsDocument v document := by
  constructor
  · intro h
    unfold read? at h
    split at h
    · next w rest hw =>
      split at h
      · next hend =>
        obtain rfl := Option.some.inj h
        have hrest := isSpaces_skipSpaces rest
        rw [List.isEmpty_iff.1 hend] at hrest
        exact ⟨_, _, isSpaces_skipSpaces document, isValue_of_value? hw, hrest⟩
      · simp at h
    · simp at h
  · rintro ⟨start, rest, hstart, hv, hrest⟩
    have hp := isReadBy_value? document.length
    have hread := hp.read hstart.length_le hv (hrest.stops (stops_nil _))
    simp [read?, hp.skipSpaces_eq hstart hv, hread, hrest.skipSpaces_eq (stops_nil _)]

example : read? " [1.50, \"\\ud83d\\uDE00\"]\n".toList =
    some (.array [.number ⟨150, -2⟩, .string "😀"]) := by cbv

/-- A zero in front stands alone. -/
example : (read? "[01]".toList).isNone := by decide +kernel

/-- A document has one value. -/
theorem IsDocument.unique {document : List Char} {v w : Value} (hv : IsDocument v document)
    (hw : IsDocument w document) : v = w := by
  rw [← read?_eq_some_iff] at hv hw
  exact Option.some.inj (hv.symm.trans hw)

end PascalTokens.Json
