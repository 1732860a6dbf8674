import PascalTokens.Json.Grammar

/-!
# PascalTokens.Proofs.JsonWriting

What is written as JSON is a document of the grammar: `isDocument_pretty`.

The writer goes on after what is written already, so every step says what it
adds (`exists_write` and its two companions).  The text after a value has to be
known before the value is, so in a list the induction takes the items after the
first one first.
-/

namespace PascalTokens.Json

/-! ## strings -/

theorem hexNumber?_hexDigits4 : ∀ n < 0x20, Text.hexNumber? (hexDigits4 n) = some n := by decide

/-- A character is written as one character of a string. -/
theorem isChar_escapeChar (c : Char) (rest : List Char) : IsChar c (escapeChar c ++ rest) rest := by
  unfold escapeChar
  split
  · exact .letter rfl
  · exact .letter rfl
  · exact .letter rfl
  · exact .letter rfl
  · exact .letter rfl
  · exact .letter rfl
  · exact .letter rfl
  · by_cases hc : c.toNat < 0x20
    · simp only [hc, if_true]
      exact .unit (.mk (hexNumber?_hexDigits4 c.toNat hc))
    · simp only [hc, if_false]
      exact .plain (by simp_all [isPlain])

/-- Characters escaped one by one are the characters of a string. -/
theorem isChars_flatMap_escapeChar (s rest : List Char) :
    IsChars s (s.flatMap escapeChar ++ '"' :: rest) rest := by
  induction s with
  | nil => exact .nil
  | cons c s ih => simpa using IsChars.cons (isChar_escapeChar c _) ih

/-- A quoted text is a JSON string of that text. -/
theorem isString_quote (s : String) (rest : List Char) :
    IsString s ((quote s).toList ++ rest) rest := by
  simpa [quote] using IsString.mk (isChars_flatMap_escapeChar s.toList rest)

/-! ## numbers -/

/-- A text of digits is one in front of anything. -/
theorem isDigits_append {ds : List Char} (hne : ds ≠ []) (hds : ∀ d ∈ ds, d.isDigit = true)
    (rest : List Char) : IsDigits ds (ds ++ rest) rest := by
  induction ds with
  | nil => contradiction
  | cons d ds ih =>
      cases ds with
      | nil => exact .one (hds d (by simp))
      | cons d' ds => exact .cons (hds d (by simp)) (ih (by simp) fun e he => hds e (by simp [he]))

/-- The digits of a number that is not zero begin with another digit. -/
theorem head?_toDigits_ne {n : Nat} (hn : 0 < n) : (Nat.toDigits 10 n).head? ≠ some '0' := by
  induction n using Nat.strongRecOn with
  | ind n ih =>
      rw [Nat.toDigits_eq_if (by decide)]
      by_cases hlt : n < 10
      · have hdigit : ∀ d < 10, 0 < d → Nat.digitChar d ≠ '0' := by decide
        simpa [hlt] using hdigit n hlt hn
      · have hhead := ih (n / 10) (by omega) (by omega)
        have hne : Nat.toDigits 10 (n / 10) ≠ [] := Nat.toDigits_ne_nil
        obtain ⟨d, ds, hds⟩ := List.exists_cons_of_ne_nil hne
        simpa [hlt, hds] using hhead

/-- The decimal digits of a number write it, without a leading zero. -/
theorem isWhole_toDigits (n : Nat) (rest : List Char) :
    IsWhole (Nat.toDigits 10 n) (Nat.toDigits 10 n ++ rest) rest := by
  by_cases hn : n = 0
  · subst hn
    exact .zero
  · have hhead := head?_toDigits_ne (by omega : 0 < n)
    have hdigits := isDigits_append (Nat.toDigits_ne_nil)
      (fun d hd => Nat.isDigit_of_mem_toDigits (n := n) (by decide) (Nat.le_refl 10) hd) rest
    generalize Nat.toDigits 10 n = ds at *
    cases ds with
    | nil => cases hdigits
    | cons d ds => exact .digits (by simpa using hhead) hdigits

/-- A natural number is written as the JSON number it is. -/
theorem isNumber_toString (n : Nat) (rest : List Char) :
    IsNumber ⟨n, 0⟩ ((toString n).toList ++ rest) rest := by
  have h := IsUnsigned.mk (isWhole_toDigits n rest) .absent .absent
  simp only [Number.ofDigits, List.append_nil, Nat.ofDigitChars_ten_toDigits] at h
  simpa [Nat.toString_eq_repr, Nat.toList_repr] using IsNumber.plain h

/-! ## values -/

theorem isSpaces_replicate (n : Nat) (rest : List Char) :
    IsSpaces (List.replicate n ' ' ++ rest) rest := by
  induction n with
  | zero => exact .nil
  | succ n ih => exact .cons rfl ih

/-- A line break and the indentation behind it are blank. -/
theorem isSpaces_newline (depth : Nat) (rest : List Char) :
    IsSpaces ((newline depth).toList ++ rest) rest := by
  simpa [newline] using IsSpaces.cons (c := '\n') rfl (isSpaces_replicate (2 * depth) rest)

/-- A member is its name, a colon and its value. -/
theorem isMember_quote (name : String) {v : Value} {text rest : List Char}
    (h : IsValue v text rest) :
    IsMember (name, v) ((quote name).toList ++ (": ".toList ++ text)) rest :=
  .mk (isString_quote name _) .nil (.cons rfl .nil) h

mutual

/-- A value is written as one. -/
theorem exists_write (out : String) (depth : Nat) (rest : List Char) : ∀ j : Json,
    ∃ text, (write out depth j).toList = out.toList ++ text ∧
      IsValue j.toValue (text ++ rest) rest
  | null => ⟨"null".toList, by simp [write], by simpa [toValue] using .scalar .null⟩
  | bool true => ⟨"true".toList, by simp [write], by simpa [toValue] using .scalar .true⟩
  | bool false => ⟨"false".toList, by simp [write], by simpa [toValue] using .scalar .false⟩
  | number n =>
    ⟨(toString n).toList, by simp [write],
      by simpa only [toValue] using .scalar (.number (isNumber_toString n rest))⟩
  | string s =>
    ⟨(quote s).toList, by simp [write],
      by simpa only [toValue] using .scalar (.string (isString_quote s rest))⟩
  | array [] =>
    ⟨"[]".toList, by simp [write], by simpa [toValue] using .array (.none .nil)⟩
  | array (item :: items) => by
    let start := out ++ "[" ++ newline (depth + 1)
    let stop := (newline depth).toList ++ ']' :: rest
    -- The first item is followed by the text of the others, which has to be known first.
    obtain ⟨more, hmore, hitems⟩ :=
      exists_writeItems (write start (depth + 1) item) (depth + 1) stop items
    obtain ⟨text, htext, hitem⟩ := exists_write start (depth + 1) (more ++ stop) item
    refine ⟨'[' :: ((newline (depth + 1)).toList ++ text ++ more ++ (newline depth).toList ++
      [']']), ?_, ?_⟩
    · simp [write, start, hmore, htext]
    · have h := hitems (isSpaces_newline (depth + 1) _) hitem (isSpaces_newline depth (']' :: rest))
      simpa [toValue, stop] using IsValue.array (.some h)
  | object [] =>
    ⟨"\x7b\x7d".toList, by simp [write], by simpa [toValue] using .object (.none .nil)⟩
  | object ((name, value) :: members) => by
    let start := out ++ "\x7b" ++ newline (depth + 1) ++ quote name ++ ": "
    let stop := (newline depth).toList ++ '\x7d' :: rest
    obtain ⟨more, hmore, hmembers⟩ :=
      exists_writeMembers (write start (depth + 1) value) (depth + 1) stop members
    obtain ⟨text, htext, hvalue⟩ := exists_write start (depth + 1) (more ++ stop) value
    refine ⟨'\x7b' :: ((newline (depth + 1)).toList ++ (quote name).toList ++ ": ".toList ++ text ++
      more ++ (newline depth).toList ++ ['\x7d']), ?_, ?_⟩
    · simp [write, start, hmore, htext]
    · have h := hmembers (isSpaces_newline (depth + 1) _) (isMember_quote name hvalue)
        (isSpaces_newline depth ('\x7d' :: rest))
      simpa [toValue, stop] using IsValue.object (.some h)

/-- Items that follow an item are written after it. -/
theorem exists_writeItems (out : String) (depth : Nat) (rest : List Char) : ∀ items : List Json,
    ∃ more, (writeItems out depth items).toList = out.toList ++ more ∧
      ∀ {v before text stop}, IsSpaces before text → IsValue v text (more ++ rest) →
        IsSpaces rest stop → IsSeparated IsValue (v :: items.map toValue) before stop
  | [] => ⟨[], by simp [writeItems], fun hb hv hr => .one hb hv hr⟩
  | item :: items => by
    let start := out ++ "," ++ newline depth
    obtain ⟨more, hmore, hitems⟩ := exists_writeItems (write start depth item) depth rest items
    obtain ⟨text, htext, hitem⟩ := exists_write start depth (more ++ rest) item
    refine ⟨',' :: ((newline depth).toList ++ text ++ more), ?_, ?_⟩
    · simp [writeItems, start, hmore, htext]
    · intro v before text' stop hb hv hr
      have h := hitems (isSpaces_newline depth _) hitem hr
      exact .cons hb (by simpa using hv) .nil (by simpa using h)

/-- Members that follow a member are written after it. -/
theorem exists_writeMembers (out : String) (depth : Nat) (rest : List Char) :
    ∀ members : List (String × Json),
    ∃ more, (writeMembers out depth members).toList = out.toList ++ more ∧
      ∀ {m before text stop}, IsSpaces before text → IsMember m text (more ++ rest) →
        IsSpaces rest stop →
        IsSeparated IsMember (m :: members.map fun m => (m.1, m.2.toValue)) before stop
  | [] => ⟨[], by simp [writeMembers], fun hb hm hr => .one hb hm hr⟩
  | (name, value) :: members => by
    let start := out ++ "," ++ newline depth ++ quote name ++ ": "
    obtain ⟨more, hmore, hmembers⟩ :=
      exists_writeMembers (write start depth value) depth rest members
    obtain ⟨text, htext, hvalue⟩ := exists_write start depth (more ++ rest) value
    refine ⟨',' :: ((newline depth).toList ++ (quote name).toList ++ ": ".toList ++ text ++ more),
      ?_, ?_⟩
    · simp [writeMembers, start, hmore, htext]
    · intro m before text' stop hb hm hr
      have h := hmembers (isSpaces_newline depth _) (isMember_quote name hvalue) hr
      exact .cons hb (by simpa using hm) .nil (by simpa using h)

end

/-- What is written, with blanks after it perhaps, is a document of its value. -/
theorem isDocument_pretty (j : Json) {blanks : List Char} (h : IsSpaces blanks []) :
    IsDocument j.toValue (j.pretty.toList ++ blanks) := by
  obtain ⟨text, htext, hvalue⟩ := exists_write "" 0 blanks j
  exact ⟨_, blanks, .nil, by simpa [pretty, htext] using hvalue, h⟩

end PascalTokens.Json
