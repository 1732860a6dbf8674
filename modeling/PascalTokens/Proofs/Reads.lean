import PascalTokens.Proofs.Numeral
import PascalTokens.Scan.Item

/-!
# PascalTokens.Proofs.Reads

The tokens that a text starts with, told without the reader.  `Reads` lists the
forms a token can have, complete or not, each with the texts before which it
ends.  A token is read exactly where one of these forms stands; the main
statement is `Item.next?_eq_some_iff`, which says so of every item of a source,
the pieces between tokens included.
-/

namespace PascalTokens.Scan

namespace Reading

/-- A word as a token. -/
def ofWord (text : List Char) : Reading :=
  ⟨text, ⟨.ofWord (String.ofList text), String.ofList text⟩, none⟩

/-- A number as a token. -/
def ofNumeral (n : Numeral) : Reading :=
  ⟨n.text, ⟨if n.isReal then .realLiteral else .integerLiteral, String.ofList n.text⟩,
    if n.isComplete then none else some (.bareExponent (String.ofList n.text))⟩

theorem number_eq (cs : List Char) : number cs = ofNumeral (Numeral.read cs) := rfl

end Reading

/-- Whether a symbol and a character after it make something else: a longer
symbol, a number, or a comment. -/
def joinsSymbol (preceding : Preceding) : List Char → Char → Bool
  | [':'], d => d == '='
  | ['<'], d => d == '=' || d == '>'
  | ['>'], d => d == '='
  | ['/'], d => d == '*'
  | ['-'], d => !preceding.minusIsOperator && isDigit d
  | _, _ => false

/-- The tokens that can be read after what stands before them, with the texts
before which they end. -/
inductive Reads (preceding : Preceding) : Reading → List Char → Prop
  | word {c : Char} {cs rest : List Char} (first : isWordStart c = true)
      (others : ∀ d ∈ cs, isWordPart d = true) (stops : goesOn isWordPart rest = false) :
      Reads preceding (.ofWord (c :: cs)) rest
  | number {n : Numeral} {rest : List Char} (form : n.IsFormed preceding) (stops : n.Stops rest) :
      Reads preceding (.ofNumeral n) rest
  | char (c : Char) (rest : List Char) :
      Reads preceding ⟨['\'', c, '\''], ⟨.charLiteral, String.singleton c⟩, none⟩ rest
  | openChar {c : Char} {rest : List Char} (stops : goesOn (· == '\'') rest = false) :
      Reads preceding ⟨['\'', c], ⟨.charLiteral, String.ofList ['\'', c]⟩, some .openChar⟩ rest
  | loneQuote : Reads preceding ⟨['\''], ⟨.charLiteral, "'"⟩, some .openChar⟩ []
  | string {cs rest : List Char} (plain : '"' ∉ cs) :
      Reads preceding ⟨'"' :: cs ++ ['"'], ⟨.stringLiteral, String.ofList cs⟩, none⟩ rest
  | openString {cs : List Char} (plain : '"' ∉ cs) :
      Reads preceding ⟨'"' :: cs, ⟨.stringLiteral, String.ofList cs⟩, some .openString⟩ []
  | symbol {text rest : List Char} {kind : Kind} (fixed : (text, kind) ∈ symbols)
      (stops : goesOn (joinsSymbol preceding text) rest = false) :
      Reads preceding ⟨text, ⟨kind, String.ofList text⟩, none⟩ rest
  | point (rest : List Char) :
      Reads preceding
        ⟨['.'], ⟨if preceding.dotEndsProgram then .endMarker else .specialSymbol,
          String.ofList ['.']⟩, none⟩ rest

/-! ## what is read has one of the forms -/

/-- A number starts with a digit, or with a sign that may stand here and a digit behind
it. -/
theorem Reading.startsNumber_iff {preceding : Preceding} {cs : List Char} :
    startsNumber preceding cs = true ↔
      ∃ sign body, IsSign preceding sign ∧ goesOn isDigit body = true ∧ cs = sign ++ body := by
  constructor
  · intro h
    unfold startsNumber at h
    split at h
    · next d tail =>
      simp only [Bool.and_eq_true, Bool.not_eq_true', Preceding.minusIsOperator,
        beq_eq_false_iff_ne] at h
      exact ⟨['-'], d :: tail, .inr ⟨rfl, h.1⟩, h.2, rfl⟩
    · next c tail _ => exact ⟨[], c :: tail, .inl rfl, h, rfl⟩
    · simp at h
  · rintro ⟨sign, body, hsign, hdigit, rfl⟩
    cases body with
    | nil => simp at hdigit
    | cons d body =>
        rw [goesOn_cons] at hdigit
        obtain rfl | ⟨rfl, hne⟩ := hsign
        · have hd : d ≠ '-' := by
            rintro rfl
            exact absurd hdigit (by decide)
          rw [List.nil_append]
          unfold startsNumber
          split
          · next heq => exact absurd (List.cons.inj heq).1 hd
          · next heq => obtain ⟨rfl, -⟩ := List.cons.inj heq; exact hdigit
          · next heq => simp at heq
        · simp [startsNumber, hdigit, Preceding.minusIsOperator, hne]

/-- A word is read up to the first character that goes on no word. -/
theorem Reads.of_word {preceding : Preceding} {c : Char} {rest : List Char}
    (hc : isWordStart c = true) :
    ∃ tail, c :: rest = (Reading.word (c :: rest)).text ++ tail ∧
      Reads preceding (Reading.word (c :: rest)) tail := by
  have htext : (c :: rest).takeWhile isWordPart = c :: rest.takeWhile isWordPart := by
    simp [isWordPart_of_isWordStart hc]
  have hword : Reading.word (c :: rest) = .ofWord (c :: rest.takeWhile isWordPart) := by
    rw [Reading.word, htext, Reading.ofWord]
  rw [hword]
  refine ⟨rest.dropWhile isWordPart, ?_, .word hc (fun d hd => holds_of_mem_takeWhile hd)
    (goesOn_dropWhile _ _)⟩
  rw [Reading.ofWord, List.cons_append, List.takeWhile_append_dropWhile]

/-- A number is read as far as its parts go. -/
theorem Reads.of_number {preceding : Preceding} {cs : List Char}
    (h : Reading.startsNumber preceding cs = true) :
    ∃ tail, cs = (Reading.number cs).text ++ tail ∧ Reads preceding (Reading.number cs) tail := by
  obtain ⟨sign, body, hsign, hdigit, rfl⟩ := Reading.startsNumber_iff.1 h
  rw [Reading.number_eq, Numeral.read_of_isSign hsign hdigit]
  obtain ⟨tail, htail, hstop⟩ := Numeral.readUnsigned_sound sign body
  exact ⟨tail, htail, .number (Numeral.isFormed_readUnsigned hsign hdigit) hstop⟩

/-- Behind a quote a character literal is read, whole or open. -/
theorem Reads.of_charLiteral (preceding : Preceding) (cs : List Char) :
    ∃ tail, '\'' :: cs = (Reading.charLiteral cs).text ++ tail ∧
      Reads preceding (Reading.charLiteral cs) tail := by
  unfold Reading.charLiteral
  split
  · exact ⟨[], rfl, .loneQuote⟩
  · next c tail => exact ⟨tail, rfl, .char c tail⟩
  · next c tail hquote =>
    refine ⟨tail, rfl, .openChar ?_⟩
    cases tail with
    | nil => rfl
    | cons d tail =>
        have hd : d ≠ '\'' := fun hd => hquote tail (by rw [hd])
        simpa using hd

/-- The run that makes up a string has no quote. -/
theorem not_mem_takeWhile_inString (cs : List Char) : '"' ∉ cs.takeWhile Reading.inString := by
  intro hm
  simpa [Reading.inString] using holds_of_mem_takeWhile hm

/-- Characters without a quote are a run of a string. -/
theorem inString_of_not_mem {cs : List Char} (plain : '"' ∉ cs) :
    ∀ d ∈ cs, Reading.inString d = true := by
  intro d hd
  have hquote : d ≠ '"' := fun heq => plain (heq ▸ hd)
  simpa [Reading.inString] using hquote

/-- Behind a double quote a string literal is read, whole or open. -/
theorem Reads.of_stringLiteral (preceding : Preceding) (cs : List Char) :
    ∃ tail, '"' :: cs = (Reading.stringLiteral cs).text ++ tail ∧
      Reads preceding (Reading.stringLiteral cs) tail := by
  have hsplit := List.takeWhile_append_dropWhile (p := Reading.inString) (l := cs)
  have hstop := goesOn_dropWhile Reading.inString cs
  have hplain := not_mem_takeWhile_inString cs
  unfold Reading.stringLiteral
  simp only
  split
  · next hdrop =>
    rw [hdrop, List.append_nil] at hsplit
    exact ⟨[], by simp [hsplit], .openString hplain⟩
  · next c tail hdrop =>
    rw [hdrop, goesOn_cons] at hstop
    have hc : c = '"' := by simpa [Reading.inString] using hstop
    refine ⟨tail, ?_, .string hplain⟩
    conv => lhs; rw [← hsplit, hdrop, hc]
    simp

/-- A text does not go on with what no character is. -/
theorem goesOn_never (cs : List Char) : goesOn (fun _ => false) cs = false := by
  cases cs <;> rfl

theorem goesOn_beq_eq_false {c : Char} {cs : List Char} (h : ∀ tail, cs = c :: tail → False) :
    goesOn (· == c) cs = false := by
  cases cs with
  | nil => rfl
  | cons d cs =>
      have hd : d ≠ c := fun hd => h cs (by rw [hd])
      simpa using hd

/-- A symbol is read where it does not join with what follows. -/
theorem Reads.of_symbol? {preceding : Preceding} {cs text : List Char} {kind : Kind}
    (h : Reading.symbol? preceding cs = some (text, kind))
    (hnumber : Reading.startsNumber preceding cs = false)
    (hcomment : ∀ body, cs = '/' :: '*' :: body → False) :
    ∃ tail, cs = text ++ tail ∧ Reads preceding ⟨text, ⟨kind, String.ofList text⟩, none⟩ tail := by
  -- One case for each symbol, of which a few depend on what follows them.
  unfold Reading.symbol? at h
  split at h <;> simp only [Option.some.injEq, Prod.mk.injEq, reduceCtorEq] at h <;>
    obtain ⟨rfl, rfl⟩ := h
  · exact ⟨_, rfl, .symbol (by decide) (goesOn_never _)⟩
  · exact ⟨_, rfl, .symbol (by decide) (goesOn_never _)⟩
  · exact ⟨_, rfl, .symbol (by decide) (goesOn_never _)⟩
  · exact ⟨_, rfl, .symbol (by decide) (goesOn_never _)⟩
  · exact ⟨_, rfl, .point _⟩
  · exact ⟨_, rfl, .symbol (by decide) (goesOn_never _)⟩
  · next tail hassign =>
    exact ⟨tail, rfl, .symbol (by decide) (goesOn_beq_eq_false hassign)⟩
  · exact ⟨_, rfl, .symbol (by decide) (goesOn_never _)⟩
  · next tail =>
    refine ⟨tail, rfl, .symbol (by decide) ?_⟩
    cases tail with
    | nil => rfl
    | cons d tail => exact hnumber
  · exact ⟨_, rfl, .symbol (by decide) (goesOn_never _)⟩
  · next tail =>
    exact ⟨tail, rfl, .symbol (by decide)
      (goesOn_beq_eq_false fun body hbody => hcomment body (by rw [hbody]))⟩
  · exact ⟨_, rfl, .symbol (by decide) (goesOn_never _)⟩
  · exact ⟨_, rfl, .symbol (by decide) (goesOn_never _)⟩
  · exact ⟨_, rfl, .symbol (by decide) (goesOn_never _)⟩
  · next tail hle hne =>
    refine ⟨tail, rfl, .symbol (by decide) ?_⟩
    cases tail with
    | nil => rfl
    | cons d tail =>
        have hle := goesOn_beq_eq_false hle
        have hne := goesOn_beq_eq_false hne
        rw [goesOn_cons] at hle hne
        simp [joinsSymbol, hle, hne]
  · exact ⟨_, rfl, .symbol (by decide) (goesOn_never _)⟩
  · next tail hge =>
    exact ⟨tail, rfl, .symbol (by decide) (goesOn_beq_eq_false hge)⟩

/-- What is read has one of the forms, and ends where the rest of the text
begins. -/
theorem Reads.of_read? {preceding : Preceding} {cs : List Char} {r : Reading}
    (h : Reading.read? preceding cs = some r) (hcomment : ∀ body, cs = '/' :: '*' :: body → False) :
    ∃ tail, cs = r.text ++ tail ∧ Reads preceding r tail := by
  unfold Reading.read? at h
  split at h
  · simp at h
  · next c rest =>
    split at h
    · next hstart => obtain rfl := Option.some.inj h; exact Reads.of_word hstart
    · split at h
      · next hnumber => obtain rfl := Option.some.inj h; exact Reads.of_number hnumber
      · next hnumber =>
        split at h
        · next hc => obtain rfl := Option.some.inj h; rw [hc]; exact Reads.of_charLiteral _ _
        · split at h
          · next hc => obtain rfl := Option.some.inj h; rw [hc]; exact Reads.of_stringLiteral _ _
          · obtain ⟨⟨text, kind⟩, hs, rfl⟩ := Option.map_eq_some_iff.1 h
            exact Reads.of_symbol? hs (by simpa using hnumber) hcomment

/-! ## every form is read -/

namespace Reading

/-- A letter or an underscore starts a word. -/
theorem read?_of_isWordStart {preceding : Preceding} {c : Char} {rest : List Char}
    (hc : isWordStart c = true) : read? preceding (c :: rest) = some (word (c :: rest)) := by
  simp [read?, hc]

/-- What starts a number is read as one. -/
theorem read?_of_startsNumber {preceding : Preceding} {c : Char} {rest : List Char}
    (hc : isWordStart c = false) (hnumber : startsNumber preceding (c :: rest) = true) :
    read? preceding (c :: rest) = some (number (c :: rest)) := by
  simp [read?, hc, hnumber]

/-- A sign and digits are read as a number. -/
theorem read?_of_isSign {preceding : Preceding} {sign body : List Char}
    (hsign : IsSign preceding sign) (hdigit : goesOn isDigit body = true) :
    read? preceding (sign ++ body) = some (ofNumeral (Numeral.readUnsigned sign body)) := by
  have hnumber := startsNumber_iff.2 ⟨sign, body, hsign, hdigit, rfl⟩
  have hread := Numeral.read_of_isSign hsign hdigit
  cases hcs : sign ++ body with
  | nil => rw [hcs] at hnumber; simp [startsNumber] at hnumber
  | cons c tail =>
      have hword : isWordStart c = false := by
        obtain rfl | ⟨rfl, -⟩ := hsign
        · rw [List.nil_append] at hcs
          rw [hcs, goesOn_cons] at hdigit
          exact not_isWordStart_of_isDigit hdigit
        · obtain ⟨rfl, -⟩ := List.cons.inj hcs
          decide
      rw [hcs] at hnumber hread
      rw [read?_of_startsNumber hword hnumber, number_eq, hread]

/-- Neither a minus nor a digit, and no number starts. -/
theorem startsNumber_eq_false {preceding : Preceding} {c : Char} {rest : List Char}
    (hc : c ≠ '-') (hdigit : isDigit c = false) : startsNumber preceding (c :: rest) = false := by
  unfold startsNumber
  split
  · next heq => exact absurd (List.cons.inj heq).1 hc
  · next heq => obtain ⟨rfl, -⟩ := List.cons.inj heq; exact hdigit
  · rfl

theorem read?_quote (preceding : Preceding) (rest : List Char) :
    read? preceding ('\'' :: rest) = some (charLiteral rest) := by
  have hword : isWordStart '\'' = false := by decide
  have hnumber : startsNumber preceding ('\'' :: rest) = false :=
    startsNumber_eq_false (by decide) (by decide)
  simp [read?, hword, hnumber]

theorem read?_doubleQuote (preceding : Preceding) (rest : List Char) :
    read? preceding ('"' :: rest) = some (stringLiteral rest) := by
  have hword : isWordStart '"' = false := by decide
  have hnumber : startsNumber preceding ('"' :: rest) = false :=
    startsNumber_eq_false (by decide) (by decide)
  simp [read?, hword, hnumber]

/-- A symbol is read if its sign starts no number. -/
theorem read?_of_symbol? {preceding : Preceding} {c : Char} {rest text : List Char} {kind : Kind}
    (hc : c ∈ symbolStarts) (hnumber : startsNumber preceding (c :: rest) = false)
    (hsymbol : symbol? preceding (c :: rest) = some (text, kind)) :
    read? preceding (c :: rest) = some ⟨text, ⟨kind, String.ofList text⟩, none⟩ := by
  have hword : isWordStart c = false :=
    not_isWordStart_of_not_isWordPart
      (not_isWordPart_of_mem_punctuation (List.mem_append_left _ hc))
  have hquotes : c ≠ '\'' ∧ c ≠ '"' := by
    constructor
    · rintro rfl; exact absurd hc (by decide)
    · rintro rfl; exact absurd hc (by decide)
  simp [read?, hword, hnumber, hquotes, symbolReading?, hsymbol]

/-- A symbol starts with one of few characters. -/
theorem symbol?_eq_none {preceding : Preceding} {c : Char} {rest : List Char}
    (h : c ∉ symbolStarts) : symbol? preceding (c :: rest) = none := by
  unfold symbol?
  split
  all_goals simp_all [symbolStarts]

/-- A symbol is read where it does not join with what follows. -/
theorem symbol?_append {preceding : Preceding} {text rest : List Char} {kind : Kind}
    (hfixed : (text, kind) ∈ symbols) (hstop : goesOn (joinsSymbol preceding text) rest = false) :
    symbol? preceding (text ++ rest) = some (text, kind) := by
  simp only [symbols, List.mem_cons, Prod.mk.injEq, List.not_mem_nil, or_false] at hfixed
  rcases hfixed with ⟨rfl, rfl⟩ | ⟨rfl, rfl⟩ | ⟨rfl, rfl⟩ | ⟨rfl, rfl⟩ | ⟨rfl, rfl⟩ | ⟨rfl, rfl⟩ |
    ⟨rfl, rfl⟩ | ⟨rfl, rfl⟩ | ⟨rfl, rfl⟩ | ⟨rfl, rfl⟩ | ⟨rfl, rfl⟩ | ⟨rfl, rfl⟩ | ⟨rfl, rfl⟩ |
    ⟨rfl, rfl⟩ | ⟨rfl, rfl⟩ | ⟨rfl, rfl⟩
  all_goals
    cases rest with
    | nil => rfl
    | cons d rest => simp_all [symbol?, joinsSymbol]

end Reading

/-- A number starts with a digit, or with its sign. -/
theorem Numeral.IsFormed.exists_cons {preceding : Preceding} {n : Numeral}
    (h : n.IsFormed preceding) : ∃ c tail, n.text = c :: tail ∧ (isDigit c = true ∨ c = '-') := by
  rw [text_eq]
  obtain hsign | ⟨hsign, -⟩ := h.sign
  · obtain ⟨hne, hdigits⟩ := h.whole
    rw [hsign, List.nil_append]
    cases hw : n.whole with
    | nil => exact absurd hw hne
    | cons d whole =>
        rw [hw] at hdigits
        exact ⟨d, _, rfl, .inl (hdigits d List.mem_cons_self)⟩
  · rw [hsign]
    exact ⟨'-', _, rfl, .inr rfl⟩

/-- Each fixed symbol starts with one of those characters. -/
theorem mem_symbolStarts_of_mem_symbols {text : List Char} {kind : Kind}
    (h : (text, kind) ∈ symbols) : ∃ c tail, text = c :: tail ∧ c ∈ symbolStarts := by
  have key : ∀ s ∈ symbols, s.1.head?.any symbolStarts.contains = true := by decide
  have hstart := key _ h
  cases text with
  | nil => simp at hstart
  | cons d tail => exact ⟨d, tail, rfl, by simpa using hstart⟩

/-- A symbol that does not join with what follows is not the sign of a number. -/
theorem not_startsNumber_of_symbol {preceding : Preceding} {text rest : List Char} {kind : Kind}
    (hfixed : (text, kind) ∈ symbols) (hstop : goesOn (joinsSymbol preceding text) rest = false) :
    Reading.startsNumber preceding (text ++ rest) = false := by
  have hminus : ∀ s ∈ symbols, s.1.head? = some '-' → s.1 = ['-'] := by decide
  have hdigit : symbolStarts.all (!isDigit ·) = true := by decide
  obtain ⟨c, tail, rfl, hc⟩ := mem_symbolStarts_of_mem_symbols hfixed
  by_cases hm : c = '-'
  · subst hm
    obtain ⟨-, rfl⟩ := List.cons.inj (hminus _ hfixed rfl)
    cases rest with
    | nil => rfl
    | cons d rest => exact hstop
  · exact Reading.startsNumber_eq_false hm (by simpa using List.all_eq_true.1 hdigit c hc)

namespace Reads

variable {preceding : Preceding} {r : Reading} {rest : List Char}

/-- A token starts with a part of a word, or with punctuation. -/
theorem exists_cons (h : Reads preceding r rest) :
    ∃ c tail, r.text = c :: tail ∧ (isWordPart c = true ∨ c ∈ punctuation) := by
  cases h with
  | word first => exact ⟨_, _, rfl, .inl (isWordPart_of_isWordStart first)⟩
  | number form =>
      obtain ⟨c, tail, htext, hdigit | rfl⟩ := form.exists_cons
      · exact ⟨c, tail, htext, .inl (isWordPart_of_isDigit hdigit)⟩
      · exact ⟨'-', tail, htext, .inr (by decide)⟩
  | char | openChar | loneQuote => exact ⟨_, _, rfl, .inr (by decide)⟩
  | string | openString => exact ⟨_, _, rfl, .inr (by decide)⟩
  | symbol fixed =>
      obtain ⟨c, tail, htext, hc⟩ := mem_symbolStarts_of_mem_symbols fixed
      exact ⟨c, tail, htext, .inr (List.mem_append_left _ hc)⟩
  | point => exact ⟨_, _, rfl, .inr (by decide)⟩

theorem text_ne_nil (h : Reads preceding r rest) : r.text ≠ [] := by
  obtain ⟨c, tail, htext, -⟩ := h.exists_cons
  rw [htext]
  exact List.cons_ne_nil _ _

/-- A token is not the start of a comment. -/
theorem not_comment (h : Reads preceding r rest) (body : List Char) :
    r.text ++ rest ≠ '/' :: '*' :: body := by
  intro heq
  cases h with
  | word first =>
      obtain ⟨rfl, -⟩ := List.cons.inj heq
      exact absurd first (by decide)
  | number form =>
      obtain ⟨c, tail, htext, hc⟩ := form.exists_cons
      rw [Reading.ofNumeral, htext] at heq
      obtain ⟨rfl, -⟩ := List.cons.inj heq
      exact absurd hc (by decide)
  | char | openChar | loneQuote | string | openString | point => simp at heq
  | symbol fixed stops =>
      simp only at heq
      have key : ∀ s ∈ symbols, s.1.head? = some '/' → s.1 = ['/'] := by decide
      obtain ⟨c, tail, rfl, -⟩ := mem_symbolStarts_of_mem_symbols fixed
      obtain ⟨rfl, htail⟩ := List.cons.inj heq
      obtain ⟨-, rfl⟩ := List.cons.inj (key _ fixed rfl)
      have hrest : rest = '*' :: body := htail
      rw [hrest] at stops
      exact absurd stops (by simp [joinsSymbol])

/-- Every form is read where it stands. -/
theorem read?_eq (h : Reads preceding r rest) :
    Reading.read? preceding (r.text ++ rest) = some r := by
  cases h with
  | @word c cs _ first others stops =>
      have hall : ∀ d ∈ c :: cs, isWordPart d = true :=
        List.forall_mem_cons.2 ⟨isWordPart_of_isWordStart first, others⟩
      have htake : ((c :: cs) ++ rest).takeWhile isWordPart = c :: cs :=
        takeWhile_append_of_stop hall stops
      rw [Reading.ofWord, List.cons_append, Reading.read?_of_isWordStart first, Reading.word,
        ← List.cons_append, htake]
  | @number n _ form stops =>
      have hdigit := Numeral.goesOn_of_isDigits form.whole (n.fraction ++ (n.exponentText ++ rest))
      rw [Reading.ofNumeral, Numeral.text_eq, List.append_assoc, List.append_assoc,
        List.append_assoc, Reading.read?_of_isSign form.sign hdigit,
        Numeral.readUnsigned_text form stops, Reading.ofNumeral, Numeral.text_eq]
  | char c => simp [Reading.read?_quote, Reading.charLiteral]
  | openChar stops =>
      simp only [List.cons_append, List.nil_append, Reading.read?_quote, Reading.charLiteral]
      cases rest with
      | nil => rfl
      | cons d rest => simp_all
  | loneQuote => simp [Reading.read?_quote, Reading.charLiteral]
  | @string cs _ plain =>
      have hrun := inString_of_not_mem plain
      have hstop : goesOn Reading.inString ('"' :: rest) = false := rfl
      simp [Reading.read?_doubleQuote, Reading.stringLiteral,
        takeWhile_append_of_stop hrun hstop, dropWhile_append_of_stop hrun hstop]
  | @openString cs plain =>
      have hrun := inString_of_not_mem plain
      have htake := takeWhile_append_of_stop hrun (goesOn_nil Reading.inString)
      have hdrop := dropWhile_append_of_stop hrun (goesOn_nil Reading.inString)
      rw [List.append_nil] at htake hdrop
      simp [Reading.read?_doubleQuote, Reading.stringLiteral, htake, hdrop]
  | @symbol text _ kind fixed stops =>
      have hsymbol := Reading.symbol?_append fixed stops
      obtain ⟨c, tail, rfl, hc⟩ := mem_symbolStarts_of_mem_symbols fixed
      exact Reading.read?_of_symbol? hc (not_startsNumber_of_symbol fixed stops) hsymbol
  | point =>
      have hsymbol : Reading.symbol? preceding ('.' :: rest) =
          some (['.'], if preceding.dotEndsProgram then .endMarker else .specialSymbol) := rfl
      exact Reading.read?_of_symbol? (by decide)
        (Reading.startsNumber_eq_false (by decide) (by decide)) hsymbol

end Reads

/-! ## comments -/

/-- A comment ends at the first closing delimiter. -/
theorem commentBody?_append {body : List Char} (h : ¬ commentEnd <:+: body) (rest : List Char) :
    commentBody? (body ++ commentEnd ++ rest) = some body := by
  induction body with
  | nil => rfl
  | cons c body ih =>
      have hbody : ¬ commentEnd <:+: body := fun hin => h (List.infix_cons hin)
      have hend : ¬ commentEnd <+: c :: (body ++ commentEnd ++ rest) := by
        rintro ⟨tail, htail⟩
        obtain ⟨rfl, hnext⟩ := List.cons.inj htail
        cases body with
        | nil => simp [commentEnd] at hnext
        | cons d body =>
            obtain ⟨rfl, -⟩ := List.cons.inj hnext
            exact h ⟨[], body, rfl⟩
      rw [List.cons_append, List.cons_append, commentBody?_cons hend, ih hbody]
      rfl

/-- A comment without an end has no body before its end. -/
theorem commentBody?_of_not_infix {cs : List Char} (h : ¬ commentEnd <:+: cs) :
    commentBody? cs = none := by
  cases hb : commentBody? cs with
  | none => rfl
  | some body =>
      have hpre := (commentBody?_eq_some hb).1
      exact absurd ((List.suffix_append body commentEnd).isInfix.trans hpre.isInfix) h

namespace Item

/-! ## items -/

/-- Whether an item can stand before a text: a token ends there, and a comment
that is not closed takes the rest of the source. -/
def Stands (preceding : Preceding) (rest : List Char) : Item → Prop
  | skipped k => k.IsProper ∧ (k.isOpen = true → rest = [])
  | token r => Reads preceding r rest

theorem next?_blank {preceding : Preceding} {c : Char} {rest : List Char}
    (hc : isBlank c = true) : next? preceding (c :: rest) = some (skipped (.blank c)) := by
  simp [next?, hc]

/-- The opening bracket starts a comment. -/
theorem next?_comment (preceding : Preceding) (body : List Char) :
    next? preceding ('/' :: '*' :: body) = some (skipped (readComment body)) := by
  have hblank : isBlank '/' = false := by decide
  simp [next?, hblank]

/-- What is neither blank nor comment is a token or an unrecognized character. -/
theorem next?_of_not_comment {preceding : Preceding} {c : Char} {rest : List Char}
    (hblank : isBlank c = false) (hcomment : ∀ body, c :: rest ≠ '/' :: '*' :: body) :
    next? preceding (c :: rest) =
      match Reading.read? preceding (c :: rest) with
      | some r => some (token r)
      | none => some (skipped (.unrecognized c)) := by
  unfold next?
  simp only [hblank, Bool.false_eq_true, if_false]
  split
  · next body => exact absurd rfl (hcomment body)
  · rfl

/-- A token that can be read in front of a rest is read there. -/
theorem next?_token {preceding : Preceding} {r : Reading} {rest : List Char}
    (h : Reads preceding r rest) : next? preceding (r.text ++ rest) = some (token r) := by
  have hread := h.read?_eq
  have hcomment := h.not_comment
  obtain ⟨c, tail, htext, hc⟩ := h.exists_cons
  have hblank : isBlank c = false := by
    rcases hc with hc | hc
    · exact not_isBlank_of_isWordPart hc
    · exact not_isBlank_of_mem_punctuation hc
  rw [htext, List.cons_append] at hread hcomment ⊢
  rw [next?_of_not_comment hblank hcomment, hread]

/-- A character that starts nothing is skipped, whatever follows. -/
theorem next?_unrecognized {preceding : Preceding} {c : Char} {rest : List Char}
    (h : startsNothing c = true) :
    next? preceding (c :: rest) = some (skipped (.unrecognized c)) := by
  simp only [startsNothing, Bool.and_eq_true, Bool.not_eq_true'] at h
  obtain ⟨⟨⟨hblank, hstart⟩, hdigit⟩, hpunct⟩ := h
  have hpunct : c ∉ punctuation := by simpa using hpunct
  have hcomment (body : List Char) : c :: rest ≠ '/' :: '*' :: body := by
    intro heq
    obtain ⟨rfl, -⟩ := List.cons.inj heq
    exact hpunct (by decide)
  have hminus : c ≠ '-' := by
    rintro rfl
    exact hpunct (by decide)
  have hquote : c ≠ '\'' := by
    rintro rfl
    exact hpunct (by decide)
  have hdouble : c ≠ '"' := by
    rintro rfl
    exact hpunct (by decide)
  have hread : Reading.read? preceding (c :: rest) = none := by
    have hsymbol : Reading.symbol? preceding (c :: rest) = none :=
      Reading.symbol?_eq_none fun hm => hpunct (List.mem_append_left _ hm)
    simp [Reading.read?, hstart, Reading.startsNumber_eq_false hminus hdigit, hquote, hdouble,
      Reading.symbolReading?, hsymbol]
  rw [next?_of_not_comment hblank hcomment, hread]

/-- An item that is passed over is read as itself, an open comment only at the end. -/
theorem next?_skipped (preceding : Preceding) {k : Skipped} {rest : List Char} (hk : k.IsProper)
    (hopen : k.isOpen = true → rest = []) :
    next? preceding (k.text ++ rest) = some (skipped k) := by
  cases k with
  | blank c => exact next?_blank hk
  | unrecognized c => exact next?_unrecognized hk
  | comment body =>
      have hbody : commentBody? (body ++ commentEnd ++ rest) = some body :=
        commentBody?_append hk rest
      rw [commentEnd] at hbody
      have htext : Skipped.text (.comment body) ++ rest =
          '/' :: '*' :: (body ++ ['*', '/'] ++ rest) := rfl
      rw [htext, next?_comment, readComment, hbody]
  | openComment body =>
      obtain rfl := hopen rfl
      rw [List.append_nil, Skipped.text, next?_comment, readComment, commentBody?_of_not_infix hk]

/-- A token is read only where no comment starts. -/
theorem read?_of_next? {preceding : Preceding} {cs : List Char} {r : Reading}
    (h : next? preceding cs = some (token r)) :
    Reading.read? preceding cs = some r ∧ ∀ body, cs ≠ '/' :: '*' :: body := by
  have hcomment (body : List Char) : cs ≠ '/' :: '*' :: body := by
    rintro rfl
    rw [next?_comment] at h
    simp at h
  refine ⟨?_, hcomment⟩
  cases cs with
  | nil => simp [next?] at h
  | cons c rest =>
      cases hblank : isBlank c with
      | true => rw [next?_blank hblank] at h; simp at h
      | false =>
          rw [next?_of_not_comment hblank hcomment] at h
          split at h
          · next hread => rw [hread]; simpa using h
          · simp at h

/-- An item that is read is ahead, and stands in front of the rest. -/
theorem stands_of_next? {preceding : Preceding} {cs : List Char} {i : Item}
    (h : next? preceding cs = some i) : ∃ rest, cs = i.text ++ rest ∧ i.Stands preceding rest := by
  obtain ⟨rest, rfl⟩ := text_isPrefix h
  refine ⟨rest, rfl, ?_⟩
  cases i with
  | skipped k =>
      refine ⟨isProper_of_next? h, fun hopen => ?_⟩
      cases k with
      | openComment body =>
          have htext : text (skipped (.openComment body)) ++ rest =
              '/' :: '*' :: (body ++ rest) := rfl
          rw [htext, next?_comment, readComment] at h
          split at h
          · simp at h
          · simpa using h
      | blank | comment | unrecognized => simp [Skipped.isOpen] at hopen
  | token r =>
      obtain ⟨hread, hcomment⟩ := read?_of_next? h
      obtain ⟨tail, htail, hreads⟩ := Reads.of_read? hread hcomment
      rw [List.append_cancel_left htail]
      exact hreads

/-- An item is the next one exactly where its text stands before a text that
lets it end. -/
theorem next?_eq_some_iff {preceding : Preceding} {cs : List Char} {i : Item} :
    next? preceding cs = some i ↔ ∃ rest, cs = i.text ++ rest ∧ i.Stands preceding rest := by
  constructor
  · exact stands_of_next?
  · rintro ⟨rest, rfl, hstands⟩
    cases i with
    | skipped k => exact next?_skipped preceding hstands.1 hstands.2
    | token r => exact next?_token hstands

end Item

end PascalTokens.Scan
