import PascalTokens.Report.Format
import PascalTokens.Text.Pieces

/-!
# PascalTokens.Proofs.TextReport

The text form of a report can be read back, though nothing in it is escaped:

1. the lines before the first empty one are those of the tokens, and the mark of
   the end if it is shown;
2. a token line is taken apart from its end, where the name of a kind has no
   blank in it, so its lexeme may hold anything but a line feed;
3. each skipped character takes three columns with its quotes, so whatever it
   is, a comma or a line feed of the report comes right after it.

The main statement is `toText_eq_iff`.
-/

namespace PascalTokens

open Text

/-! ## lines of tokens -/

namespace Token

variable {t t' : Token}

/-- A token line is the lexeme and the name of the kind in angle brackets. -/
theorem toList_display (t : Token) :
    t.display.toList = '<' :: (t.lexeme.toList ++ ',' :: ' ' :: (t.kind.name.toList ++ ['>'])) := by
  simp [display]

/-- The line of a token is taken apart at its last blank. -/
theorem display_inj : t.display = t'.display ↔ t = t' := by
  constructor
  · intro h
    have hblank (k : Kind) : ' ' ∉ '>' :: k.name.toList.reverse := by cases k <;> decide
    have hback (t : Token) : t.display.toList.reverse =
        ('>' :: t.kind.name.toList.reverse) ++
          ' ' :: (',' :: (t.lexeme.toList.reverse ++ ['<'])) := by
      simp [toList_display]
    have hsame := hback t
    rw [h, hback t'] at hsame
    obtain ⟨hname, hlexeme⟩ := line_inj (hblank _) (hblank _) hsame
    obtain ⟨kind, lexeme⟩ := t
    obtain ⟨kind', lexeme'⟩ := t'
    have hkind : kind' = kind := by
      have hnames : kind'.name.toList = kind.name.toList := by simpa using hname
      have hread := congrArg Kind.ofName? (String.toList_inj.1 hnames)
      rwa [Kind.ofName?_name, Kind.ofName?_name, Option.some.injEq] at hread
    have hlexemes : lexeme'.toList = lexeme.toList := by simpa using hlexeme
    rw [hkind, String.toList_inj.1 hlexemes]
  · rintro rfl
    rfl

/-- A token line has a line feed only in its lexeme. -/
theorem newline_notMem_display (h : '\n' ∉ t.lexeme.toList) : '\n' ∉ t.display.toList := by
  have hname : '\n' ∉ t.kind.name.toList := by cases t.kind <;> decide
  simp [toList_display, h, hname]

/-- No token line is the line that ends the input. -/
theorem display_ne_endOfInputLine (t : Token) : t.display ≠ Report.endOfInputLine := by
  have hblank : ' ' ∉ Report.endOfInputLine.toList := by decide
  intro h
  rw [← h, toList_display] at hblank
  simp at hblank

end Token

namespace Report

/-- The lines of the tokens and of the mark of the end, without their line feeds. -/
def listing (tokens : List Token) (showEndOfInput : Bool) : List String :=
  tokens.map Token.display ++ if showEndOfInput then [endOfInputLine] else []

/-- What comes after the lines of the tokens. -/
def summary (unrecognized : List Char) : String :=
  "\n" ++ heading ++ unrecognizedLines unrecognized ++ rule ++ "\n"

/-- A report is the token lines and then the summary. -/
theorem toText_eq (r : Report) (showEndOfInput : Bool) :
    r.toText showEndOfInput = tokenLines r.tokens showEndOfInput ++ summary r.unrecognized := by
  simp [toText, summary, String.append_assoc]

section

variable {ts ts' : List Token} {shown shown' : Bool}

/-- The lines of a listing are the token lines and, if it is shown, the end of the input.
-/
theorem mem_listing {line : String} :
    line ∈ listing ts shown ↔
      (∃ t ∈ ts, t.display = line) ∨ shown = true ∧ line = endOfInputLine := by
  cases shown <;> simp [listing]

/-- The listing tells the tokens, and whether the end of the input is shown. -/
theorem listing_inj : listing ts shown = listing ts' shown' ↔ ts = ts' ∧ shown = shown' := by
  constructor
  · intro h
    have hshown (ts : List Token) (shown : Bool) :
        endOfInputLine ∈ listing ts shown ↔ shown = true := by
      simp [mem_listing, Token.display_ne_endOfInputLine]
    obtain rfl : shown = shown' := by
      rw [Bool.eq_iff_iff, ← hshown ts, ← hshown ts', h]
    have hmap := List.append_cancel_right h
    exact ⟨(List.map_inj_right fun _ _ => Token.display_inj.1).1 hmap, rfl⟩
  · rintro ⟨rfl, rfl⟩
    rfl

/-- A listing is its lines, each with its line feed. -/
theorem toList_tokenLines (ts : List Token) (shown : Bool) :
    (tokenLines ts shown).toList =
      ((listing ts shown).map String.toList).flatMap fun line => line ++ ['\n'] := by
  cases shown <;> simp [tokenLines, listing, List.flatMap_map]

/-- A line of the listing is one line, and no empty one. -/
theorem isLine_of_mem_listing (h : ∀ t ∈ ts, '\n' ∉ t.lexeme.toList) {line : String}
    (hline : line ∈ listing ts shown) : '\n' ∉ line.toList ∧ line.toList ≠ [] := by
  obtain ⟨t, ht, rfl⟩ | ⟨-, rfl⟩ := mem_listing.1 hline
  · exact ⟨Token.newline_notMem_display (h t ht), by simp [Token.toList_display]⟩
  · decide

/-- The lines before the first empty one are the listing. -/
theorem takeWhile_pieces_tokenLines (h : ∀ t ∈ ts, '\n' ∉ t.lexeme.toList) (rest : List Char) :
    (pieces '\n' ((tokenLines ts shown).toList ++ '\n' :: rest)).takeWhile (!·.isEmpty) =
      (listing ts shown).map String.toList := by
  have hlines : ∀ line ∈ (listing ts shown).map String.toList, '\n' ∉ line ∧ line ≠ [] :=
    List.forall_mem_map.2 fun _ => isLine_of_mem_listing h
  have hempty : pieces '\n' ('\n' :: rest) = [] :: pieces '\n' rest :=
    pieces_line List.not_mem_nil rest
  rw [toList_tokenLines, pieces_lines fun line hline => (hlines line hline).1, hempty,
    List.takeWhile_append_of_pos fun line hline => by simpa using (hlines line hline).2]
  simp

/-- The tokens and the mark of the end are read back from the lines before the
first empty one. -/
theorem tokenLines_inj (h : ∀ t ∈ ts, '\n' ∉ t.lexeme.toList)
    (h' : ∀ t ∈ ts', '\n' ∉ t.lexeme.toList) {rest rest' : List Char}
    (heq : (tokenLines ts shown).toList ++ '\n' :: rest =
      (tokenLines ts' shown').toList ++ '\n' :: rest') :
    ts = ts' ∧ shown = shown' ∧ rest = rest' := by
  have hlines : (pieces '\n' ((tokenLines ts shown).toList ++ '\n' :: rest)).takeWhile
      (!·.isEmpty) = (listing ts shown).map String.toList := takeWhile_pieces_tokenLines h rest
  rw [heq, takeWhile_pieces_tokenLines h'] at hlines
  have hlisting := (List.map_inj_right fun _ _ => String.toList_inj.1).1 hlines
  obtain ⟨rfl, rfl⟩ := listing_inj.1 hlisting
  exact ⟨rfl, rfl, (List.cons.inj (List.append_cancel_left heq)).2⟩

end

/-! ## skipped characters -/

/-- Skipped characters in quotes, with a comma and a blank between them. -/
def quotedList (unrecognized : List Char) : List Char :=
  [',', ' '].intercalate (unrecognized.map fun c => ['\'', c, '\''])

section

variable {cs cs' : List Char}

theorem quotedList_singleton (c : Char) : quotedList [c] = ['\'', c, '\''] := by
  simp [quotedList]

theorem quotedList_cons_cons (c d : Char) (cs : List Char) :
    quotedList (c :: d :: cs) = '\'' :: c :: '\'' :: ',' :: ' ' :: quotedList (d :: cs) := by
  simp [quotedList]

/-- A summary with unrecognized characters lists them and then counts them. -/
theorem toList_unrecognizedLines (hne : cs ≠ []) :
    (unrecognizedLines cs).toList = "Characters found: ".toList ++ (quotedList cs ++
      '\n' :: ("Total unrecognized characters: ".toList ++
        ((toString cs.length).toList ++ ['\n']))) := by
  simp [unrecognizedLines, hne, quotedList, Function.comp_def]

/-- What comes after a quote tells whether another character follows. -/
theorem quotedList_inj (hne : cs ≠ []) (hne' : cs' ≠ []) {rest rest' : List Char}
    (h : quotedList cs ++ '\n' :: rest = quotedList cs' ++ '\n' :: rest') : cs = cs' := by
  induction cs generalizing cs' with
  | nil => exact absurd rfl hne
  | cons c cs ih =>
      match cs, cs', hne' with
      | [], [c'], _ => simp_all [quotedList_singleton]
      | [], c' :: d' :: cs', _ => simp [quotedList_singleton, quotedList_cons_cons] at h
      | d :: cs, [c'], _ => simp [quotedList_singleton, quotedList_cons_cons] at h
      | d :: cs, c' :: d' :: cs', _ =>
          rw [quotedList_cons_cons, quotedList_cons_cons] at h
          simp only [List.cons_append, List.cons.injEq, true_and] at h
          obtain ⟨rfl, htail⟩ := h
          rw [ih (List.cons_ne_nil d cs) (List.cons_ne_nil d' cs') htail]

/-- A summary tells whether there are unrecognized characters. -/
theorem unrecognizedLines_ne (hne : cs ≠ []) : unrecognizedLines cs ≠ unrecognizedLines [] := by
  intro h
  have hhead := congrArg (·.toList.head?) h
  simp [unrecognizedLines, hne] at hhead

/-- A summary tells which characters are unrecognized, as the list can be read back. -/
theorem unrecognizedLines_inj : unrecognizedLines cs = unrecognizedLines cs' ↔ cs = cs' := by
  refine ⟨fun h => ?_, congrArg _⟩
  by_cases hne : cs = []
  · by_cases hne' : cs' = []
    · rw [hne, hne']
    · rw [hne] at h
      exact absurd h.symm (unrecognizedLines_ne hne')
  · by_cases hne' : cs' = []
    · rw [hne'] at h
      exact absurd h (unrecognizedLines_ne hne)
    · have hlists := congrArg String.toList h
      rw [toList_unrecognizedLines hne, toList_unrecognizedLines hne'] at hlists
      exact quotedList_inj hne hne' (List.append_cancel_left hlists)

end

/-! ## lines of the summary -/

/-- Whether no line of a text starts like a token line. -/
def NoTokenLine (cs : List Char) : Prop := ∀ line ∈ pieces '\n' cs, line.head? ≠ some '<'

section

variable {cs cs' : List Char}

/-- Lines that start no token stay so behind one another. -/
theorem noTokenLine_append :
    NoTokenLine (cs ++ '\n' :: cs') ↔ NoTokenLine cs ∧ NoTokenLine cs' := by
  rw [NoTokenLine, pieces_append, List.forall_mem_append]
  rfl

/-- A single line that does not open a bracket starts no token. -/
theorem noTokenLine_of_notMem (h : '\n' ∉ cs) (hhead : cs.head? ≠ some '<') : NoTokenLine cs := by
  rw [NoTokenLine, pieces_of_notMem h, List.forall_mem_singleton]
  exact hhead

/-- A text in which no line opens a bracket has no token line. -/
theorem noTokenLine_of_not_infix (h : ¬ ['\n', '<'] <:+: cs) (hhead : cs.head? ≠ some '<') :
    NoTokenLine cs := by
  intro line hline hstart
  obtain ⟨rest, rfl⟩ := List.head?_eq_some_iff.1 hstart
  obtain ⟨after, rfl⟩ | ⟨before, after, rfl⟩ := exists_of_mem_pieces hline
  · exact hhead rfl
  · exact h ⟨before, rest ++ after, by simp⟩

/-- A line that opens a bracket lies behind the first line feed. -/
theorem infix_of_infix_append (h : '\n' ∉ cs) (hin : ['\n', '<'] <:+: cs ++ cs') :
    ['\n', '<'] <:+: cs' := by
  induction cs with
  | nil => exact hin
  | cons c cs ih =>
      obtain ⟨hc, hcs⟩ := not_or.1 (mt List.mem_cons.2 h)
      rcases List.infix_cons_iff.1 hin with ⟨tail, htail⟩ | hin
      · exact absurd (List.cons.inj htail).1 hc
      · exact ih hcs hin

/-- After a line feed among the skipped characters comes its closing quote. -/
theorem not_infix_quotedList (cs : List Char) : ¬ ['\n', '<'] <:+: quotedList cs := by
  induction cs with
  | nil => simp [quotedList]
  | cons c cs ih =>
      cases cs with
      | nil => simp [quotedList_singleton, List.infix_cons_iff]
      | cons d cs =>
          rw [quotedList_cons_cons]
          simp [List.infix_cons_iff, ih]

theorem noTokenLine_nil : NoTokenLine [] := noTokenLine_of_notMem (by simp) (by simp)

theorem noTokenLine_found (cs : List Char) :
    NoTokenLine ("Characters found: ".toList ++ quotedList cs) := by
  refine noTokenLine_of_not_infix (fun hin => ?_) (by simp)
  exact not_infix_quotedList cs (infix_of_infix_append (by simp) hin)

theorem noTokenLine_total (n : Nat) :
    NoTokenLine ("Total unrecognized characters: ".toList ++ (toString n).toList) := by
  have hnumber : '\n' ∉ Nat.toDigits 10 n := notMem_toDigits (by decide) n
  exact noTokenLine_of_notMem (by simp [hnumber]) (by simp)

/-- The lines about unrecognized characters are no token lines. -/
theorem noTokenLine_unrecognizedLines (cs : List Char) {rest : List Char} (h : NoTokenLine rest) :
    NoTokenLine ((unrecognizedLines cs).toList ++ rest) := by
  by_cases hne : cs = []
  · have hnone : (unrecognizedLines cs).toList ++ rest =
        "No unrecognized characters found.".toList ++ '\n' :: rest := by
      simp [unrecognizedLines, hne]
    rw [hnone, noTokenLine_append]
    exact ⟨noTokenLine_of_notMem (by simp) (by simp), h⟩
  · have hlines : (unrecognizedLines cs).toList ++ rest =
        ("Characters found: ".toList ++ quotedList cs) ++ '\n' ::
          (("Total unrecognized characters: ".toList ++ (toString cs.length).toList) ++
            '\n' :: rest) := by
      simp [toList_unrecognizedLines hne]
    rw [hlines, noTokenLine_append, noTokenLine_append]
    exact ⟨noTokenLine_found cs, noTokenLine_total cs.length, h⟩

/-- No line of a summary could be taken for a token. -/
theorem noTokenLine_summary (cs : List Char) : NoTokenLine (summary cs).toList := by
  have hrule : NoTokenLine rule.toList := noTokenLine_of_notMem (by decide) (by decide)
  have htitle : NoTokenLine "       UNRECOGNIZED CHARACTERS".toList :=
    noTokenLine_of_notMem (by decide) (by decide)
  have hlast : NoTokenLine (rule.toList ++ '\n' :: []) :=
    noTokenLine_append.2 ⟨hrule, noTokenLine_nil⟩
  have hsummary : (summary cs).toList = [] ++ '\n' :: (rule.toList ++ '\n' ::
      ("       UNRECOGNIZED CHARACTERS".toList ++ '\n' :: (rule.toList ++ '\n' ::
        ((unrecognizedLines cs).toList ++ (rule.toList ++ '\n' :: []))))) := by
    simp [summary, heading]
  rw [hsummary]
  simp only [noTokenLine_append]
  exact ⟨noTokenLine_nil, hrule, htitle, hrule, noTokenLine_unrecognizedLines cs hlast⟩

end

/-- Two reports have the same text form only if they have the same tokens and the
same skipped characters, and both show the mark of the end or neither does.  No
token line can be taken for another one, for the mark of the end, or for a line
of the summary. -/
theorem toText_eq_iff (r r' : Report) (shown shown' : Bool)
    (h : ∀ t ∈ r.tokens, '\n' ∉ t.lexeme.toList) (h' : ∀ t ∈ r'.tokens, '\n' ∉ t.lexeme.toList) :
    (r.toText shown = r'.toText shown' ↔
      r.tokens = r'.tokens ∧ shown = shown' ∧ r.unrecognized = r'.unrecognized) ∧
      ∀ t ∈ r.tokens, (∀ t', t.display = t'.display → t = t') ∧ t.display ≠ endOfInputLine ∧
        t.display.toList ∉ pieces '\n' (summary r'.unrecognized).toList := by
  have hsummary (cs : List Char) : (summary cs).toList =
      '\n' :: (heading.toList ++ ((unrecognizedLines cs).toList ++ (rule ++ "\n").toList)) := by
    simp [summary]
  refine ⟨⟨fun heq => ?_, ?_⟩, fun t ht => ⟨fun t' => Token.display_inj.1,
    t.display_ne_endOfInputLine, fun hmem => noTokenLine_summary _ _ hmem ?_⟩⟩
  · rw [toText_eq, toText_eq, ← String.toList_inj, String.toList_append, String.toList_append,
      hsummary, hsummary] at heq
    obtain ⟨htokens, hshown, hrest⟩ := tokenLines_inj h h' heq
    have hlines := List.append_cancel_right (List.append_cancel_left hrest)
    exact ⟨htokens, hshown, unrecognizedLines_inj.1 (String.toList_inj.1 hlines)⟩
  · rintro ⟨htokens, rfl, hunrecognized⟩
    rw [toText, toText, htokens, hunrecognized]
  · rw [Token.toList_display]
    rfl

/-- A string that reads like the mark of the end, and characters that look like
the end of their own list. -/
theorem toText_eq_iff_lookalike :
    let r : Report := ⟨[⟨.stringLiteral, "<EOF>"⟩, ⟨.stringLiteral, ">, IDENTIFIER"⟩],
      ['\'', ',', '\n'], []⟩
    let r' : Report := ⟨[⟨.identifier, "EOF"⟩], ['\'', ',', ' ', '\''], []⟩
    (∀ t ∈ r.tokens, '\n' ∉ t.lexeme.toList) ∧ (∀ t ∈ r'.tokens, '\n' ∉ t.lexeme.toList) ∧
      r.toText false ≠ r'.toText true ∧
      ∀ t ∈ r.tokens, t.display ≠ endOfInputLine ∧
        t.display.toList ∉ pieces '\n' (summary r'.unrecognized).toList := by
  intro r r'
  have h : ∀ t ∈ r.tokens, '\n' ∉ t.lexeme.toList := by decide
  have h' : ∀ t ∈ r'.tokens, '\n' ∉ t.lexeme.toList := by decide
  obtain ⟨hiff, hlines⟩ := toText_eq_iff r r' false true h h'
  refine ⟨h, h', fun heq => ?_, fun t ht => (hlines t ht).2⟩
  exact absurd (hiff.1 heq).2.1 Bool.false_ne_true

end Report

end PascalTokens
