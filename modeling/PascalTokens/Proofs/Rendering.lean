import PascalTokens.Proofs.Excerpt
import PascalTokens.Report.Basic
import PascalTokens.Text.Pieces

/-!
# PascalTokens.Proofs.Rendering

A rendered message row by row.  Under its heading and its place come

1. a blank row;
2. the line of the source, and the carets under it;
3. the notes and the suggestions.

Each of these has a gutter that ends in a bar or an equals sign.  The gutter of an
excerpt is as wide as the number of its line and three columns at least, while the
gutter of the other rows is always that of three columns; `render_gutters` says in
which column each mark stands, and that they all stand in the same one exactly if the
line number has no more than three digits.
-/

namespace PascalTokens

open Text

/-- The column of the mark at which the gutter of a row ends, from zero. -/
def gutterColumn (row : List Char) : Nat := row.findIdx fun c => c == '|' || c == '='

/-- The rows of a rendered message that have a gutter: all but the heading and the
place, and nothing after the last line feed. -/
def gutterRows (rendered : String) : List (List Char) :=
  ((pieces '\n' rendered.toList).drop 2).dropLast

/-- The gutter ends at the first bar or equals sign. -/
theorem gutterColumn_append {front : List Char} {mark : Char} (rest : List Char)
    (hbar : '|' ∉ front) (hequals : '=' ∉ front) (hmark : mark = '|' ∨ mark = '=') :
    gutterColumn (front ++ mark :: rest) = front.length := by
  have hnone : front.findIdx (fun c => c == '|' || c == '=') = front.length :=
    List.findIdx_eq_length.2 fun c hc => by
      have hb : c ≠ '|' := ne_of_mem_of_not_mem hc hbar
      have he : c ≠ '=' := ne_of_mem_of_not_mem hc hequals
      simp [hb, he]
  rw [gutterColumn, List.findIdx_append, hnone, if_neg (Nat.lt_irrefl _), List.findIdx_cons]
  obtain rfl | rfl := hmark <;> simp

namespace Excerpt

/-- The source row is the gutter and the line. -/
theorem toList_sourceRow (e : Excerpt) :
    e.sourceRow.toList = e.gutter ++ e.line.toList := by
  simp [sourceRow, gutter]

/-- The caret row is the margin, blanks up to the column, and carets up to the end. -/
theorem toList_caretRow (e : Excerpt) :
    e.caretRow.toList = e.margin ++ (List.replicate (e.startColumn - 1) ' ' ++
      List.replicate (max 1 (e.endColumn - e.startColumn)) '^') := by
  simp [caretRow, margin, repeated]

/-- The source row is one row if the line is. -/
theorem newline_notMem_sourceRow {e : Excerpt} (h : '\n' ∉ e.line.toList) :
    '\n' ∉ e.sourceRow.toList := by
  simp [toList_sourceRow, e.not_mem_gutter, h]

theorem newline_notMem_caretRow (e : Excerpt) : '\n' ∉ e.caretRow.toList := by
  simp [toList_caretRow, margin]

/-- The line of an excerpt starts right after the number and a bar. -/
theorem gutterColumn_sourceRow (e : Excerpt) :
    gutterColumn e.sourceRow.toList = e.gutterWidth + 1 := by
  have hrow : e.sourceRow.toList =
      ((alignRight e.gutterWidth ' ' (toString e.lineNumber)).toList ++ [' ']) ++
        '|' :: ' ' :: e.line.toList := by
    simp [toList_sourceRow, gutter]
  have hlength : ((alignRight e.gutterWidth ' ' (toString e.lineNumber)).toList ++ [' ']).length =
      e.gutterWidth + 1 := by
    have hmargin := e.length_margin
    simpa [margin, gutter] using hmargin.symm
  have hnumber {c : Char} (hblank : c ≠ ' ') (hdigit : c.isDigit = false) :
      c ∉ (alignRight e.gutterWidth ' ' (toString e.lineNumber)).toList ++ [' '] := by
    simp [alignRight, List.leftpad, hblank, notMem_toDigits hdigit]
  rw [hrow, gutterColumn_append _ (hnumber (by decide) (by decide))
    (hnumber (by decide) (by decide)) (.inl rfl), hlength]

/-- The bar of the caret row stands behind the number and a blank. -/
theorem gutterColumn_caretRow (e : Excerpt) :
    gutterColumn e.caretRow.toList = e.gutterWidth + 1 := by
  have hblank {c : Char} (h : c ≠ ' ') : c ∉ List.replicate (e.gutterWidth + 1) ' ' := by
    simp [h]
  have hmargin : e.margin = List.replicate (e.gutterWidth + 1) ' ' ++ '|' :: [' '] := by
    simp [margin, List.replicate_succ']
  rw [toList_caretRow, hmargin, List.append_assoc, List.cons_append,
    gutterColumn_append _ (hblank (by decide)) (hblank (by decide)) (.inl rfl),
    List.length_replicate]

/-- An excerpt has the line number of its region. -/
theorem lineNumber_of_ofRegion? {source : List Char} {region : Region} {e : Excerpt}
    (h : ofRegion? source region = some e) : e.lineNumber = region.line.toNat := by
  unfold ofRegion? at h
  split at h
  · simp at h
  · obtain ⟨line, -, rfl⟩ := Option.map_eq_some_iff.1 h
    rfl

end Excerpt

namespace Diagnostic

/-- The heading of a rendered message, without colour. -/
def headingRow (d : Diagnostic) : String :=
  d.severity.name ++ d.bracketedCode ++ ": " ++ d.message

/-- The place of a rendered message. -/
def placeRow (d : Diagnostic) (origin : String) : String :=
  "  --> " ++ origin ++ ":" ++ d.region.display

/-- The notes and the suggestions of a rendered message. -/
def adviceRows (d : Diagnostic) : List String :=
  d.notes.map (fun note => "    = note: " ++ note) ++
    d.helps.map fun help => "    = help: " ++ help

/-- The rows of a rendered message under its heading and its place. -/
def rowsBelow (d : Diagnostic) (e : Excerpt) : List String :=
  "    |" :: e.sourceRow :: e.caretRow :: d.adviceRows

section

variable {d : Diagnostic} {source origin : String} {e : Excerpt}

/-- A rendered diagnostic is its rows, each with its line feed. -/
theorem toList_render (hexcerpt : Excerpt.ofRegion? source.toList d.region = some e) :
    (d.render source origin false).toList =
      ((d.headingRow :: d.placeRow origin :: d.rowsBelow e).map String.toList).flatMap
        fun row => row ++ ['\n'] := by
  simp [render, hexcerpt, headingRow, placeRow, rowsBelow, adviceRows, Excerpt.rows,
    Excerpt.format, Severity.heading, List.flatMap_map]

/-- The rows with a gutter are those below the place. -/
theorem gutterRows_render (hexcerpt : Excerpt.ofRegion? source.toList d.region = some e)
    (hplain : ∀ row ∈ d.headingRow :: d.placeRow origin :: d.rowsBelow e, '\n' ∉ row.toList) :
    gutterRows (d.render source origin false) = (d.rowsBelow e).map String.toList := by
  have hrows := pieces_lines (List.forall_mem_map.2 hplain) []
  rw [List.append_nil, ← toList_render hexcerpt] at hrows
  rw [gutterRows, hrows]
  simp [pieces]

/-- The place is one row if the name of the source is. -/
theorem newline_notMem_placeRow (d : Diagnostic) (horigin : '\n' ∉ origin.toList) :
    '\n' ∉ (d.placeRow origin).toList := by
  have hdigits (n : Nat) : '\n' ∉ Nat.toDigits 10 n := notMem_toDigits (by decide) n
  simp [placeRow, Region.display, horigin, hdigits]

/-- Notes and helps have their sign in a fixed column. -/
theorem gutterColumn_of_mem_adviceRows {row : String} (h : row ∈ d.adviceRows) :
    gutterColumn row.toList = 4 := by
  have hcolumn (rest : List Char) : gutterColumn ("    ".toList ++ '=' :: rest) = 4 :=
    gutterColumn_append rest (by decide) (by decide) (.inr rfl)
  have hnote : "    = note: ".toList = "    ".toList ++ '=' :: " note: ".toList := by decide
  have hhelp : "    = help: ".toList = "    ".toList ++ '=' :: " help: ".toList := by decide
  rcases List.mem_append.1 h with h | h
  · obtain ⟨note, -, rfl⟩ := List.mem_map.1 h
    rw [String.toList_append, hnote, List.append_assoc, List.cons_append, hcolumn]
  · obtain ⟨help, -, rfl⟩ := List.mem_map.1 h
    rw [String.toList_append, hhelp, List.append_assoc, List.cons_append, hcolumn]

/-- The columns in which the gutters of the rows end. -/
theorem map_gutterColumn_rowsBelow (d : Diagnostic) (e : Excerpt) :
    (d.rowsBelow e).map (fun row => gutterColumn row.toList) =
      4 :: (e.gutterWidth + 1) :: (e.gutterWidth + 1) :: List.replicate d.adviceRows.length 4 := by
  have hblank : gutterColumn "    |".toList = 4 := by decide
  have hadvice : d.adviceRows.map (fun row => gutterColumn row.toList) =
      List.replicate d.adviceRows.length 4 :=
    List.map_eq_replicate_iff.2 fun row hrow => gutterColumn_of_mem_adviceRows hrow
  simp only [rowsBelow, List.map_cons, hblank, e.gutterColumn_sourceRow, e.gutterColumn_caretRow,
    hadvice]

/-- The gutters end in one column if the line number has at most three digits. -/
theorem exists_gutterColumn_iff (d : Diagnostic) (e : Excerpt) :
    (∃ column, ∀ row ∈ d.rowsBelow e, gutterColumn row.toList = column) ↔
      e.lineNumber < 1000 := by
  have hdigits : (toString e.lineNumber).length ≤ 3 ↔ e.lineNumber < 1000 :=
    Nat.length_repr_le_iff (by omega)
  have hcolumns : (∃ column, ∀ row ∈ d.rowsBelow e, gutterColumn row.toList = column) ↔
      ∃ column, ∀ n ∈ (d.rowsBelow e).map (fun row => gutterColumn row.toList), n = column := by
    simp
  rw [← hdigits, hcolumns, map_gutterColumn_rowsBelow, Excerpt.gutterWidth]
  constructor
  · rintro ⟨column, h⟩
    have hblank := h 4 (by simp)
    have hsource := h (max 3 (toString e.lineNumber).length + 1) (by simp)
    omega
  · intro h
    refine ⟨4, fun n hn => ?_⟩
    rw [Nat.max_eq_left h] at hn
    simp only [List.mem_cons, List.mem_replicate] at hn
    omega

end

end Diagnostic

namespace Fault

/-- The heading is one row if the message is. -/
theorem newline_notMem_headingRow {fault : Fault} (h : '\n' ∉ fault.message.toList)
    (region : Region) : '\n' ∉ (fault.diagnostic region).headingRow.toList := by
  have hname (s : Severity) : '\n' ∉ s.name.toList := by cases s <;> decide
  have hcodes : ∀ code ∈ [Code.unrecognizedChar, .openChar, .openString, .bareExponent],
      '\n' ∉ code.text.toList := by decide
  have hcode := hcodes fault.code (by cases fault <;> simp [code])
  simp [Diagnostic.headingRow, Diagnostic.bracketedCode, diagnostic, hname, hcode, h]

/-- Notes and helps are one row each. -/
theorem newline_notMem_adviceRows (fault : Fault) (region : Region) {row : String}
    (h : row ∈ (fault.diagnostic region).adviceRows) : '\n' ∉ row.toList := by
  have hhelps : ∀ help ∈ fault.help?.toList, '\n' ∉ help.toList := by
    cases fault <;> simp [help?]
  have hrows : (fault.diagnostic region).adviceRows =
      fault.help?.toList.map fun help => "    = help: " ++ help := rfl
  rw [hrows] at h
  obtain ⟨help, hmem, rfl⟩ := List.mem_map.1 h
  simp [hhelps help hmem]

end Fault

namespace Scan

/-- An incomplete literal is not described by a text with a line feed. -/
theorem Reads.newline_notMem_message {preceding : Preceding} {r : Reading} {rest : List Char}
    (h : Reads preceding r rest) {fault : Fault} (hfault : r.fault = some fault) :
    '\n' ∉ fault.message.toList := by
  cases h with
  | word | char | string | symbol | point => exact absurd hfault (Option.some_ne_none _).symm
  | @number n _ form =>
      have hdigits : ∀ c, isDigit c = true → inLine c = true := fun c hdigit =>
        inLine_iff.2 fun hc => absurd (hc ▸ hdigit) (by decide)
      have htext : '\n' ∉ n.text := fun hmem =>
        absurd (form.forall_mem_text hdigits (by decide) '\n' hmem) (by decide)
      simp only [Reading.ofNumeral] at hfault
      split at hfault
      · exact absurd hfault (Option.some_ne_none _).symm
      · have hmessage (lexeme : String) : (Fault.bareExponent lexeme).message =
            "missing digits after exponent in '" ++ lexeme ++ "'" := rfl
        rw [← Option.some.inj hfault, hmessage]
        simp [htext]
  | openChar | loneQuote | openString =>
      obtain rfl := Option.some.inj hfault
      decide

/-- A message about an item has no line feed of the source in it. -/
theorem Item.Stands.newline_notMem_message {preceding : Preceding} {rest : List Char} {i : Item}
    (h : i.Stands preceding rest) {fault : Fault} (hfault : i.fault? = some fault) :
    '\n' ∉ fault.message.toList := by
  cases i with
  | token r => exact Reads.newline_notMem_message h hfault
  | skipped k =>
      cases k with
      | blank | comment | openComment => exact absurd hfault (Option.some_ne_none _).symm
      | unrecognized c =>
          have hproper : startsNothing c = true := h.1
          have hc : c ≠ '\n' := by
            rintro rfl
            exact absurd hproper (by decide)
          have hmessage : (Fault.unrecognizedChar c).message =
              "unrecognized character '" ++ String.singleton c ++ "'" := rfl
          have hfault : Fault.unrecognizedChar c = fault := Option.some.inj hfault
          rw [← hfault, hmessage]
          simp [Ne.symm hc]

section

variable {source origin : String} {log : DiagnosticLog} {d : Diagnostic}

/-- A message that tokenizing adds is rendered in the rows of an excerpt. -/
theorem gutterRows_render_of_mem (hlength : source.length < UInt32.size - 1)
    (horigin : '\n' ∉ origin.toList)
    (hd : d ∈ (tokenize source log).2.toList.drop log.toList.length) :
    ∃ e, Excerpt.ofRegion? source.toList d.region = some e ∧ e.lineNumber = d.region.line.toNat ∧
      gutterRows (d.render source origin false) = (d.rowsBelow e).map String.toList := by
  rw [toList_log_tokenize, List.drop_left] at hd
  obtain ⟨f, hf, rfl⟩ := List.mem_map.1 hd
  obtain ⟨e, front, hexcerpt, hmarks⟩ := exists_marks_of_mem_flawsOf hlength hf
  obtain ⟨⟨i, preceding, rest, hstands, -, hfault⟩, -⟩ := exists_of_mem_flawsOf hf
  refine ⟨e, hexcerpt, Excerpt.lineNumber_of_ofRegion? hexcerpt,
    Diagnostic.gutterRows_render hexcerpt ?_⟩
  simp only [Diagnostic.rowsBelow, List.forall_mem_cons]
  exact ⟨Fault.newline_notMem_headingRow (hstands.newline_notMem_message hfault) _,
    f.diagnostic.newline_notMem_placeRow horigin, by decide,
    Excerpt.newline_notMem_sourceRow hmarks.stands.plain, e.newline_notMem_caretRow,
    fun row hrow => f.fault.newline_notMem_adviceRows _ hrow⟩

/-- The gutters of a rendered message end in one column exactly if the number of its
line has at most three digits. -/
theorem exists_gutterColumn_render_iff (hlength : source.length < UInt32.size - 1)
    (horigin : '\n' ∉ origin.toList)
    (hd : d ∈ (tokenize source log).2.toList.drop log.toList.length) :
    (∃ column, ∀ row ∈ gutterRows (d.render source origin false), gutterColumn row = column) ↔
      d.region.line.toNat < 1000 := by
  obtain ⟨e, -, hnumber, hrows⟩ := gutterRows_render_of_mem hlength horigin hd
  rw [← hnumber, ← d.exists_gutterColumn_iff e, hrows]
  simp

/-- A literal that is incomplete is reported where it stands, after the gap before it. -/
theorem diagnostic_mem_tokenize {gap : List Skipped} {r : Reading} {others : Layout}
    {fault : Fault} (h : layout source = .token gap r others) (hfault : r.fault = some fault) :
    Flaw.diagnostic ⟨gapText gap, r.text, fault⟩ ∈ (tokenize source).2.toList := by
  have hflaw : ⟨gapText gap, r.text, fault⟩ ∈ flawsOf source := by
    simp [flawsOf_eq, h, Layout.flaws_items_token, hfault]
  rw [toList_log_tokenize]
  exact List.mem_append_right _ (List.mem_map_of_mem hflaw)

/-- A gap of equal blanks is a repetition. -/
theorem gapText_replicate (n : Nat) (c : Char) :
    gapText (List.replicate n (.blank c)) = List.replicate n c := by
  induction n with
  | zero => rfl
  | succ n ih => rw [List.replicate_succ, gapText_cons, ih]; rfl

/-- A message can have any line number: a string that is left open after `n` empty lines
is reported on the line after them. -/
theorem exists_mem_tokenize_line (n : Nat) (hn : n < UInt32.size - 2) :
    let source := String.ofList (List.replicate n '\n' ++ ['"'])
    ∃ d ∈ (tokenize source).2.toList, d.region.line.toNat = n + 1 := by
  intro source
  have hclosed : IsClosedGap (List.replicate n (.blank '\n')) := by
    intro k hk
    rw [List.eq_of_mem_replicate hk]
    exact ⟨show isBlank '\n' = true by decide, rfl⟩
  have hlayout : layout source = .token (List.replicate n (.blank '\n'))
      ⟨['"'], ⟨.stringLiteral, String.ofList []⟩, some .openString⟩ (.ending []) := by
    refine layoutAfter_eq_iff.2 ⟨?_, hclosed, .openString List.not_mem_nil, by simp, by simp⟩
    simp [Layout.text, gapText_replicate, source]
  have hbefore : (List.replicate n '\n').length < UInt32.size - 1 := by
    rw [List.length_replicate]
    omega
  refine ⟨_, diagnostic_mem_tokenize hlayout rfl, ?_⟩
  rw [Flaw.region_diagnostic, gapText_replicate, (Flaw.shows_region _ hbefore).line]
  simp [lineNumber]

end

/-- In a rendered message the bar of the blank row stands in column 4, as do the
equals signs of notes and suggestions, and those of the source line and of the
carets right after a gutter that is as wide as the line number.  These are one
column if, and only if, the line number has at most three digits. -/
theorem render_gutters (source origin : String) (log : DiagnosticLog)
    (hlength : source.length < UInt32.size - 1) (horigin : '\n' ∉ origin.toList) {d : Diagnostic}
    (hd : d ∈ (tokenize source log).2.toList.drop log.toList.length) :
    let rows := gutterRows (d.render source origin false)
    let width := max 3 (toString d.region.line.toNat).length
    ∃ e, Excerpt.ofRegion? source.toList d.region = some e ∧
      rows = (d.rowsBelow e).map String.toList ∧
      rows.map gutterColumn =
        4 :: (width + 1) :: (width + 1) :: List.replicate d.adviceRows.length 4 ∧
      ((∃ column, ∀ row ∈ rows, gutterColumn row = column) ↔ d.region.line.toNat < 1000) := by
  intro rows width
  obtain ⟨e, hexcerpt, hnumber, hrows⟩ := gutterRows_render_of_mem hlength horigin hd
  refine ⟨e, hexcerpt, hrows, ?_, exists_gutterColumn_render_iff hlength horigin hd⟩
  have hcolumns := d.map_gutterColumn_rowsBelow e
  rw [Excerpt.gutterWidth, hnumber] at hcolumns
  rw [← hcolumns, show rows = _ from hrows, List.map_map]
  rfl

/-- On the first line everything stands under one bar. -/
theorem render_gutters_first_line :
    let source := "1e"
    let origin := "prog.pas"
    let d := (Fault.bareExponent "1e").diagnostic ⟨0, 2, 1, 1⟩
    source.length < UInt32.size - 1 ∧ '\n' ∉ origin.toList ∧
      d ∈ (tokenize source {}).2.toList.drop 0 ∧
      ∃ column, ∀ row ∈ gutterRows (d.render source origin false), gutterColumn row = column := by
  intro source origin d
  have hlength : source.length < UInt32.size - 1 := by decide
  have horigin : '\n' ∉ origin.toList := by decide
  have hd : d ∈ (tokenize source {}).2.toList.drop 0 := by decide +kernel
  obtain ⟨e, -, -, -, hiff⟩ := render_gutters source origin {} hlength horigin hd
  exact ⟨hlength, horigin, hd, hiff.2 (by decide)⟩

/-- On line 1000 the gutter of the source line is wider than those of the blank row and
of the suggestion. -/
theorem render_gutters_line_1000 :
    let source := String.ofList (List.replicate 999 '\n' ++ ['"'])
    ∃ d ∈ (tokenize source).2.toList,
      ¬ ∃ column, ∀ row ∈ gutterRows (d.render source "<stdin>" false),
        gutterColumn row = column := by
  intro source
  obtain ⟨d, hd, hline⟩ := exists_mem_tokenize_line 999 (by decide)
  refine ⟨d, hd, ?_⟩
  have hlength : source.length < UInt32.size - 1 := by
    rw [String.length_ofList, List.length_append, List.length_replicate]
    decide
  have horigin : '\n' ∉ "<stdin>".toList := by decide
  have hadded : d ∈ (tokenize source {}).2.toList.drop (DiagnosticLog.toList {}).length := hd
  rw [exists_gutterColumn_render_iff hlength horigin hadded, hline]
  decide

end Scan

end PascalTokens
