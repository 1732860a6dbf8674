import PascalTokens.Config
import PascalTokens.Proofs.TomlText

/-!
# PascalTokens.Proofs.ConfigDocument

The document of a configuration is read back as that configuration
(`Config.parse_document`), line by line: a line with a setting adds an item to
the table whose header came last, and a line with a header opens a table.
-/

namespace PascalTokens

namespace Toml

/-! ## keys and values -/

/-- Whether a text can be a key without quotes. -/
def IsBareKey (key : List Char) : Prop := key ≠ [] ∧ key.all isBareKeyChar = true

instance (key : List Char) : Decidable (IsBareKey key) := inferInstanceAs (Decidable (_ ∧ _))

/-- A bare key has a first character. -/
theorem IsBareKey.exists_cons {key : List Char} (h : IsBareKey key) :
    ∃ c more, key = c :: more ∧ isBareKeyChar c = true := by
  obtain ⟨hne, hall⟩ := h
  cases key with
  | nil => exact absurd rfl hne
  | cons c more => exact ⟨c, more, rfl, List.all_eq_true.1 hall c List.mem_cons_self⟩

/-- There is nothing to skip where no space stands. -/
theorem skipSpaces_cons {c : Char} (h : isSpace c = false) (cs : List Char) :
    skipSpaces (c :: cs) = c :: cs := by
  simp [skipSpaces, h]

theorem not_isSpace_of_isBareKeyChar {c : Char} (h : isBareKeyChar c = true) :
    isSpace c = false := by
  rw [Bool.eq_false_iff]
  intro hspace
  rcases Bool.or_eq_true_iff.1 hspace with heq | heq
  · rw [beq_iff_eq.1 heq] at h
    exact absurd h (by decide)
  · rw [beq_iff_eq.1 heq] at h
    exact absurd h (by decide)

section

variable {key : List Char} {d : Char} {tail : List Char}

/-- A bare key is read up to the first character that cannot be in it. -/
theorem simpleKey?_append (hkey : IsBareKey key) (hd : isBareKeyChar d = false) :
    simpleKey? (key ++ d :: tail) = some (String.ofList key, d :: tail) := by
  have hall := List.all_eq_true.1 hkey.2
  have htake : (key ++ d :: tail).takeWhile isBareKeyChar = key := by
    rw [List.takeWhile_append_of_pos hall]
    simp [hd]
  have hdrop : (key ++ d :: tail).dropWhile isBareKeyChar = d :: tail := by
    rw [List.dropWhile_append_of_pos hall]
    simp [hd]
  obtain ⟨c, more, rfl, hc⟩ := hkey.exists_cons
  rw [List.cons_append] at htake hdrop ⊢
  rw [simpleKey?, htake, hdrop]
  · intro _ heq
    rw [(List.cons.inj heq).1] at hc
    exact absurd hc (by decide)
  · intro _ heq
    rw [(List.cons.inj heq).1] at hc
    exact absurd hc (by decide)

/-- A key without dots is in the table of the last header. -/
theorem key?_append (hkey : IsBareKey key) (hd : isBareKeyChar d = false)
    (hdot : ∀ more, skipSpaces (d :: tail) ≠ '.' :: more) :
    key? (key ++ d :: tail) = some ([], String.ofList key, skipSpaces (d :: tail)) := by
  have hparts : keyParts? nestingLimit [] (key ++ d :: tail) =
      some ([String.ofList key], skipSpaces (d :: tail)) := by
    obtain ⟨c, more, hcons, hc⟩ := hkey.exists_cons
    have hstart : skipSpaces (key ++ d :: tail) = key ++ d :: tail := by
      rw [hcons, List.cons_append, skipSpaces_cons (not_isSpace_of_isBareKeyChar hc)]
    rw [nestingLimit, keyParts?, hstart, simpleKey?_append hkey hd]
    simp only [Option.bind_eq_bind, Option.bind_some]
    rfl
  rw [key?, hparts]
  rfl

end

/-- Whether a text is read as an item, on the rest of its line. -/
structure Writes (value : String) (item : Item) : Prop where
  start (rest : List Char) : skipSpaces (value.toList ++ rest) = value.toList ++ rest
  read (rest : List Char) :
    value? nestingLimit (value.toList ++ '\n' :: rest) = some (item, '\n' :: rest)

/-- A boolean is read as it was written. -/
theorem writes_booleanText (b : Bool) : Writes (Config.booleanText b) (.boolean b) := by
  constructor
  · intro rest
    cases b <;> rfl
  · intro rest
    cases b <;> rfl

/-- A quoted text starts with a quote of one kind or the other. -/
theorem exists_quoteList (cs : List Char) :
    ∃ q more, quoteList cs = q :: more ∧ (q = '"' ∨ q = '\'') := by
  unfold quoteList
  split
  · exact ⟨'"', _, rfl, .inl rfl⟩
  · exact ⟨'\'', _, rfl, .inr rfl⟩
  · exact ⟨'"', _, rfl, .inl rfl⟩
  · exact ⟨'\'', _, rfl, .inr rfl⟩

/-- A string is read as it was written, in whichever way it was quoted. -/
theorem writes_quote (s : String) : Writes (quote s) (.string s) := by
  obtain ⟨q, more, hcons, hq⟩ := exists_quoteList s.toList
  constructor
  · intro rest
    rw [quote, String.toList_ofList, hcons]
    refine skipSpaces_cons ?_ _
    rcases hq with rfl | rfl <;> decide
  · intro rest
    have hread : readString? (quoteList s.toList ++ '\n' :: rest) = some (s.toList, '\n' :: rest) :=
      readString?_quoteList s.toList (by simp) (by simp)
    rw [quote, String.toList_ofList]
    have hvalue : value? nestingLimit (quoteList s.toList ++ '\n' :: rest) =
        scalar? (quoteList s.toList ++ '\n' :: rest) := by
      rw [hcons, List.cons_append, value?]
      · intro _ heq
        rw [(List.cons.inj heq).1] at hq
        exact absurd hq (by decide)
      · intro _ heq
        rw [(List.cons.inj heq).1] at hq
        exact absurd hq (by decide)
    rw [hvalue, scalar?, hread]
    simp

/-! ## lines -/

section

variable {progress progress' : Progress} {rest : List Char}

/-- A blank line between settings means nothing. -/
theorem lines?_blank (progress : Progress) (rest : List Char) :
    lines? progress ('\n' :: rest) = lines? progress rest := by
  have hstart : skipSpaces ('\n' :: rest) = '\n' :: rest := skipSpaces_cons rfl rest
  rw [lines?, hstart]
  simp [newline?]

/-- A line that is not blank is read, and then the lines after it. -/
theorem lines?_line {cs : List Char} (hstart : skipSpaces cs = cs) (hblank : newline? cs = none)
    (hline : line? progress cs = some (progress', rest)) (hrest : rest.length < cs.length) :
    lines? progress cs = lines? progress' rest := by
  rw [lines?, hstart]
  cases cs with
  | nil => simp at hrest
  | cons c cs =>
      simp only [hblank, hline]
      rw [if_pos hrest]

/-- A line with a setting adds it to the table of the last header. -/
theorem lines?_settingLine (progress : Progress) (root : Entries) (key : String) {value : String}
    {item : Item} (hkey : IsBareKey key.toList) (hvalue : Writes value item)
    (hroot : progress.root.insertUnder progress.header [] key item = some root)
    (rest : List Char) :
    lines? progress ((Config.settingLine key value).toList ++ rest) =
      lines? ⟨root, progress.header⟩ rest := by
  let valueLine := value.toList ++ '\n' :: rest
  have htext : (Config.settingLine key value).toList ++ rest =
      key.toList ++ ' ' :: '=' :: ' ' :: valueLine := by
    simp [Config.settingLine, valueLine]
  have hequals : skipSpaces (' ' :: '=' :: ' ' :: valueLine) = '=' :: ' ' :: valueLine := rfl
  have hspace : skipSpaces (' ' :: valueLine) = valueLine := hvalue.start ('\n' :: rest)
  have hparts : key? (key.toList ++ ' ' :: '=' :: ' ' :: valueLine) =
      some ([], key, '=' :: ' ' :: valueLine) := by
    rw [key?_append hkey (by decide) (by simp [hequals]), hequals, String.ofList_toList]
  have hentry : entry? (value? nestingLimit) (key.toList ++ ' ' :: '=' :: ' ' :: valueLine) =
      some ([], key, item, '\n' :: rest) := by
    unfold entry?
    rw [hparts]
    simp only [Option.bind_eq_bind, Option.bind_some]
    rw [hspace, hvalue.read]
    rfl
  obtain ⟨c, more, hcons, hc⟩ := hkey.exists_cons
  -- A key starts with none of the characters that begin another kind of line.
  have hother : c ≠ '#' ∧ c ≠ '[' ∧ c ≠ '\n' ∧ c ≠ '\r' := by
    refine ⟨?_, ?_, ?_, ?_⟩ <;> rintro rfl <;> exact absurd hc (by decide)
  have hline : line? progress (key.toList ++ ' ' :: '=' :: ' ' :: valueLine) =
      some (⟨root, progress.header⟩, rest) := by
    rw [hcons, List.cons_append] at hentry ⊢
    rw [line?, hentry]
    · simp only [Option.bind_eq_bind, Option.bind_some]
      rw [hroot]
      rfl
    · intro _ heq
      exact hother.1 (List.cons.inj heq).1
    · intro _ heq
      exact hother.2.1 (List.cons.inj heq).1
  rw [htext]
  refine lines?_line ?_ ?_ hline ?_
  · rw [hcons, List.cons_append, skipSpaces_cons (not_isSpace_of_isBareKeyChar hc)]
  · rw [hcons]
    exact newline?_eq_none hother.2.2.1 hother.2.2.2 _
  · simp only [List.length_append, List.length_cons, valueLine]
    omega

/-- A line with a header opens its table. -/
theorem lines?_header (progress : Progress) (root : Entries) (key : List Char)
    (hkey : IsBareKey key)
    (hroot : progress.root.openTable [] (String.ofList key) = some root) (rest : List Char) :
    lines? progress ('[' :: (key ++ ']' :: '\n' :: rest)) =
      lines? ⟨root, [String.ofList key]⟩ rest := by
  have hclose : skipSpaces (']' :: '\n' :: rest) = ']' :: '\n' :: rest := skipSpaces_cons rfl _
  have hparts : key? (key ++ ']' :: '\n' :: rest) =
      some ([], String.ofList key, ']' :: '\n' :: rest) := by
    rw [key?_append hkey (by decide) (by simp [hclose]), hclose]
  have hheader : header? progress (key ++ ']' :: '\n' :: rest) =
      some (⟨root, [String.ofList key]⟩, rest) := by
    obtain ⟨c, more, hcons, hc⟩ := hkey.exists_cons
    rw [header?, hparts]
    · simp only [Option.bind_eq_bind, Option.bind_some]
      have hword : word? [']'] (']' :: '\n' :: rest) = some ('\n' :: rest) := rfl
      rw [hword, hroot]
      rfl
    · intro _ heq
      rw [hcons] at heq
      rw [(List.cons.inj heq).1] at hc
      exact absurd hc (by decide)
  refine lines?_line (skipSpaces_cons rfl _) rfl hheader ?_
  simp only [List.length_append, List.length_cons]
  omega

end

end Toml

namespace Config

/-- The settings for reports as items, each under its key. -/
def reportEntries (r : ReportConfig) : Toml.Entries :=
  [("format", .string r.format.name), ("show_end_of_input", .boolean r.showEndOfInput)] ++
    r.output.toList.map fun path => ("output", .string path)

/-- The settings as items, each under its key. -/
def entries (c : Config) : Toml.Entries :=
  [("verbose", .boolean c.verbose), ("report", .table .header (reportEntries c.report))]

/-- The settings are found among their items. -/
theorem ofEntries?_entries (c : Config) : ofEntries? c.entries = some c := by
  obtain ⟨verbose, format, showEndOfInput, output⟩ := c
  cases format <;> cases output <;> rfl

/-- The lines of a document are read as the items of its settings. -/
theorem lines?_document (c : Config) : Toml.lines? {} c.document.toList = some c.entries := by
  obtain ⟨verbose, format, showEndOfInput, output⟩ := c
  let before : Toml.Progress := ⟨[("verbose", .boolean verbose)], []⟩
  let under (settings : Toml.Entries) : Toml.Progress :=
    ⟨before.root ++ [("report", .table .header settings)], ["report"]⟩
  let settings : Toml.Entries :=
    [("format", .string format.name), ("show_end_of_input", .boolean showEndOfInput)]
  have hverbose := Toml.lines?_settingLine {} before.root "verbose" (by decide)
    (Toml.writes_booleanText verbose) rfl
  have hheader := Toml.lines?_header before (under []).root "report".toList (by decide) rfl
  have hformat := Toml.lines?_settingLine (under []) (under (settings.take 1)).root "format"
    (by decide) (Toml.writes_quote format.name) rfl
  have hshow := Toml.lines?_settingLine (under (settings.take 1)) (under settings).root
    "show_end_of_input" (by decide) (Toml.writes_booleanText showEndOfInput) rfl
  have hend (progress : Toml.Progress) : Toml.lines? progress [] = some progress.root := by
    rw [Toml.lines?]
    rfl
  have htext (tail : String) : (settingLine "verbose" (booleanText verbose) ++ "\n[report]\n" ++
      settingLine "format" (Toml.quote format.name) ++
      settingLine "show_end_of_input" (booleanText showEndOfInput) ++ tail).toList =
        (settingLine "verbose" (booleanText verbose)).toList ++
          '\n' :: '[' :: ("report".toList ++ ']' :: '\n' ::
            ((settingLine "format" (Toml.quote format.name)).toList ++
              ((settingLine "show_end_of_input" (booleanText showEndOfInput)).toList ++
                tail.toList))) := by
    simp only [String.toList_append, List.append_assoc]
    rfl
  rw [document, htext, hverbose, Toml.lines?_blank]
  refine (hheader _).trans ((hformat _).trans ((hshow _).trans ?_))
  cases output with
  | none => exact hend _
  | some path =>
      have houtput := Toml.lines?_settingLine (under settings)
        (under (settings ++ [("output", .string path)])).root "output" (by decide)
        (Toml.writes_quote path) rfl []
      rw [List.append_nil] at houtput
      exact houtput.trans (hend _)

/-- The document of a configuration is read back as that configuration. -/
theorem parse_document (c : Config) : parse c.document = some c := by
  have hstart : ∃ more, c.document.toList = 'v' :: more := by
    simp [document, settingLine]
  have hparse : Toml.parse c.document = Toml.lines? {} c.document.toList := by
    obtain ⟨more, hmore⟩ := hstart
    rw [Toml.parse, hmore]
    rfl
  rw [parse, hparse, lines?_document]
  exact ofEntries?_entries c

end Config

end PascalTokens
