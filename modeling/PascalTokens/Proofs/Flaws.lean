import Mathlib.Data.List.Forall2
import PascalTokens.Proofs.Places
import PascalTokens.Proofs.Tiling
import PascalTokens.Report.Basic

/-!
# PascalTokens.Proofs.Flaws

What is reported about a source.  A `Flaw` is a text of the source with what is
wrong with it; the flaws of a source are found among its items, and a full scan
reports each of them, in order, after what was in the log before
(`toList_log_tokenize`).  The main statement, `tokenize_reports_flaws`, counts
them: a warning for each character that is skipped, an error for each literal
that a pull finds incomplete, and nothing else.
-/

namespace PascalTokens

/-- Whether a message reports a fault of a text that stands in a source, in the
region of that text. -/
def Diagnostic.Reports (d : Diagnostic) (source : List Char) (fault : Fault) (text : List Char) :
    Prop :=
  d = fault.diagnostic d.region ∧
    ∃ before after, source = before ++ text ++ after ∧ d.region.Shows before text

/-- The codes under which the faults of literals are reported as errors. -/
inductive Fault.IsErrorUnder : Fault → Code → Prop
  | openChar : IsErrorUnder .openChar ⟨"E", 1002⟩
  | openString : IsErrorUnder .openString ⟨"E", 1003⟩
  | bareExponent (lexeme : String) : IsErrorUnder (.bareExponent lexeme) ⟨"E", 1004⟩

namespace Scan

/-- A text of a source with what is wrong with it, and the text before it. -/
structure Flaw where
  before : List Char
  text : List Char
  fault : Fault

namespace Flaw

/-- The region of a flaw. -/
def region (f : Flaw) : Region :=
  .between (.after {} f.before) (.after {} (f.before ++ f.text))

/-- The message that reports a flaw. -/
def diagnostic (f : Flaw) : Diagnostic := f.fault.diagnostic f.region

theorem region_diagnostic (f : Flaw) : f.diagnostic.region = f.region := rfl

/-- A flaw starts behind the bytes of the text before it. -/
theorem start_region (f : Flaw) : f.region.start = Text.byteLength f.before := by
  simp [region, Region.between]

/-- A flaw ends behind its own bytes. -/
theorem stop_region (f : Flaw) :
    f.region.stop = Text.byteLength f.before + Text.byteLength f.text := by
  simp [region, Region.between]

/-- The region of a flaw has the lines and columns of the place, in a source short enough
to count them. -/
theorem shows_region (f : Flaw) (hlength : f.before.length < UInt32.size - 1) :
    f.region.Shows f.before f.text := by
  rw [region, Position.after_append]
  exact Region.shows_between (Position.standsAfter_nil.after f.before hlength) f.text

/-- A flaw of a source is reported in the region of its text. -/
theorem reports {f : Flaw} {source after : List Char} (h : source = f.before ++ f.text ++ after)
    (hlength : source.length < UInt32.size - 1) : f.diagnostic.Reports source f.fault f.text := by
  refine ⟨rfl, f.before, after, h, f.shows_region ?_⟩
  rw [h, List.length_append, List.length_append] at hlength
  omega

end Flaw

/-- What is wrong with an item, if something is. -/
def Item.fault? : Item → Option Fault
  | skipped k => k.unrecognized?.map .unrecognizedChar
  | token r => r.fault

/-- The flaws among items that stand after a text. -/
def flaws (before : List Char) : List Item → List Flaw
  | [] => []
  | i :: is => (i.fault?.map (Flaw.mk before i.text)).toList ++ flaws (before ++ i.text) is

/-- The flaws of a list of items are found part by part, each in the text that stands
before it. -/
theorem flaws_append (before : List Char) (is js : List Item) :
    flaws before (is ++ js) = flaws before is ++ flaws (before ++ is.flatMap Item.text) js := by
  induction is generalizing before with
  | nil => simp [flaws]
  | cons i is ih => simp [flaws, ih]

/-! ## a full scan reports the flaws -/

namespace Scanner

section

variable {s : Scanner} {rest : List Char}

/-- Passing an item moves the place over its text. -/
theorem position_pass {i : Item} (h : s.reader.ahead = i.text ++ rest) :
    (s.pass i).position = s.position.after i.text := by
  have hreader : (s.pass i).reader = s.reader.advanceBy i.text.length := by
    cases i with
    | skipped k => exact reader_skip s k
    | token r => rw [Item.text, ← reader_take]; simp only [pass, take]; cases r.fault <;> rfl
  rw [position, hreader, s.reader.advanceBy_length _ _ h]
  rfl

/-- After an item, the scanner stands after the text of that item. -/
theorem stands_pass {before : List Char} {i : Item} (hplace : s.position = .after {} before)
    (h : s.reader.ahead = i.text ++ rest) :
    (s.pass i).position = .after {} (before ++ i.text) ∧ (s.pass i).reader.ahead = rest := by
  constructor
  · rw [position_pass h, hplace, Position.after_append]
  · rw [ahead_pass, h, List.drop_left]

/-- The region of a passed text runs from the place before it to the place behind it. -/
theorem region_moveOver {text : List Char} (h : s.reader.ahead = text ++ rest) :
    (s.moveOver text).region = .between s.position (s.position.after text) := by
  have hreader := s.reader.advanceBy_length _ _ h
  simp only [region, moveOver, position, hreader]

/-- An item is reported if something is wrong with it. -/
theorem toList_log_pass {i : Item} (h : s.reader.ahead = i.text ++ rest) :
    (s.pass i).log.toList = s.log.toList ++ (i.fault?.map fun fault =>
      fault.diagnostic (.between s.position (s.position.after i.text))).toList := by
  have hregion := region_moveOver h
  cases i with
  | skipped k =>
      cases k with
      | blank | comment | openComment => exact (List.append_nil _).symm
      | unrecognized c =>
          rw [← hregion]
          exact DiagnosticLog.toList_emit _ _
  | token r =>
      rw [← hregion]
      simp only [pass, take, Item.fault?]
      cases r.fault with
      | none => exact (List.append_nil _).symm
      | some fault => exact DiagnosticLog.toList_emit _ _

/-- Passing over items reports the flaws among them. -/
theorem toList_log_foldl_pass (before : List Char) {is : List Item}
    (hplace : s.position = .after {} before) (h : s.reader.ahead = is.flatMap Item.text ++ rest) :
    (is.foldl pass s).log.toList = s.log.toList ++ (flaws before is).map Flaw.diagnostic := by
  induction is generalizing s before with
  | nil => exact (List.append_nil _).symm
  | cons i is ih =>
      rw [List.flatMap_cons, List.append_assoc] at h
      obtain ⟨hstop, hahead⟩ := stands_pass hplace h
      rw [List.foldl_cons, ih _ hstop hahead, toList_log_pass h, flaws, hplace,
        ← Position.after_append, List.map_append, List.append_assoc]
      cases i.fault? <;> rfl

end

end Scanner

/-- The flaws of a source. -/
def flawsOf (source : String) : List Flaw := flaws [] (items .nothing source.toList)

/-- A full scan adds a message about each flaw of the source to the log. -/
theorem toList_log_tokenize (source : String) (log : DiagnosticLog) :
    (tokenize source log).2.toList = log.toList ++ (flawsOf source).map Flaw.diagnostic := by
  have hahead : (Scanner.ofSource source log).reader.ahead =
      (items .nothing source.toList).flatMap Item.text ++ [] := by
    rw [flatMap_text_items, List.append_nil]
    rfl
  have hlog := Scanner.toList_log_foldl_pass (s := .ofSource source log) [] rfl hahead
  rw [tokenize, Scanner.rest_eq]
  exact hlog

/-! ## where the flaws are -/

/-- A flaw is an item with what is wrong with it, at its place among the items. -/
theorem exists_of_mem_flaws {before : List Char} {is : List Item} {f : Flaw}
    (h : f ∈ flaws before is) :
    (∃ i ∈ is, i.text = f.text ∧ i.fault? = some f.fault) ∧
      ∃ front after, f.before = before ++ front ∧
        before ++ is.flatMap Item.text = f.before ++ f.text ++ after := by
  induction is generalizing before with
  | nil => simp [flaws] at h
  | cons i is ih =>
      rcases List.mem_append.1 h with h | h
      · obtain ⟨fault, hfault, rfl⟩ := Option.map_eq_some_iff.1 (Option.mem_toList.1 h)
        exact ⟨⟨i, List.mem_cons_self, rfl, hfault⟩, [], is.flatMap Item.text, by simp, by simp⟩
      · obtain ⟨⟨j, hj, hitem⟩, front, after, hfront, hafter⟩ := ih h
        refine ⟨⟨j, List.mem_cons_of_mem _ hj, hitem⟩, i.text ++ front, after, ?_, ?_⟩
        · rw [hfront, List.append_assoc]
        · rw [← hafter, List.flatMap_cons, List.append_assoc]

/-- The flaws among items come one after another. -/
theorem pairwise_flaws (before : List Char) (is : List Item) :
    (flaws before is).Pairwise fun f g => f.region.stop ≤ g.region.start := by
  induction is generalizing before with
  | nil => exact List.Pairwise.nil
  | cons i is ih =>
      refine List.pairwise_append.2 ⟨?_, ih _, fun f hf g hg => ?_⟩
      · cases i.fault? with
        | none => exact List.Pairwise.nil
        | some fault => exact List.pairwise_singleton _ _
      · obtain ⟨fault, -, rfl⟩ := Option.map_eq_some_iff.1 (Option.mem_toList.1 hf)
        obtain ⟨-, front, -, hfront, -⟩ := exists_of_mem_flaws hg
        rw [Flaw.stop_region, Flaw.start_region, hfront]
        simp

/-- Every item of a text was read in front of some rest, so it has the form of its kind.
-/
theorem exists_stands_of_mem_items {preceding : Preceding} {cs : List Char} {i : Item}
    (h : i ∈ items preceding cs) : ∃ preceding rest, i.Stands preceding rest := by
  fun_induction items preceding cs with
  | case1 => simp at h
  | case2 preceding cs j hj ih =>
      rcases List.mem_cons.1 h with rfl | h
      · obtain ⟨rest, -, hstands⟩ := Item.next?_eq_some_iff.1 hj
        exact ⟨preceding, rest, hstands⟩
      · exact ih h

/-- A flaw of a source is an item that stands somewhere in it. -/
theorem exists_of_mem_flawsOf {source : String} {f : Flaw} (h : f ∈ flawsOf source) :
    (∃ i preceding rest, Item.Stands preceding rest i ∧ i.text = f.text ∧
        i.fault? = some f.fault) ∧
      ∃ after, source.toList = f.before ++ f.text ++ after := by
  obtain ⟨⟨i, hi, hitem⟩, front, after, -, hafter⟩ := exists_of_mem_flaws h
  obtain ⟨preceding, rest, hstands⟩ := exists_stands_of_mem_items hi
  rw [flatMap_text_items] at hafter
  exact ⟨⟨i, preceding, rest, hstands, hitem⟩, after, hafter⟩

/-! ## warnings and errors -/

end Scan

theorem Fault.IsErrorUnder.severity_eq {fault : Fault} {code : Code} (h : fault.IsErrorUnder code) :
    fault.severity = .error := by
  cases h <;> rfl

theorem Fault.IsErrorUnder.code_eq {fault : Fault} {code : Code} (h : fault.IsErrorUnder code) :
    fault.code = code := by
  cases h <;> rfl

namespace Scan

/-- What is wrong with a token is reported as an error. -/
theorem Reads.exists_isErrorUnder {preceding : Preceding} {r : Reading} {rest : List Char}
    (h : Reads preceding r rest) {fault : Fault} (hfault : r.fault = some fault) :
    ∃ code, fault.IsErrorUnder code := by
  cases h with
  | word | char | string | symbol | point => exact absurd hfault (Option.some_ne_none _).symm
  | @number n =>
      simp only [Reading.ofNumeral] at hfault
      split at hfault
      · exact absurd hfault (Option.some_ne_none _).symm
      · obtain rfl := Option.some.inj hfault
        exact ⟨_, .bareExponent _⟩
  | openChar | loneQuote => obtain rfl := Option.some.inj hfault; exact ⟨_, .openChar⟩
  | openString => obtain rfl := Option.some.inj hfault; exact ⟨_, .openString⟩

/-- The literal that a pull found incomplete, if it did. -/
def Pulled.incomplete? : Pulled → Option Incomplete
  | .ok _ => none
  | .error i => some i

/-- Whether a flaw is a character that was skipped. -/
def Flaw.IsSkipped (f : Flaw) (c : Char) : Prop := f.fault = .unrecognizedChar c ∧ f.text = [c]

/-- Whether a flaw is a literal that was found incomplete. -/
def Flaw.IsIncomplete (f : Flaw) (i : Incomplete) : Prop :=
  f.fault = i.fault ∧ f.region = i.region ∧ f.text = Pulled.written (.error i) ∧
    ∃ code, f.fault.IsErrorUnder code

/-- The flaws of a gap are the characters that are skipped there. -/
theorem forall₂_flaws_gap (before : List Char) (gap : List Skipped) :
    List.Forall₂ Flaw.IsSkipped (flaws before (gap.map .skipped)) (gapUnrecognized gap) := by
  induction gap generalizing before with
  | nil => exact .nil
  | cons k gap ih =>
      rw [gapUnrecognized_cons]
      cases k with
      | blank | comment | openComment => exact ih _
      | unrecognized c => exact .cons ⟨rfl, rfl⟩ (ih _)

/-- Whether a flaw is reported as a warning. -/
def Flaw.isWarning (f : Flaw) : Bool := f.fault.severity.isWarning

/-- Whether a flaw is reported as an error. -/
def Flaw.isError (f : Flaw) : Bool := f.fault.severity.isError

/-- What is wrong with a token is not reported as a warning. -/
theorem Reads.filter_isWarning_flaw {preceding : Preceding} {r : Reading} {rest : List Char}
    (h : Reads preceding r rest) (before : List Char) :
    (r.fault.map (Flaw.mk before r.text)).toList.filter Flaw.isWarning = [] := by
  cases hfault : r.fault with
  | none => rfl
  | some fault =>
      obtain ⟨code, herror⟩ := h.exists_isErrorUnder hfault
      simp [Flaw.isWarning, herror.severity_eq, Severity.isWarning]

/-- What is wrong with a token is reported as an error, about the literal that a pull
finds incomplete there. -/
theorem Reads.forall₂_incomplete_flaw {preceding : Preceding} {r : Reading} {rest : List Char}
    (h : Reads preceding r rest) (before : List Char) :
    List.Forall₂ Flaw.IsIncomplete
      ((r.fault.map (Flaw.mk before r.text)).toList.filter Flaw.isError)
      (r.pulledAt (.after {} before)).incomplete?.toList := by
  have hwritten := h.written_pulledAt (.after {} before)
  cases hfault : r.fault with
  | none =>
      rw [Reading.pulledAt, hfault]
      exact .nil
  | some fault =>
      obtain ⟨code, herror⟩ := h.exists_isErrorUnder hfault
      have hflaw : [Flaw.mk before r.text fault].filter Flaw.isError =
          [⟨before, r.text, fault⟩] := by
        simp [Flaw.isError, herror.severity_eq, Severity.isError]
      rw [Reading.pulledAt, hfault] at hwritten ⊢
      rw [Option.map_some, Option.toList_some, hflaw]
      refine .cons ⟨rfl, ?_, hwritten.symm, code, herror⟩ .nil
      simp only [Flaw.region, Position.after_append]

/-- What is wrong in a gap is an unrecognized character and nothing else. -/
theorem mem_flaws_gap {before : List Char} {gap : List Skipped} {f : Flaw}
    (h : f ∈ flaws before (gap.map .skipped)) : ∃ c, f.fault = .unrecognizedChar c := by
  obtain ⟨⟨i, hi, -, hfault⟩, -⟩ := exists_of_mem_flaws h
  obtain ⟨k, -, rfl⟩ := List.mem_map.1 hi
  obtain ⟨c, -, hc⟩ := Option.map_eq_some_iff.1 hfault
  exact ⟨c, hc.symm⟩

/-- All flaws of a gap are warnings. -/
theorem filter_isWarning_flaws_gap (before : List Char) (gap : List Skipped) :
    (flaws before (gap.map .skipped)).filter Flaw.isWarning = flaws before (gap.map .skipped) := by
  refine List.filter_eq_self.2 fun f hf => ?_
  obtain ⟨c, hc⟩ := mem_flaws_gap hf
  rw [Flaw.isWarning, hc]
  rfl

/-- No flaw of a gap is an error. -/
theorem filter_isError_flaws_gap (before : List Char) (gap : List Skipped) :
    (flaws before (gap.map .skipped)).filter Flaw.isError = [] := by
  refine List.filter_eq_nil_iff.2 fun f hf => ?_
  obtain ⟨c, hc⟩ := mem_flaws_gap hf
  rw [Flaw.isError, hc]
  exact Bool.false_ne_true

namespace Layout

/-- The flaws of a layout are those of its first gap, then that of its first token if it
is incomplete, then those of what follows. -/
theorem flaws_items_token (before : List Char) (gap : List Skipped) (r : Reading)
    (others : Layout) :
    flaws before (token gap r others).items =
      flaws before (gap.map .skipped) ++
        ((r.fault.map (Flaw.mk (before ++ gapText gap) r.text)).toList ++
          flaws (before ++ gapText gap ++ r.text) others.items) := by
  have htext : (gap.map Item.skipped).flatMap Item.text = gapText gap := by
    rw [List.flatMap_map]
    rfl
  rw [items, flaws_append, htext]
  rfl

/-- The warnings about a source are about the characters that are skipped. -/
theorem Stands.forall₂_warnings {preceding : Preceding} {l : Layout} (h : l.Stands preceding)
    (before : List Char) :
    List.Forall₂ Flaw.IsSkipped ((flaws before l.items).filter Flaw.isWarning) l.unrecognized := by
  induction l generalizing preceding before with
  | ending gap =>
      rw [items, filter_isWarning_flaws_gap, unrecognized, gaps, List.flatMap_singleton]
      exact forall₂_flaws_gap before gap
  | token gap r others ih =>
      obtain ⟨-, hread, hothers⟩ := h
      rw [flaws_items_token, List.filter_append, List.filter_append, filter_isWarning_flaws_gap,
        hread.filter_isWarning_flaw, List.nil_append, unrecognized_token]
      exact List.rel_append (forall₂_flaws_gap before gap) (ih hothers _)

/-- The errors of a source are about the literals that a full scan by pulls finds
incomplete. -/
theorem Stands.forall₂_errors {preceding : Preceding} {l : Layout} (h : l.Stands preceding)
    (before : List Char) :
    List.Forall₂ Flaw.IsIncomplete ((flaws before l.items).filter Flaw.isError)
      ((l.pulls (.after {} before)).filterMap (·.pulled.incomplete?)) := by
  induction l generalizing preceding before with
  | ending gap =>
      rw [items, filter_isError_flaws_gap]
      exact .nil
  | token gap r others ih =>
      obtain ⟨-, hread, hothers⟩ := h
      have hrest := ih hothers (before ++ gapText gap ++ r.text)
      rw [Position.after_append] at hrest
      rw [flaws_items_token, List.filter_append, List.filter_append, filter_isError_flaws_gap,
        List.nil_append, pulls, List.filterMap_eq_flatMap_toList, List.flatMap_cons,
        ← List.filterMap_eq_flatMap_toList, ← Position.after_append]
      exact List.rel_append (hread.forall₂_incomplete_flaw _) hrest

end Layout

/-! ## the flaws of a source -/

section

variable {source : String}

/-- A flaw of a source is not the empty text. -/
theorem text_ne_nil_of_mem_flawsOf {f : Flaw} (h : f ∈ flawsOf source) : f.text ≠ [] := by
  obtain ⟨⟨i, preceding, rest, hstands, htext, -⟩, -⟩ := exists_of_mem_flawsOf h
  rw [← htext]
  exact Item.text_ne_nil (Item.next?_eq_some_iff.2 ⟨rest, rfl, hstands⟩)

/-- The diagnostic of every flaw tells its fault at its place. -/
theorem reports_of_mem_flawsOf (hlength : source.length < UInt32.size - 1) {f : Flaw}
    (h : f ∈ flawsOf source) : f.diagnostic.Reports source.toList f.fault f.text := by
  obtain ⟨-, after, hafter⟩ := exists_of_mem_flawsOf h
  exact Flaw.reports hafter (by rwa [String.length_toList])

/-- The flaws of a source are those of its layout, read in order. -/
theorem flawsOf_eq (source : String) : flawsOf source = flaws [] (layout source).items := by
  rw [flawsOf, items_eq_items_layout]

/-- The warnings about a source are about the characters that a full scan skips. -/
theorem forall₂_warnings_flawsOf (source : String) (log : DiagnosticLog) :
    List.Forall₂ Flaw.IsSkipped ((flawsOf source).filter Flaw.isWarning)
      (Scanner.ofSource source log).pulls.2.unrecognized.toList := by
  rw [(Scanner.pulls_ofSource source log).2, flawsOf_eq]
  exact Layout.Stands.forall₂_warnings (stands_layoutAfter .nothing source.toList) []

/-- The errors of a source are about the literals that a full scan finds
incomplete. -/
theorem forall₂_errors_flawsOf (source : String) (log : DiagnosticLog) :
    List.Forall₂ Flaw.IsIncomplete ((flawsOf source).filter Flaw.isError)
      ((Scanner.ofSource source log).pulls.1.filterMap (·.pulled.incomplete?)) := by
  rw [(Scanner.pulls_ofSource source log).1, flawsOf_eq]
  exact Layout.Stands.forall₂_errors (stands_layoutAfter .nothing source.toList) []

/-- A flaw is a warning or an error, so the two filters miss none. -/
theorem Flaw.isWarning_or_isError (f : Flaw) :
    f.diagnostic.severity = .warning ∨ f.diagnostic.severity = .error := by
  rw [diagnostic, Fault.diagnostic]
  cases f.fault with
  | unrecognizedChar => exact .inl rfl
  | openChar | openString | bareExponent => exact .inr rfl

end

/-! ## messages -/

section

variable {source : String} {added : List Diagnostic}

/-- The warnings match the unrecognized characters one to one and in order. -/
theorem forall₂_reports_warnings (hlength : source.length < UInt32.size - 1)
    (hadded : added = (flawsOf source).map Flaw.diagnostic) (log : DiagnosticLog) :
    List.Forall₂
      (fun d c => d.Reports source.toList (.unrecognizedChar c) [c] ∧ d.code = some ⟨"W", 1001⟩)
      (added.filter (·.severity.isWarning))
      (Scanner.ofSource source log).pulls.2.unrecognized.toList := by
  have hreports : ∀ f ∈ (flawsOf source).filter Flaw.isWarning,
      f.diagnostic.Reports source.toList f.fault f.text :=
    fun f hf => reports_of_mem_flawsOf hlength (List.mem_of_mem_filter hf)
  rw [hadded, List.filter_map, List.forall₂_map_left_iff]
  refine ((List.forall₂_and_left _ _).2 ⟨hreports, forall₂_warnings_flawsOf source log⟩).imp ?_
  rintro f c ⟨hf, hfault, htext⟩
  rw [hfault, htext] at hf
  exact ⟨hf, by rw [hf.1]; rfl⟩

/-- The errors match the incomplete tokens one to one and in order, each at its region and
under its code. -/
theorem forall₂_reports_errors (hlength : source.length < UInt32.size - 1)
    (hadded : added = (flawsOf source).map Flaw.diagnostic) (log : DiagnosticLog) :
    List.Forall₂
      (fun d i => d.Reports source.toList i.fault (Pulled.written (.error i)) ∧
        d.region = i.region ∧ ∃ code, i.fault.IsErrorUnder code ∧ d.code = some code)
      (added.filter (·.severity.isError))
      ((Scanner.ofSource source log).pulls.1.filterMap (·.pulled.incomplete?)) := by
  have hreports : ∀ f ∈ (flawsOf source).filter Flaw.isError,
      f.diagnostic.Reports source.toList f.fault f.text :=
    fun f hf => reports_of_mem_flawsOf hlength (List.mem_of_mem_filter hf)
  rw [hadded, List.filter_map, List.forall₂_map_left_iff]
  refine ((List.forall₂_and_left _ _).2 ⟨hreports, forall₂_errors_flawsOf source log⟩).imp ?_
  rintro f i ⟨hf, hfault, hregion, htext, code, hcode⟩
  rw [hfault, htext] at hf
  rw [hfault] at hcode
  exact ⟨hf, hregion, code, hcode, by rw [hf.1, ← hcode.code_eq]; rfl⟩

end

/-- A report on a source is what tokenizing it gives, and the characters that are
skipped. -/
theorem analyze_eq (source : String) :
    Report.analyze source =
      ⟨(tokenize source).1, (layout source).unrecognized, (tokenize source).2.toList⟩ := by
  rw [Report.analyze, Report.ofScan, unrecognized_rest_ofSource]
  rfl

/-- Tokenizing adds one warning to the log for each character that is skipped
and one error for each literal that a pull finds incomplete, and nothing else.
Every message is in the region of the text that it is about, these regions come
one after another, and none of it depends on what was in the log before.  A
report on the source holds the same. -/
theorem tokenize_reports_flaws (source : String) (log : DiagnosticLog)
    (hlength : source.length < UInt32.size - 1) :
    let added := (tokenize source).2.toList
    let scan := (Scanner.ofSource source log).pulls
    let skipped := scan.2.unrecognized.toList
    let incomplete := scan.1.filterMap (·.pulled.incomplete?)
    let report := Report.analyze source
    (tokenize source log).2.toList = log.toList ++ added ∧
      List.Forall₂
        (fun d c => d.Reports source.toList (.unrecognizedChar c) [c] ∧
          d.code = some ⟨"W", 1001⟩)
        (added.filter (·.severity.isWarning)) skipped ∧
      List.Forall₂
        (fun d i => d.Reports source.toList i.fault (Pulled.written (.error i)) ∧
          d.region = i.region ∧ ∃ code, i.fault.IsErrorUnder code ∧ d.code = some code)
        (added.filter (·.severity.isError)) incomplete ∧
      (∀ d ∈ added, d.severity = .warning ∨ d.severity = .error) ∧
      (∀ d ∈ added, d.region.start < d.region.stop) ∧
      added.Pairwise (fun d e => d.region.stop ≤ e.region.start) ∧
      (tokenize source log).2.warningCount = log.warningCount + skipped.length ∧
      (tokenize source log).2.errorCount = log.errorCount + incomplete.length ∧
      report.tokens = (tokenize source).1 ∧ report.unrecognized = skipped ∧
      report.diagnostics = added ∧
      report.warningCount = (tokenize source).2.warningCount ∧
      report.errorCount = (tokenize source).2.errorCount := by
  intro added scan skipped incomplete report
  have hadded : added = (flawsOf source).map Flaw.diagnostic := toList_log_tokenize source {}
  have hlog : (tokenize source log).2.toList = log.toList ++ added := by
    rw [hadded]
    exact toList_log_tokenize source log
  have hwarnings := forall₂_reports_warnings hlength hadded log
  have herrors := forall₂_reports_errors hlength hadded log
  have hskipped : (layout source).unrecognized = skipped :=
    (Scanner.pulls_ofSource source log).2.symm
  refine ⟨hlog, hwarnings, herrors, ?_, ?_, ?_, ?_, ?_, ?_⟩
  · rw [hadded]
    exact List.forall_mem_map.2 fun f _ => f.isWarning_or_isError
  · rw [hadded]
    refine List.forall_mem_map.2 fun f hf => ?_
    have hpos := byteLength_pos (text_ne_nil_of_mem_flawsOf hf)
    rw [Flaw.region_diagnostic, Flaw.start_region, Flaw.stop_region]
    omega
  · rw [hadded]
    exact List.pairwise_map.2 (pairwise_flaws [] _)
  · rw [DiagnosticLog.warningCount, hlog, List.countP_append,
      List.countP_eq_length_filter (l := added), hwarnings.length_eq]
    rfl
  · rw [DiagnosticLog.errorCount, hlog, List.countP_append,
      List.countP_eq_length_filter (l := added), herrors.length_eq]
    rfl
  · rw [show report = _ from analyze_eq source, hskipped]
    exact ⟨rfl, rfl, rfl, rfl, rfl⟩

/-- A stray character and an exponent without digits add a warning and an error
to a log that holds an error already. -/
theorem tokenize_reports_flaws_exponent :
    let source := "@\n2e"
    let log : DiagnosticLog := ⟨#[Fault.openChar.diagnostic .nowhere]⟩
    let added := (tokenize source).2.toList
    source.length < UInt32.size - 1 ∧ (tokenize source log).2.toList = log.toList ++ added ∧
      List.Forall₂
        (fun d c => d.Reports source.toList (.unrecognizedChar c) [c] ∧
          d.code = some ⟨"W", 1001⟩)
        (added.filter (·.severity.isWarning))
        (Scanner.ofSource source log).pulls.2.unrecognized.toList ∧
      (tokenize source log).2.warningCount = 1 ∧ (tokenize source log).2.errorCount = 2 := by
  intro source log added
  have hlength : source.length < UInt32.size - 1 := by decide
  have hskipped : (Scanner.ofSource source log).pulls.2.unrecognized.toList.length = 1 := by
    decide +kernel
  have hincomplete : ((Scanner.ofSource source log).pulls.1.filterMap
      (·.pulled.incomplete?)).length = 1 := by
    decide +kernel
  obtain ⟨hadded, hwarnings, -, -, -, -, hwarningCount, herrorCount, -⟩ :=
    tokenize_reports_flaws source log hlength
  rw [hskipped] at hwarningCount
  rw [hincomplete] at herrorCount
  exact ⟨hlength, hadded, hwarnings, hwarningCount, herrorCount⟩

end Scan

end PascalTokens
