import PascalTokens.Proofs.Flaws

/-!
# PascalTokens.Proofs.Trace

What a scan tells the log goes with what it gives.  A `Site` is an item with the
text before it.  A step tells of the item that it passes over, at the place of
that item (`toList_events_pass`), so a full scan tells of one site after another
(`toList_events_rest`).  The tokens, the messages and the comments of a source are
found among its sites in the same order.

The main statement is `trace_tells`.
-/

namespace PascalTokens

open Text

/-- Lines are counted in a 32-bit word, whatever the length of a text. -/
theorem Position.line_after (p : Position) (text : List Char) :
    (p.after text).line = p.line + UInt32.ofNat (text.count '\n') := by
  induction text generalizing p with
  | nil => simp
  | cons c text ih =>
      rw [after_cons, ih, advance]
      by_cases hc : c = '\n'
      · rw [if_pos hc, hc, List.count_cons_self, UInt32.ofNat_add, UInt32.add_assoc,
          UInt32.add_comm 1]
        rfl
      · rw [if_neg hc, List.count_cons_of_ne hc]

/-- The line of a place counts the lines before it, as far as a word can. -/
theorem Position.toNat_line_after (before : List Char) :
    (Position.after {} before).line.toNat = lineNumber before % UInt32.size := by
  rw [line_after, UInt32.add_comm]
  simp [lineNumber]

namespace Scan

/-! ## items at their places -/

/-- An item, and the text before it. -/
structure Site where
  before : List Char
  item : Item

/-- Items that stand one after another after a text. -/
def sites (before : List Char) : List Item → List Site
  | [] => []
  | i :: is => ⟨before, i⟩ :: sites (before ++ i.text) is

/-- The items of a source at their places. -/
def sitesOf (source : String) : List Site := sites [] (items .nothing source.toList)

namespace Item

/-- Whether an item is a comment. -/
def isComment : Item → Bool
  | skipped (.comment _) | skipped (.openComment _) => true
  | _ => false

/-- Whether an item is a comment that is not closed. -/
def isOpen : Item → Bool
  | skipped k => k.isOpen
  | token _ => false

/-- What a scan tells of an item that starts at a place. -/
def events (place : Position) : Item → List Event
  | skipped (.blank _) => []
  | skipped (.comment _) => [.comment true place]
  | skipped (.openComment _) => [.comment false place]
  | skipped (.unrecognized c) => [.unrecognized c place]
  | token r => (r.fault.map fun fault => Event.incomplete fault place).toList ++ [.token r.token]

end Item

namespace Site

/-- What a scan tells of a site. -/
def events (s : Site) : List Event := s.item.events (.after {} s.before)

/-- What the log has of a site. -/
def entries (s : Site) : List LogEvent := s.events.map Event.logEvent

/-- The site with what is wrong with it, if something is. -/
def flaw? (s : Site) : Option Flaw := s.item.fault?.map (Flaw.mk s.before s.item.text)

end Site

/-- The sites of a list of items are those items, each with the text before it. -/
theorem map_item_sites (before : List Char) (is : List Item) :
    (sites before is).map Site.item = is := by
  induction is generalizing before with
  | nil => rfl
  | cons i is ih => simp [sites, ih]

/-- The flaws are those of the single sites. -/
theorem flaws_eq_filterMap_sites (before : List Char) (is : List Item) :
    flaws before is = (sites before is).filterMap Site.flaw? := by
  induction is generalizing before with
  | nil => rfl
  | cons i is ih =>
      rw [flaws, sites, List.filterMap_cons, ih, Site.flaw?]
      cases i.fault? <;> rfl

/-- Every site stands in the text, at its place. -/
theorem isPrefix_of_mem_sites {before : List Char} {is : List Item} {s : Site}
    (h : s ∈ sites before is) :
    before <+: s.before ∧ s.before ++ s.item.text <+: before ++ is.flatMap Item.text := by
  induction is generalizing before with
  | nil => simp [sites] at h
  | cons i is ih =>
      rw [List.flatMap_cons, ← List.append_assoc]
      rcases List.mem_cons.1 h with rfl | h
      · exact ⟨List.prefix_rfl, List.prefix_append _ _⟩
      · obtain ⟨hbefore, hafter⟩ := ih h
        exact ⟨(List.prefix_append _ _).trans hbefore, hafter⟩

/-- Sites come one after another. -/
theorem pairwise_sites (before : List Char) (is : List Item) :
    (sites before is).Pairwise fun s t => s.before ++ s.item.text <+: t.before := by
  induction is generalizing before with
  | nil => exact List.Pairwise.nil
  | cons i is ih => exact .cons (fun t ht => (isPrefix_of_mem_sites ht).1) (ih _)

/-! ## a scan tells of one site after another -/

namespace Scanner

/-- A step tells of the item that it passes over, at the place where it stands. -/
theorem toList_events_pass (s : Scanner) (i : Item) :
    (s.pass i).events.toList = s.events.toList ++ i.events s.position := by
  cases i with
  | skipped k => cases k <;> simp [pass, skip, moveOver, tell, report, Item.events]
  | token r =>
      cases hfault : r.fault <;> simp [pass, take, hfault, moveOver, tell, report, Item.events]

/-- Passing items tells what is told at each site, in order. -/
theorem toList_events_foldl_pass {s : Scanner} {rest : List Char} (before : List Char)
    {is : List Item} (hplace : s.position = .after {} before)
    (h : s.reader.ahead = is.flatMap Item.text ++ rest) :
    (is.foldl pass s).events.toList =
      s.events.toList ++ (sites before is).flatMap Site.events := by
  induction is generalizing s before with
  | nil => exact (List.append_nil _).symm
  | cons i is ih =>
      rw [List.flatMap_cons, List.append_assoc] at h
      obtain ⟨hstop, hahead⟩ := stands_pass hplace h
      rw [List.foldl_cons, ih _ hstop hahead, toList_events_pass, sites, List.flatMap_cons,
        Site.events, hplace, List.append_assoc]

/-- A full scan tells of the sites of its source, whatever was in the log before. -/
theorem toList_events_rest (source : String) (log : DiagnosticLog) :
    (Scanner.ofSource source log).rest.2.events.toList =
      (sitesOf source).flatMap Site.events := by
  have hahead : (Scanner.ofSource source log).reader.ahead =
      (items .nothing source.toList).flatMap Item.text ++ [] := by
    rw [flatMap_text_items, List.append_nil]
    rfl
  have hevents := toList_events_foldl_pass (s := .ofSource source log) [] rfl hahead
  rw [rest_eq]
  exact hevents

end Scanner

/-- The trace of a source is what is told at each site of it. -/
theorem trace_eq (source : String) : trace source = (sitesOf source).flatMap Site.entries := by
  rw [trace, Scanner.toList_events_rest, List.map_flatMap]
  rfl

/-! ## what is told of the sites -/

/-- Whether an entry of the log warns of what a message is about: at the same line
and column, with the text of the message for a literal, and with the same character
in quotes for one that starts no token. -/
structure Warns (e : LogEvent) (d : Diagnostic) : Prop where
  level : e.level = .warn
  fields : e.fields =
    [("line", toString d.region.line.toNat), ("column", toString d.region.column.toNat)]
  message :
    (∃ (fault : Fault) (code : Code), fault.IsErrorUnder code ∧ d = fault.diagnostic d.region ∧
      e.message = d.message) ∨
    ∃ c, d = (Fault.unrecognizedChar c).diagnostic d.region ∧
      e.message = "unrecognized character " ++ quoteChar c

/-- Whether an entry of the log tells of a comment, with the line of its start. -/
structure TellsComment (e : LogEvent) (s : Site) : Prop where
  level : e.level = .debug
  fields : e.fields = [("line", toString (lineNumber s.before % UInt32.size))]
  message : e.message =
    if s.item.isOpen then "unterminated block comment runs to end of input"
    else "skipped block comment"

/-- What is related site by site is related for all of them. -/
theorem forall₂_flatMap {α β γ : Type} {R : α → β → Prop} {f : γ → List α} {g : γ → List β}
    {xs : List γ} (h : ∀ x ∈ xs, List.Forall₂ R (f x) (g x)) :
    List.Forall₂ R (xs.flatMap f) (xs.flatMap g) := by
  have hmaps : List.Forall₂ (List.Forall₂ R) (xs.map f) (xs.map g) :=
    List.forall₂_map_left_iff.2 (List.forall₂_map_right_iff.2 (List.forall₂_same.2 h))
  rw [List.flatMap_def, List.flatMap_def]
  exact List.rel_flatten hmaps

namespace Site

/-- A token is told of once. -/
theorem filter_trace_entries (s : Site) :
    s.entries.filter (·.level = .trace) =
      (s.item.token?.map fun t => (Event.token t).logEvent).toList := by
  obtain ⟨before, item⟩ := s
  cases item with
  | skipped k => cases k <;> rfl
  | token r =>
      cases hfault : r.fault <;>
        simp [entries, events, Item.events, hfault, Event.logEvent, Item.token?]

/-- There is a warning of each flaw. -/
theorem forall₂_warn_entries {s : Site} {preceding : Preceding} {rest : List Char}
    (h : s.item.Stands preceding rest) :
    List.Forall₂ Warns (s.entries.filter (·.level = .warn))
      (s.flaw?.map Flaw.diagnostic).toList := by
  obtain ⟨before, item⟩ := s
  cases item with
  | skipped k =>
      cases k with
      | blank | comment | openComment => exact .nil
      | unrecognized c => exact .cons ⟨rfl, rfl, .inr ⟨c, rfl, rfl⟩⟩ .nil
  | token r =>
      cases hfault : r.fault with
      | none => simp [entries, events, Item.events, hfault, Event.logEvent, flaw?, Item.fault?]
      | some fault =>
          obtain ⟨code, herror⟩ := Reads.exists_isErrorUnder h hfault
          have hwarns : Warns (Event.incomplete fault (.after {} before)).logEvent
              (Flaw.mk before r.text fault).diagnostic :=
            ⟨rfl, rfl, .inl ⟨fault, code, herror, rfl, rfl⟩⟩
          simpa [entries, events, Item.events, hfault, flaw?, Item.fault?, Event.logEvent,
            Item.text] using hwarns

/-- There is an entry for each comment. -/
theorem forall₂_debug_entries (s : Site) :
    List.Forall₂ TellsComment (s.entries.filter (·.level = .debug))
      ([s].filter (·.item.isComment)) := by
  have hline : toString (Position.after {} s.before).line.toNat =
      toString (lineNumber s.before % UInt32.size) := by
    rw [Position.toNat_line_after]
  obtain ⟨before, item⟩ := s
  cases item with
  | skipped k =>
      cases k with
      | blank | unrecognized => exact .nil
      | comment | openComment => exact .cons ⟨rfl, by rw [← hline]; rfl, rfl⟩ .nil
  | token r =>
      cases hfault : r.fault <;>
        simp [entries, events, Item.events, hfault, Event.logEvent, Item.isComment]

end Site

/-- A comment shows its opening bracket. -/
theorem isPrefix_text_of_isComment {i : Item} (h : i.isComment = true) :
    ['/', '*'] <+: i.text := by
  cases i with
  | token r => exact absurd h Bool.false_ne_true
  | skipped k =>
      cases k with
      | blank | unrecognized => exact absurd h Bool.false_ne_true
      | comment body => exact ⟨body ++ ['*', '/'], rfl⟩
      | openComment body => exact ⟨body, rfl⟩

/-- A comment that is not closed is the last item. -/
theorem isOpen_of_mem_dropLast_items {preceding : Preceding} {cs : List Char} {i : Item}
    (h : i ∈ (items preceding cs).dropLast) : i.isOpen = false := by
  fun_induction items preceding cs with
  | case1 => simp at h
  | case2 preceding cs j hj ih =>
      obtain ⟨rest, rfl, hstands⟩ := Item.next?_eq_some_iff.1 hj
      rw [List.drop_left] at ih h
      by_cases hlast : items (j.following preceding) rest = []
      · simp [hlast] at h
      · rw [List.dropLast_cons_of_ne_nil hlast] at h
        rcases List.mem_cons.1 h with rfl | h
        · cases i with
          | token r => rfl
          | skipped k =>
              rw [Item.isOpen, Bool.eq_false_iff]
              intro hopen
              rw [hstands.2 hopen, items_nil] at hlast
              exact hlast rfl
        · exact ih h

section

variable {source : String}

/-- Every item of a source has the form of its kind. -/
theorem exists_stands_of_mem_sitesOf {s : Site} (h : s ∈ sitesOf source) :
    ∃ preceding rest, s.item.Stands preceding rest := by
  have hitem := List.mem_map_of_mem (f := Site.item) h
  rw [sitesOf, map_item_sites] at hitem
  exact exists_stands_of_mem_items hitem

/-- The tokens of a source are those of its sites. -/
theorem tokenize_fst_eq_sitesOf (log : DiagnosticLog) :
    (tokenize source log).1 = (sitesOf source).filterMap (·.item.token?) := by
  rw [tokenize_fst, ← map_item_sites [] (items .nothing source.toList), List.filterMap_map]
  rfl

/-- The tokens are told of in order. -/
theorem filter_trace_trace (log : DiagnosticLog) :
    (trace source).filter (·.level = .trace) =
      (tokenize source log).1.map fun t => (Event.token t).logEvent := by
  rw [trace_eq, tokenize_fst_eq_sitesOf, List.filter_flatMap, List.map_filterMap,
    List.filterMap_eq_flatMap_toList]
  simp only [Site.filter_trace_entries]

/-- There is a warning of each message, in order. -/
theorem forall₂_warn_trace :
    List.Forall₂ Warns ((trace source).filter (·.level = .warn))
      ((flawsOf source).map Flaw.diagnostic) := by
  rw [trace_eq, flawsOf, flaws_eq_filterMap_sites, List.filter_flatMap, List.map_filterMap,
    List.filterMap_eq_flatMap_toList]
  refine forall₂_flatMap fun s hs => ?_
  obtain ⟨preceding, rest, hstands⟩ := exists_stands_of_mem_sitesOf hs
  exact Site.forall₂_warn_entries hstands

/-- There is an entry for each comment, in order. -/
theorem forall₂_debug_trace :
    List.Forall₂ TellsComment ((trace source).filter (·.level = .debug))
      ((sitesOf source).filter (·.item.isComment)) := by
  have hcomments : (sitesOf source).filter (·.item.isComment) =
      (sitesOf source).flatMap fun s => [s].filter (·.item.isComment) := by
    rw [← List.filter_flatMap, List.flatMap_singleton']
  rw [trace_eq, List.filter_flatMap, hcomments]
  exact forall₂_flatMap fun s _ => s.forall₂_debug_entries

/-- Only the last comment may be open. -/
theorem isOpen_of_mem_dropLast_comments {s : Site}
    (h : s ∈ ((sitesOf source).filter (·.item.isComment)).dropLast) : s.item.isOpen = false := by
  have hsublist : ((sitesOf source).filter (·.item.isComment)).Sublist (sitesOf source) :=
    List.filter_sublist
  -- what is last is first from behind
  have hsublist := hsublist.reverse.tail
  rw [List.tail_reverse, List.tail_reverse, List.reverse_sublist] at hsublist
  have hitem := List.mem_map_of_mem (f := Site.item) (hsublist.subset h)
  rw [List.map_dropLast, sitesOf, map_item_sites] at hitem
  exact isOpen_of_mem_dropLast_items hitem

end

/-- The log of a full scan goes with what the scan gives.  Every token is an entry
of its own; there is a warning for each message that is added, at the same line and
column; and there is an entry for each comment, of which only the last may be open.
The entries come in the order of the source, that of an incomplete literal right
before its token. -/
theorem trace_tells (source : String) (log : DiagnosticLog) :
    let entries := trace source
    let found := sitesOf source
    let comments := found.filter (·.item.isComment)
    (Scanner.ofSource source log).rest.2.events.toList.map Event.logEvent = entries ∧
      entries.filter (·.level = .trace) = (tokenize source log).1.map (fun t =>
        ⟨.trace, .scanner, "token", [("kind", t.kind.name), ("lexeme", t.lexeme)]⟩) ∧
      (∃ added, (tokenize source log).2.toList = log.toList ++ added ∧
        List.Forall₂ Warns (entries.filter (·.level = .warn)) added) ∧
      List.Forall₂ TellsComment (entries.filter (·.level = .debug)) comments ∧
      (∀ s ∈ comments, ['/', '*'] <+: s.item.text) ∧
      (∀ s ∈ comments.dropLast, s.item.isOpen = false) ∧
      entries = found.flatMap Site.entries ∧
      (∀ s ∈ found, s.before ++ s.item.text <+: source.toList) ∧
      found.Pairwise (fun s t => s.before ++ s.item.text <+: t.before) ∧
      ∀ s ∈ found, ∀ r fault, s.item = .token r → r.fault = some fault →
        s.entries = [(Event.incomplete fault (.after {} s.before)).logEvent,
          (Event.token r.token).logEvent] := by
  intro entries found comments
  refine ⟨?_, filter_trace_trace log, ⟨_, toList_log_tokenize source log, forall₂_warn_trace⟩,
    forall₂_debug_trace, fun s hs => isPrefix_text_of_isComment (List.mem_filter.1 hs).2,
    fun s hs => isOpen_of_mem_dropLast_comments hs, trace_eq source, fun s hs => ?_,
    pairwise_sites _ _, ?_⟩
  · rw [Scanner.toList_events_rest, ← Scanner.toList_events_rest source {}]
    rfl
  · have hprefix := (isPrefix_of_mem_sites hs).2
    rwa [flatMap_text_items] at hprefix
  · intro s hs r fault hitem hfault
    simp [Site.entries, Site.events, hitem, Item.events, hfault]

/-- Blanks are passed over without a word. -/
example : (sitesOf "@ 2e/*").flatMap Site.events =
    [.unrecognized '@' {}, .incomplete (.bareExponent "2e") ⟨2, 1, 3⟩,
      .token ⟨.realLiteral, "2e"⟩, .comment false ⟨4, 1, 5⟩] := by decide +kernel

end Scan

end PascalTokens
