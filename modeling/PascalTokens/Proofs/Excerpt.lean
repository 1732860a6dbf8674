import PascalTokens.Excerpt
import PascalTokens.Proofs.Flaws
import PascalTokens.Proofs.Lines

/-!
# PascalTokens.Proofs.Excerpt

Excerpts show what messages are about.  A message names a line and a column,
counted while the source was read; an excerpt finds the line again among the
lines of the source, and counts its carets along the text of the region.
`Excerpt.Marks` says that the two counts meet: the carets are under exactly the
characters of the line that have their byte offset in the region.  So it is for
every region that shows a text (`exists_marks_of_shows`) as long as that text
starts with a part of a line, and `tokenize_marks_flaws` is that every message of
a full scan has such a region.
-/

namespace PascalTokens

namespace Text

/-! ## characters with their offsets -/

/-- The characters of a text with the byte offset of each, if the first has a
given one. -/
def located (offset : Nat) : List Char → List (Nat × Char)
  | [] => []
  | c :: cs => (offset, c) :: located (offset + c.utf8Size) cs

@[simp] theorem length_located (offset : Nat) (cs : List Char) :
    (located offset cs).length = cs.length := by
  induction cs generalizing offset with
  | nil => rfl
  | cons c cs ih => rw [located, List.length_cons, List.length_cons, ih]

/-- The second part of a text goes on at the offset where the first part ends. -/
theorem located_append (offset : Nat) (xs ys : List Char) :
    located offset (xs ++ ys) = located offset xs ++ located (offset + byteLength xs) ys := by
  induction xs generalizing offset with
  | nil => rfl
  | cons c xs ih =>
      rw [List.cons_append, located, ih, located, byteLength_cons, List.cons_append, Nat.add_assoc]

/-- Every located character starts inside the bytes of its text. -/
theorem bounds_of_mem_located {offset : Nat} {cs : List Char} {p : Nat × Char}
    (h : p ∈ located offset cs) : offset ≤ p.1 ∧ p.1 < offset + byteLength cs := by
  induction cs generalizing offset with
  | nil => exact absurd h List.not_mem_nil
  | cons c cs ih =>
      have hpos := c.utf8Size_pos
      rw [byteLength_cons]
      obtain rfl | h := List.mem_cons.1 h
      · dsimp only
        omega
      · have := ih h
        omega

/-- A part of the text whose offsets all fall outside a region has no character in it. -/
theorem filter_located_eq_nil {p : Nat → Bool} {offset : Nat} {cs : List Char}
    (h : ∀ n, offset ≤ n → n < offset + byteLength cs → p n = false) :
    (located offset cs).filter (fun q => p q.1) = [] := by
  refine List.filter_eq_nil_iff.2 fun q hq => ?_
  have hbounds := bounds_of_mem_located hq
  rw [h q.1 hbounds.1 hbounds.2]
  exact Bool.false_ne_true

/-- What is decided by the offset alone, and alike all over a text, is a repetition. -/
theorem map_located_eq_replicate {α : Type} {f : Nat → α} {a : α} {offset : Nat} {cs : List Char}
    (h : ∀ n, offset ≤ n → n < offset + byteLength cs → f n = a) :
    (located offset cs).map (fun q => f q.1) = List.replicate cs.length a := by
  rw [← length_located offset cs]
  refine List.map_eq_replicate_iff.2 fun q hq => ?_
  have hbounds := bounds_of_mem_located hq
  exact h q.1 hbounds.1 hbounds.2

/-- The characters with their offset in a range of bytes are those of the text in
that range. -/
theorem filter_located {p : Nat → Bool} (xs ys zs : List Char)
    (hp : ∀ n, p n = true ↔ byteLength xs ≤ n ∧ n < byteLength xs + byteLength ys) :
    (located 0 (xs ++ ys ++ zs)).filter (fun q => p q.1) = located (byteLength xs) ys := by
  have hfront : (located 0 xs).filter (fun q => p q.1) = [] :=
    filter_located_eq_nil fun n _ hto => by rw [Bool.eq_false_iff, ne_eq, hp]; omega
  have hmiddle : (located (byteLength xs) ys).filter (fun q => p q.1) =
      located (byteLength xs) ys :=
    List.filter_eq_self.2 fun q hq => (hp q.1).2 (bounds_of_mem_located hq)
  have hback : (located (byteLength xs + byteLength ys) zs).filter (fun q => p q.1) = [] :=
    filter_located_eq_nil fun n hfrom _ => by rw [Bool.eq_false_iff, ne_eq, hp]; omega
  rw [located_append, located_append, Nat.zero_add, byteLength_append, List.filter_append,
    List.filter_append, hfront, Nat.zero_add, hmiddle, hback, List.nil_append, List.append_nil]

/-! ## a text and the line on which it starts -/

/-- Text that starts on a line has a part of the line for itself: all of the text
or all the rest of the line. -/
theorem exists_shared (text after : List Char) : ∃ shared more lost,
    firstLine (text ++ after) = shared ++ more ∧ text = shared ++ lost ∧
      (more = [] ∨ lost = []) ∧
      min (firstLine text).length (firstLine (text ++ after)).length = shared.length := by
  have hmin := min_length_firstLine text after
  obtain ⟨back, hback, -⟩ := (lineStands_firstLine (text ++ after)).ends
  have htext : text <+: text ++ after := List.prefix_append _ _
  have hline : firstLine (text ++ after) <+: text ++ after := ⟨back, hback.symm⟩
  rw [hmin]
  obtain ⟨more, hmore⟩ | ⟨lost, hlost⟩ := List.prefix_or_prefix_of_prefix htext hline
  · refine ⟨text, more, [], hmore.symm, (List.append_nil _).symm, .inr rfl, ?_⟩
    rw [← hmore, List.length_append]
    omega
  · refine ⟨firstLine (text ++ after), [], lost, (List.append_nil _).symm, hlost.symm, .inl rfl, ?_⟩
    have hlength := congrArg List.length hlost
    rw [List.length_append] at hlength
    omega

/-- A line goes on with a character that ends none. -/
theorem exists_firstLine_cons {c : Char} (hfeed : c ≠ '\n') (hreturn : c ≠ '\r')
    (rest : List Char) : ∃ tail, firstLine (c :: rest) = c :: tail := by
  obtain hnone | ⟨line, tail, hline, htail⟩ := exists_line (c :: rest)
  · exact ⟨rest, firstLine_of_not_mem hnone⟩
  · cases line with
    | nil => exact absurd (List.cons.inj htail).1 hfeed
    | cons d line =>
        obtain ⟨rfl, -⟩ := List.cons.inj htail
        rw [htail, firstLine_append_cons hline]
        cases line with
        | nil => exact ⟨[], if_neg (by simpa using hreturn)⟩
        | cons e line => exact ⟨_, dropReturn_append [c] (List.cons_ne_nil e line)⟩

end Text

namespace Excerpt

open Text

/-! ## excerpts that mark a region -/

/-- What stands before the line in its row. -/
def gutter (e : Excerpt) : List Char :=
  (alignRight e.gutterWidth ' ' (toString e.lineNumber)).toList ++ [' ', '|', ' ']

/-- What stands before the carets in their row. -/
def margin (e : Excerpt) : List Char := List.replicate e.gutterWidth ' ' ++ [' ', '|', ' ']

/-- The bytes of the line of an excerpt, if it stands after `front`. -/
def lineRegion (e : Excerpt) (front : List Char) : Region :=
  { start := byteLength front, stop := byteLength front + byteLength e.line.toList }

/-- The characters of the line of an excerpt, if it stands after `front`. -/
def characters (e : Excerpt) (front : List Char) : List (Nat × Char) :=
  located (byteLength front) e.line.toList

/-- Whether an excerpt shows the line of a source that stands after `front`, and
marks what a region has of it. -/
structure Marks (e : Excerpt) (source front : List Char) (region : Region) : Prop where
  number : e.lineNumber = front.count '\n' + 1
  listed : (lines source)[front.count '\n']? = some e.line.toList
  stands : LineStands source front e.line.toList
  starts : (e.lineRegion front).contains region.start = true
  columns : 1 ≤ e.startColumn ∧ e.startColumn < e.endColumn ∧ e.endColumn ≤ e.line.length + 1
  /-- The marked columns are those of the characters of the region on the line. -/
  marked : ((e.characters front).drop (e.startColumn - 1)).take (e.endColumn - e.startColumn) =
    (located 0 source).filter fun p => region.contains p.1 && (e.lineRegion front).contains p.1
  gutters : e.margin.length = e.gutter.length ∧ '\n' ∉ e.gutter
  /-- The row of carets, filled up with blanks, has a caret under each character of
  the region and a blank under each other. -/
  rows : ∃ carets, e.format.toList = e.gutter ++ e.line.toList ++ '\n' :: (e.margin ++ carets) ∧
    carets ++ List.replicate (e.line.length + 1 - e.endColumn) ' ' =
      (e.characters front).map fun p => if region.contains p.1 then '^' else ' '

/-- The blank margin is as wide as the numbered gutter, so the two rows stand under each
other. -/
theorem length_margin (e : Excerpt) : e.margin.length = e.gutter.length := by
  have hwidth : (toString e.lineNumber).length ≤ e.gutterWidth := Nat.le_max_right _ _
  rw [margin, gutter, List.length_append, List.length_append, List.length_replicate,
    String.length_toList, length_alignRight, Nat.max_eq_left hwidth]

/-- The gutter does not break the line it opens. -/
theorem not_mem_gutter (e : Excerpt) : '\n' ∉ e.gutter := by
  have hnumber : '\n' ∉ Nat.toDigits 10 e.lineNumber := notMem_toDigits (by decide) _
  simp [gutter, alignRight, List.leftpad, hnumber]

/-- An excerpt is two rows: the source line behind its gutter, and the carets behind a
margin of the same width. -/
theorem toList_format (e : Excerpt) :
    e.format.toList = e.gutter ++ e.line.toList ++ '\n' :: (e.margin ++
      (List.replicate (e.startColumn - 1) ' ' ++
        List.replicate (max 1 (e.endColumn - e.startColumn)) '^')) := by
  simp [format, sourceRow, caretRow, gutter, margin, repeated]

section

variable {source before tail after shared : List Char} {c : Char} {region : Region}

/-- The excerpt for the region of a text. -/
theorem ofRegion?_of_shows (hsource : source = before ++ c :: tail ++ after)
    (hshows : region.Shows before (c :: tail)) (hfeed : c ≠ '\n')
    (hshared : min (firstLine (c :: tail)).length (firstLine (c :: tail ++ after)).length =
      shared.length) :
    ofRegion? source region = some
      { line := String.ofList (lineBefore before ++ firstLine (c :: tail ++ after))
        lineNumber := (linesBefore before).count '\n' + 1
        startColumn := (lineBefore before).length + 1
        endColumn := (lineBefore before).length + shared.length + 1 } := by
  have hline : region.line.toNat = (linesBefore before).count '\n' + 1 := by
    rw [hshows.line, lineNumber_eq]
  have hcolumn : region.column.toNat = (lineBefore before).length + 1 := by
    rw [hshows.column, columnNumber_eq]
  have hne : region.line ≠ 0 := by
    intro h
    rw [h] at hline
    exact absurd hline (by simp)
  have hlisted : (lines source)[region.line.toNat - 1]? =
      some (lineBefore before ++ firstLine (c :: tail ++ after)) := by
    rw [hline, Nat.add_sub_cancel, hsource, List.append_assoc]
    exact getElem?_lines_place before hfeed (tail ++ after)
  rw [ofRegion?, if_neg hne, hlisted, hshows.text?_eq hsource]
  simp only [Option.map_some, Option.getD_some, hcolumn, hline, List.length_append]
  rw [← hshared]
  congr 2
  omega

/-- The row of carets under a line of three parts, of which the middle one is in
the region. -/
theorem map_located_eq {xs ys zs : List Char} {offset : Nat}
    (hregion : ∀ n, offset ≤ n → n < offset + byteLength (xs ++ ys ++ zs) →
      (region.contains n = true ↔
        offset + byteLength xs ≤ n ∧ n < offset + byteLength xs + byteLength ys)) :
    ((located offset (xs ++ ys ++ zs)).map fun p => if region.contains p.1 then '^' else ' ') =
      List.replicate xs.length ' ' ++ List.replicate ys.length '^' ++
        List.replicate zs.length ' ' := by
  let mark (n : Nat) : Char := if region.contains n then '^' else ' '
  simp only [byteLength_append] at hregion
  have hfront : (located offset xs).map (fun p => mark p.1) = List.replicate xs.length ' ' :=
    map_located_eq_replicate fun n hfrom hto =>
      if_neg (by rw [hregion n hfrom (by omega)]; omega)
  have hmiddle : (located (offset + byteLength xs) ys).map (fun p => mark p.1) =
      List.replicate ys.length '^' :=
    map_located_eq_replicate fun n hfrom hto =>
      if_pos ((hregion n (by omega) (by omega)).2 ⟨hfrom, hto⟩)
  have hback : (located (offset + byteLength xs + byteLength ys) zs).map (fun p => mark p.1) =
      List.replicate zs.length ' ' :=
    map_located_eq_replicate fun n hfrom hto =>
      if_neg (by rw [hregion n (by omega) (by omega)]; omega)
  rw [located_append, located_append, List.map_append, List.map_append, byteLength_append,
    ← Nat.add_assoc, hfront, hmiddle, hback]

/-- An excerpt marks a region if its line has three parts, of which the middle one
is what is in the region. -/
theorem marks_of_parts {front xs ys zs : List Char}
    (hlisted : (lines source)[front.count '\n']? = some (xs ++ ys ++ zs))
    (hstands : LineStands source front (xs ++ ys ++ zs)) (hne : ys ≠ [])
    (hstart : region.start = byteLength front + byteLength xs)
    (hregion : ∀ n, byteLength front ≤ n → n < byteLength front + byteLength (xs ++ ys ++ zs) →
      (region.contains n = true ↔ byteLength front + byteLength xs ≤ n ∧
        n < byteLength front + byteLength xs + byteLength ys)) :
    Marks ⟨String.ofList (xs ++ ys ++ zs), front.count '\n' + 1, xs.length + 1,
      xs.length + ys.length + 1⟩ source front region := by
  have hpos := List.length_pos_iff.2 hne
  have hbytes := Scan.byteLength_pos hne
  constructor
  case number => rfl
  case listed => rwa [String.toList_ofList]
  case stands => rwa [String.toList_ofList]
  case starts =>
    simp only [lineRegion, Region.contains, hstart, String.toList_ofList, byteLength_append,
      Bool.and_eq_true, decide_eq_true_eq]
    omega
  case columns =>
    simp only [String.length_ofList, List.length_append]
    omega
  case marked =>
    obtain ⟨back, hback, -⟩ := hstands.ends
    have hparts : source = front ++ xs ++ ys ++ (zs ++ back) := by
      rw [hback]
      simp only [List.append_assoc]
    rw [hparts, filter_located (p := fun n => region.contains n && _) (front ++ xs) ys _ ?_]
    · have hwidth : xs.length + ys.length + 1 - (xs.length + 1) = ys.length := by omega
      rw [characters, String.toList_ofList, List.append_assoc, located_append, located_append,
        byteLength_append, Nat.add_sub_cancel, hwidth, List.drop_left' (length_located _ _),
        List.take_left' (length_located _ _)]
    · intro n
      have hin := hregion n
      rw [byteLength_append, byteLength_append] at hin
      simp only [lineRegion, Region.contains, String.toList_ofList, byteLength_append,
        Bool.and_eq_true, decide_eq_true_eq] at hin ⊢
      omega
  case gutters => exact ⟨length_margin _, not_mem_gutter _⟩
  case rows =>
    refine ⟨_, toList_format _, ?_⟩
    have hcarets : max 1 (xs.length + ys.length + 1 - (xs.length + 1)) = ys.length := by omega
    have hrest : (xs ++ ys ++ zs).length + 1 - (xs.length + ys.length + 1) = zs.length := by
      simp only [List.length_append]
      omega
    rw [characters, String.toList_ofList, map_located_eq hregion, String.length_ofList, hrest,
      hcarets, Nat.add_sub_cancel]

/-- A region that shows a text is marked in the line on which the text starts. -/
theorem exists_marks_of_shows (hsource : source = before ++ c :: tail ++ after)
    (hshows : region.Shows before (c :: tail)) (hfeed : c ≠ '\n') (hreturn : c ≠ '\r') :
    ∃ e, ofRegion? source region = some e ∧ e.Marks source (linesBefore before) region := by
  obtain ⟨shared, more, lost, hfirst, hlost, hend, hmin⟩ := exists_shared (c :: tail) after
  -- The line is what stands before the region on it, what it shares with the region, and the rest.
  have hline : lineBefore before ++ firstLine (c :: tail ++ after) =
      lineBefore before ++ shared ++ more := by
    rw [hfirst, List.append_assoc]
  have hlisted : (lines source)[(linesBefore before).count '\n']? =
      some (lineBefore before ++ shared ++ more) := by
    rw [← hline, hsource, List.append_assoc]
    exact getElem?_lines_place before hfeed (tail ++ after)
  have hstands : LineStands source (linesBefore before) (lineBefore before ++ shared ++ more) := by
    rw [← hline, hsource, List.append_assoc]
    exact lineStands_place before hfeed (tail ++ after)
  have hne : shared ≠ [] := by
    obtain ⟨own, hown⟩ := exists_firstLine_cons hfeed hreturn tail
    obtain ⟨whole, hwhole⟩ := exists_firstLine_cons hfeed hreturn (tail ++ after)
    rw [← List.length_pos_iff, ← hmin, hown, List.cons_append, hwhole]
    simp
  have hoffset : byteLength (linesBefore before) + byteLength (lineBefore before) =
      byteLength before := by
    rw [← byteLength_append, linesBefore_append_lineBefore]
  refine ⟨_, ofRegion?_of_shows hsource hshows hfeed hmin, ?_⟩
  rw [hline]
  refine marks_of_parts hlisted hstands hne (by rw [hshows.start, hoffset]) fun n hfrom hto => ?_
  rw [hoffset, Region.contains, hshows.start, hshows.stop, hlost]
  simp only [byteLength_append, Bool.and_eq_true, decide_eq_true_eq] at hto ⊢
  obtain rfl | rfl := hend
  · rw [byteLength_nil] at hto
    omega
  · rw [byteLength_nil, Nat.add_zero]

end

end Excerpt

namespace Scan

/-! ## what a full scan reports is marked -/

/-- The text of an item with something wrong starts with no blank. -/
theorem Item.Stands.exists_cons_of_fault {preceding : Preceding} {rest : List Char} {i : Item}
    (h : i.Stands preceding rest) {fault : Fault} (hfault : i.fault? = some fault) :
    ∃ c tail, i.text = c :: tail ∧ isBlank c = false := by
  cases i with
  | token r =>
      obtain ⟨c, tail, htext, hpart | hpunct⟩ := Reads.exists_cons h
      · exact ⟨c, tail, htext, not_isBlank_of_isWordPart hpart⟩
      · exact ⟨c, tail, htext, not_isBlank_of_mem_punctuation hpunct⟩
  | skipped k =>
      cases k with
      | unrecognized c =>
          have hproper : startsNothing c = true := h.1
          simp only [startsNothing, Bool.and_eq_true, Bool.not_eq_true'] at hproper
          exact ⟨c, [], rfl, hproper.1.1.1⟩
      | blank | comment | openComment => exact absurd hfault (Option.some_ne_none _).symm

/-- A flaw of a source is marked in the line on which it starts. -/
theorem exists_marks_of_mem_flawsOf {source : String} (hlength : source.length < UInt32.size - 1)
    {f : Flaw} (hf : f ∈ flawsOf source) :
    ∃ e front, Excerpt.ofRegion? source.toList f.diagnostic.region = some e ∧
      e.Marks source.toList front f.diagnostic.region := by
  obtain ⟨⟨i, preceding, rest, hstands, htext, hfault⟩, -⟩ := exists_of_mem_flawsOf hf
  obtain ⟨c, tail, hcons, hblank⟩ := hstands.exists_cons_of_fault hfault
  have hfeed : c ≠ '\n' := by
    rintro rfl
    exact absurd hblank (by decide)
  have hreturn : c ≠ '\r' := by
    rintro rfl
    exact absurd hblank (by decide)
  obtain ⟨-, before, after, hsource, hshows⟩ := reports_of_mem_flawsOf hlength hf
  rw [← htext, hcons] at hsource hshows
  obtain ⟨e, he, hmarks⟩ := Excerpt.exists_marks_of_shows hsource hshows hfeed hreturn
  exact ⟨e, _, he, hmarks⟩

/-- Every message that tokenizing adds to the log has an excerpt: it shows the
line on which the region of the message starts, and marks what the region has of
that line. -/
theorem tokenize_marks_flaws (source : String) (log : DiagnosticLog)
    (hlength : source.length < UInt32.size - 1) {d : Diagnostic}
    (hd : d ∈ (tokenize source log).2.toList.drop log.toList.length) :
    ∃ e front, Excerpt.ofRegion? source.toList d.region = some e ∧
      e.Marks source.toList front d.region := by
  rw [toList_log_tokenize, List.drop_left] at hd
  obtain ⟨f, hf, rfl⟩ := List.mem_map.1 hd
  exact exists_marks_of_mem_flawsOf hlength hf

/-- A string that is left open over the end of a line is marked up to there. -/
theorem tokenize_marks_flaws_string :
    let source := "é := \"abc\r\ndef"
    let log : DiagnosticLog := ⟨#[Fault.openChar.diagnostic .nowhere]⟩
    let d := Fault.openString.diagnostic ⟨6, 15, 1, 6⟩
    source.length < UInt32.size - 1 ∧ d ∈ (tokenize source log).2.toList.drop log.toList.length ∧
      ∃ front, Excerpt.Marks ⟨"é := \"abc", 1, 6, 10⟩ source.toList front d.region := by
  intro source log d
  have hlength : source.length < UInt32.size - 1 := by decide
  have hd : d ∈ (tokenize source log).2.toList.drop log.toList.length := by decide +kernel
  have hexcerpt : Excerpt.ofRegion? source.toList d.region = some ⟨"é := \"abc", 1, 6, 10⟩ := by
    decide +kernel
  obtain ⟨e, front, he, hmarks⟩ := tokenize_marks_flaws source log hlength hd
  obtain rfl := Option.some.inj (hexcerpt.symm.trans he)
  exact ⟨hlength, hd, front, hmarks⟩

end Scan

end PascalTokens
