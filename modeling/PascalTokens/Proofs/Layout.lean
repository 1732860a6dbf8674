import PascalTokens.Proofs.Reads
import PascalTokens.Scan.Items

/-!
# PascalTokens.Proofs.Layout

A source as its tokens and the gaps between them.  A `Layout` is any such
sequence; it *stands* if every gap and every token in it is what a scan would
take at its place.  The main statements are `text_layoutAfter` and
`stands_layoutAfter`, that every source has a layout which stands, and
`layoutAfter_eq_iff`, that it is the only one.
-/

namespace PascalTokens.Scan

/-! ## gaps -/

/-- The character that starts no token, if a piece is one. -/
def Skipped.unrecognized? : Skipped → Option Char
  | unrecognized c => some c
  | _ => none

/-- The text of the pieces between two tokens. -/
def gapText (gap : List Skipped) : List Char := gap.flatMap Skipped.text

/-- The characters between two tokens that start none. -/
def gapUnrecognized (gap : List Skipped) : List Char := gap.filterMap Skipped.unrecognized?

/-- Whether pieces can stand between two tokens: blanks, closed comments, and
characters that start no token. -/
def IsClosedGap (gap : List Skipped) : Prop := ∀ k ∈ gap, k.IsProper ∧ k.isOpen = false

@[simp] theorem gapText_nil : gapText [] = [] := rfl

@[simp] theorem gapText_cons (k : Skipped) (gap : List Skipped) :
    gapText (k :: gap) = k.text ++ gapText gap := rfl

theorem gapUnrecognized_cons (k : Skipped) (gap : List Skipped) :
    gapUnrecognized (k :: gap) = k.unrecognized?.toList ++ gapUnrecognized gap := by
  cases k <;> rfl

/-- Only an empty gap has no text, as every item in it has some. -/
theorem gapText_eq_nil_iff {gap : List Skipped} : gapText gap = [] ↔ gap = [] := by
  cases gap with
  | nil => simp
  | cons k gap => simp [k.text_ne_nil]

/-- A gap before a token is also one that may end the source. -/
theorem IsClosedGap.isGap {gap : List Skipped} (h : IsClosedGap gap) : IsGap gap :=
  ⟨fun k hk => (h k hk).1, fun k hk => (h k ((List.dropLast_sublist gap).subset hk)).2⟩

/-- A piece can be put before a gap if it is closed, or the gap is empty. -/
theorem isGap_cons {k : Skipped} {gap : List Skipped} :
    IsGap (k :: gap) ↔ k.IsProper ∧ (k.isOpen = true → gap = []) ∧ IsGap gap := by
  cases gap with
  | nil => simp [IsGap]
  | cons j gap =>
      simp only [IsGap, List.mem_cons, List.dropLast_cons_cons, forall_eq_or_imp]
      constructor
      · rintro ⟨⟨hk, hproper⟩, hopen, hclosed⟩
        exact ⟨hk, fun h => absurd (hopen ▸ h) Bool.false_ne_true, hproper, hclosed⟩
      · rintro ⟨hk, hopen, hproper, hclosed⟩
        refine ⟨⟨hk, hproper⟩, ?_, hclosed⟩
        cases ho : k.isOpen with
        | false => rfl
        | true => exact absurd (hopen ho) (List.cons_ne_nil _ _)

/-- Whether a scan passes over the pieces of a gap before a text. -/
def GapStands (rest : List Char) : List Skipped → Prop
  | [] => True
  | k :: gap => k.IsProper ∧ (k.isOpen = true → gapText gap ++ rest = []) ∧ GapStands rest gap

/-- A closed gap may stand before anything. -/
theorem IsClosedGap.stands {gap : List Skipped} (h : IsClosedGap gap) (rest : List Char) :
    GapStands rest gap := by
  induction gap with
  | nil => trivial
  | cons k gap ih =>
      obtain ⟨hk, hclosed⟩ := h k List.mem_cons_self
      exact ⟨hk, fun ho => absurd (hclosed ▸ ho) Bool.false_ne_true,
        ih fun j hj => h j (List.mem_cons_of_mem _ hj)⟩

/-- A gap may stand at the end, where its last comment may be open. -/
theorem IsGap.stands {gap : List Skipped} (h : IsGap gap) : GapStands [] gap := by
  induction gap with
  | nil => trivial
  | cons k gap ih =>
      obtain ⟨hk, hopen, hgap⟩ := isGap_cons.1 h
      exact ⟨hk, fun ho => by rw [hopen ho]; rfl, ih hgap⟩

/-! ## layouts -/

/-- A source as its tokens and what stands between them. -/
inductive Layout
  /-- What stands after the last token. -/
  | ending (gap : List Skipped)
  /-- A token after what stands before it, and the layout that follows. -/
  | token (gap : List Skipped) (reading : Reading) (others : Layout)

namespace Layout

/-- The source that is laid out. -/
def text : Layout → List Char
  | ending gap => gapText gap
  | token gap r others => gapText gap ++ (r.text ++ others.text)

/-- The tokens as they were read. -/
def readings : Layout → List Reading
  | ending _ => []
  | token _ r others => r :: others.readings

/-- The tokens. -/
def tokens (l : Layout) : List Token := l.readings.map Reading.token

/-- The gaps, one before each token, and the last one. -/
def gaps : Layout → List (List Skipped)
  | ending gap => [gap]
  | token gap _ others => gap :: others.gaps

/-- The characters that start no token, of all gaps in order. -/
def unrecognized (l : Layout) : List Char := l.gaps.flatMap gapUnrecognized

/-- The tokens and pieces one after another. -/
def items : Layout → List Item
  | ending gap => gap.map .skipped
  | token gap r others => gap.map .skipped ++ .token r :: others.items

/-- Whether a scan takes each gap and each token of a layout at its place. -/
def Stands (preceding : Preceding) : Layout → Prop
  | ending gap => IsGap gap
  | token gap r others =>
    IsClosedGap gap ∧ Reads preceding r others.text ∧ others.Stands (.ofToken r.token)

/-- The layout with one more piece before it. -/
def precede (k : Skipped) : Layout → Layout
  | ending gap => ending (k :: gap)
  | token gap r others => token (k :: gap) r others

/-- Collects the pieces before each token. -/
def ofItems : List Item → Layout
  | [] => ending []
  | .skipped k :: items => (ofItems items).precede k
  | .token r :: items => token [] r (ofItems items)

@[simp] theorem text_precede (k : Skipped) (l : Layout) :
    (l.precede k).text = k.text ++ l.text := by
  cases l <;> simp [precede, text]

/-- The tokens among the items of a layout are its tokens. -/
theorem filterMap_token?_items (l : Layout) : l.items.filterMap Item.token? = l.tokens := by
  have hgap (gap : List Skipped) : (gap.map Item.skipped).filterMap Item.token? = [] := by
    simp [Item.token?]
  induction l with
  | ending gap => exact hgap gap
  | token gap r others ih =>
      rw [items, List.filterMap_append, hgap, List.nil_append, List.filterMap_cons, ih]
      rfl

theorem tokens_token (gap : List Skipped) (r : Reading) (others : Layout) :
    (token gap r others).tokens = r.token :: others.tokens := rfl

theorem unrecognized_token (gap : List Skipped) (r : Reading) (others : Layout) :
    (token gap r others).unrecognized = gapUnrecognized gap ++ others.unrecognized := rfl

/-- The unrecognized characters among the items of a layout are those of its gaps. -/
theorem filterMap_unrecognized?_items (l : Layout) :
    l.items.filterMap Item.unrecognized? = l.unrecognized := by
  have hgap (gap : List Skipped) :
      (gap.map Item.skipped).filterMap Item.unrecognized? = gapUnrecognized gap := by
    rw [List.filterMap_map, gapUnrecognized]
    congr 1
    funext k
    cases k <;> rfl
  induction l with
  | ending gap => rw [items, hgap, unrecognized, gaps, List.flatMap_singleton]
  | token gap r others ih =>
      rw [items, List.filterMap_append, hgap, List.filterMap_cons, ih]
      rfl

@[simp] theorem tokens_precede (k : Skipped) (l : Layout) : (l.precede k).tokens = l.tokens := by
  cases l <;> rfl

/-- An item put in front adds its own unrecognized character in front. -/
theorem unrecognized_precede (k : Skipped) (l : Layout) :
    (l.precede k).unrecognized = k.unrecognized?.toList ++ l.unrecognized := by
  cases l <;> simp [precede, unrecognized, gaps, gapUnrecognized_cons]

/-- Items skipped in front go to the first gap. -/
theorem ofItems_map_skipped (gap : List Skipped) (items : List Item) :
    ofItems (gap.map .skipped ++ items) = gap.foldr precede (ofItems items) := by
  induction gap with
  | nil => rfl
  | cons k gap ih => rw [List.map_cons, List.cons_append, ofItems, ih, List.foldr_cons]

/-- A gap put in front of an ending becomes the first part of its gap. -/
theorem foldr_precede_ending (gap last : List Skipped) :
    gap.foldr precede (ending last) = ending (gap ++ last) := by
  induction gap with
  | nil => rfl
  | cons k gap ih => rw [List.foldr_cons, ih]; rfl

/-- A gap put in front of a token becomes the first part of its gap. -/
theorem foldr_precede_token (gap before : List Skipped) (r : Reading) (others : Layout) :
    gap.foldr precede (token before r others) = token (gap ++ before) r others := by
  induction gap with
  | nil => rfl
  | cons k gap ih => rw [List.foldr_cons, ih]; rfl

/-- A layout is found again from its items. -/
theorem ofItems_items (l : Layout) : ofItems l.items = l := by
  induction l with
  | ending gap =>
      rw [items, ← List.append_nil (gap.map _), ofItems_map_skipped, ofItems,
        foldr_precede_ending, List.append_nil]
  | token gap r others ih =>
      rw [items, ofItems_map_skipped, ofItems, foldr_precede_token, List.append_nil, ih]

/-- A layout with a token has some text. -/
theorem text_ne_nil_of_stands {preceding : Preceding} {gap : List Skipped} {r : Reading}
    {others : Layout} (h : (token gap r others).Stands preceding) :
    (token gap r others).text ≠ [] := by
  simp [text, h.2.1.text_ne_nil]

/-- A piece that is proper can be put before a layout, unless it takes the rest
of the source. -/
theorem Stands.precede {preceding : Preceding} {k : Skipped} {l : Layout}
    (h : l.Stands preceding) (hk : k.IsProper) (hopen : k.isOpen = true → l.text = []) :
    (l.precede k).Stands preceding := by
  cases l with
  | ending gap => exact isGap_cons.2 ⟨hk, fun ho => gapText_eq_nil_iff.1 (hopen ho), h⟩
  | token gap r others =>
      have hclosed : k.isOpen = false := by
        rw [Bool.eq_false_iff]
        exact fun ho => text_ne_nil_of_stands h (hopen ho)
      refine ⟨fun j hj => ?_, h.2⟩
      rcases List.mem_cons.1 hj with rfl | hj
      · exact ⟨hk, hclosed⟩
      · exact h.1 j hj

end Layout

/-! ## the layout of a source -/

/-- The layout of a text, given what stands before it. -/
def layoutAfter (preceding : Preceding) (cs : List Char) : Layout :=
  .ofItems (items preceding cs)

/-- The layout of a source. -/
def layout (source : String) : Layout := layoutAfter .nothing source.toList

/-- The layout of a text is of that very text: nothing is lost or added. -/
theorem text_layoutAfter (preceding : Preceding) (cs : List Char) :
    (layoutAfter preceding cs).text = cs := by
  have key (is : List Item) : (Layout.ofItems is).text = is.flatMap Item.text := by
    induction is with
    | nil => rfl
    | cons i is ih =>
        cases i with
        | skipped k => rw [Layout.ofItems, Layout.text_precede, ih]; rfl
        | token r => rw [Layout.ofItems, Layout.text, ih]; rfl
  rw [layoutAfter, key, flatMap_text_items]

/-- The layout of a text is one that the scanner can meet. -/
theorem stands_layoutAfter (preceding : Preceding) (cs : List Char) :
    (layoutAfter preceding cs).Stands preceding := by
  unfold layoutAfter
  fun_induction items preceding cs with
  | case1 preceding cs h => exact ⟨by simp, by simp⟩
  | case2 preceding cs i h ih =>
      obtain ⟨rest, rfl, hstands⟩ := Item.next?_eq_some_iff.1 h
      have htext := text_layoutAfter (i.following preceding) rest
      rw [List.drop_left] at ih ⊢
      cases i with
      | skipped k =>
          refine ih.precede hstands.1 fun hopen => ?_
          rw [← layoutAfter, htext]
          exact hstands.2 hopen
      | token r =>
          refine ⟨by simp [IsClosedGap], ?_, ih⟩
          rw [← layoutAfter, htext]
          exact hstands

theorem items_nil (preceding : Preceding) : items preceding [] = [] :=
  items_of_next?_none rfl

/-- What a scan takes at its place is what it finds there. -/
theorem items_append {preceding : Preceding} {i : Item} {rest : List Char}
    (h : i.Stands preceding rest) :
    items preceding (i.text ++ rest) = i :: items (i.following preceding) rest := by
  rw [items_of_next? (Item.next?_eq_some_iff.2 ⟨rest, rfl, h⟩), List.drop_left]

/-- In front of a rest before which it may stand, a gap is read item by item, and what is
read behind it does not depend on it. -/
theorem items_gapText_append {preceding : Preceding} {gap : List Skipped} {rest : List Char}
    (h : GapStands rest gap) :
    items preceding (gapText gap ++ rest) = gap.map .skipped ++ items preceding rest := by
  induction gap with
  | nil => rfl
  | cons k gap ih =>
      obtain ⟨hk, hopen, hgap⟩ := h
      have hstands : (Item.skipped k).Stands preceding (gapText gap ++ rest) := ⟨hk, hopen⟩
      rw [gapText_cons, List.append_assoc, ← Item.text, items_append hstands, Item.following,
        ih hgap]
      rfl

/-- A scan of a layout that stands finds its tokens and pieces. -/
theorem Layout.items_text {preceding : Preceding} {l : Layout} (h : l.Stands preceding) :
    Scan.items preceding l.text = l.items := by
  induction l generalizing preceding with
  | ending gap =>
      have hend : Scan.items preceding (gapText gap ++ []) = gap.map .skipped ++ _ :=
        items_gapText_append (IsGap.stands h)
      rw [List.append_nil, items_nil, List.append_nil] at hend
      exact hend
  | token gap r others ih =>
      obtain ⟨hgap, hread, hothers⟩ := h
      have hstands : (Item.token r).Stands preceding others.text := hread
      rw [Layout.text, items_gapText_append (hgap.stands _), ← Item.text, items_append hstands,
        Item.following, ih hothers, Layout.items]

/-- A layout that stands is the layout of its text. -/
theorem layoutAfter_text {preceding : Preceding} {l : Layout} (h : l.Stands preceding) :
    layoutAfter preceding l.text = l := by
  rw [layoutAfter, l.items_text h, l.ofItems_items]

/-- The items of a source are those of its layout. -/
theorem items_eq_items_layout (source : String) :
    items .nothing source.toList = (layout source).items := by
  have hitems := Layout.items_text (stands_layoutAfter .nothing source.toList)
  rwa [text_layoutAfter] at hitems

/-- A full scan gives the tokens of the source's layout. -/
theorem tokenize_eq_tokens (source : String) (log : DiagnosticLog) :
    (tokenize source log).1 = (layout source).tokens := by
  rw [tokenize_fst, items_eq_items_layout, Layout.filterMap_token?_items]

/-- Passing items records the unrecognized characters among them. -/
theorem Scanner.unrecognized_foldl_pass (s : Scanner) (is : List Item) :
    (is.foldl pass s).unrecognized.toList =
      s.unrecognized.toList ++ is.filterMap Item.unrecognized? := by
  induction is generalizing s with
  | nil => simp
  | cons i is ih =>
      rw [List.foldl_cons, ih]
      cases i with
      | skipped k =>
          cases k <;>
            simp [pass, skip, tell, report, moveOver, List.filterMap_cons, Item.unrecognized?]
      | token r => simp only [pass, take]; cases r.fault <;> rfl

/-- A full scan records the characters of the source's gaps that start no
token. -/
theorem unrecognized_rest_ofSource (source : String) (log : DiagnosticLog) :
    (Scanner.ofSource source log).rest.2.unrecognized.toList = (layout source).unrecognized := by
  rw [Scanner.rest_eq, ← Layout.filterMap_unrecognized?_items, ← items_eq_items_layout]
  exact Scanner.unrecognized_foldl_pass _ _

/-- The layout of a text is the only one that has this text and can be met. -/
theorem layoutAfter_eq_iff {preceding : Preceding} {cs : List Char} {l : Layout} :
    layoutAfter preceding cs = l ↔ l.text = cs ∧ l.Stands preceding := by
  constructor
  · rintro rfl
    exact ⟨text_layoutAfter preceding cs, stands_layoutAfter preceding cs⟩
  · rintro ⟨rfl, h⟩
    exact layoutAfter_text h

end PascalTokens.Scan
