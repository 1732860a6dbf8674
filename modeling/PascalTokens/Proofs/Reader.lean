import Mathlib.Data.List.TakeWhile
import Mathlib.Logic.Function.Iterate
import PascalTokens.Proofs.Places
import PascalTokens.Reader

/-!
# PascalTokens.Proofs.Reader

Where a reader stands.  However it has been moved, what is behind it and what is
ahead of it are its source, and its position is that of the place between the
two (`Reader.StandsIn`): a place between two characters, so the text ahead can
be cut off there.  Every move reads some of the text ahead, one character at a
time (`Reader.Reads`), and that is what keeps the invariant; the main statement,
for any number of moves, is `moves_standsIn`.  What a reader sees when it looks
ahead from there is told by `peek_moves`.
-/

namespace PascalTokens

namespace Text

/-- Whether a byte offset lies inside a character of a text. -/
def CutsCharacter (cs : List Char) (offset : Nat) : Prop :=
  ∃ before c after, cs = before ++ c :: after ∧
    byteLength before < offset ∧ offset < byteLength before + c.utf8Size

/-- An empty text has no character to cut. -/
theorem not_cutsCharacter_nil (offset : Nat) : ¬ CutsCharacter [] offset := by
  simp [CutsCharacter]

/-- An offset inside a character is one inside the first, or one past it inside a
later one. -/
theorem cutsCharacter_cons {c : Char} {cs : List Char} {offset : Nat} :
    CutsCharacter (c :: cs) offset ↔
      0 < offset ∧ offset < c.utf8Size ∨
        c.utf8Size ≤ offset ∧ CutsCharacter cs (offset - c.utf8Size) := by
  constructor
  · rintro ⟨before, d, after, hcs, hlow, hhigh⟩
    cases before with
    | nil =>
        obtain ⟨rfl, -⟩ := List.cons.inj hcs
        exact .inl ⟨by simpa using hlow, by simpa using hhigh⟩
    | cons b before =>
        obtain ⟨rfl, htail⟩ := List.cons.inj hcs
        rw [byteLength_cons] at hlow hhigh
        exact .inr ⟨by omega, before, d, after, htail, by omega, by omega⟩
  · rintro (⟨hlow, hhigh⟩ | ⟨hle, before, d, after, htail, hlow, hhigh⟩)
    · exact ⟨[], c, cs, rfl, by simpa using hlow, by simpa using hhigh⟩
    · refine ⟨c :: before, d, after, by rw [htail, List.cons_append], ?_, ?_⟩
      · rw [byteLength_cons]; omega
      · rw [byteLength_cons]; omega

/-- There is no cut past the end of a text and none inside a character, but there
is one anywhere else. -/
theorem dropBytes?_eq_none_iff {n : Nat} {cs : List Char} :
    dropBytes? n cs = none ↔ byteLength cs < n ∨ CutsCharacter cs n := by
  fun_induction dropBytes? n cs with
  | case1 cs => simp [CutsCharacter]
  | case2 n => simp [not_cutsCharacter_nil]
  | case3 n c cs hle ih =>
      rw [ih, cutsCharacter_cons, byteLength_cons]
      constructor
      · rintro (h | h)
        · exact .inl (by omega)
        · exact .inr (.inr ⟨hle, h⟩)
      · rintro (h | ⟨-, h⟩ | ⟨-, h⟩)
        · exact .inl (by omega)
        · omega
        · exact .inr h
  | case4 n c cs hlt =>
      rw [cutsCharacter_cons]
      exact iff_of_true rfl (.inr (.inl ⟨by omega, by omega⟩))

/-- An offset that the front part of a text reaches lies inside a character of the
text exactly if it does in the front part. -/
theorem cutsCharacter_append {xs : List Char} {offset : Nat} (h : offset ≤ byteLength xs)
    (ys : List Char) : CutsCharacter (xs ++ ys) offset ↔ CutsCharacter xs offset := by
  induction xs generalizing offset with
  | nil =>
      obtain rfl : offset = 0 := by simpa using h
      simp [CutsCharacter]
  | cons c xs ih =>
      rw [byteLength_cons] at h
      rw [List.cons_append, cutsCharacter_cons, cutsCharacter_cons, ih (by omega)]

end Text

namespace Reader

/-- A move of a reader. -/
inductive Move
  /-- Over one character. -/
  | advance
  /-- Over a number of characters. -/
  | advanceBy (n : Nat)
  /-- Over the characters up to the first that does not satisfy `p`. -/
  | advanceWhile (p : Char → Bool)
  /-- Over one character if it is `c`. -/
  | accept (c : Char)
  /-- Over all blanks. -/
  | skipBlanks

/-- A reader after a move. -/
def move (r : Reader) : Move → Reader
  | .advance => r.advance
  | .advanceBy n => r.advanceBy n
  | .advanceWhile p => r.advanceWhile p
  | .accept c => (r.accept c).2
  | .skipBlanks => r.skipBlanks

/-- A reader after some moves, one after another. -/
def moves (r : Reader) (ms : List Move) : Reader := ms.foldl move r

/-! ## a move reads some of what is ahead -/

/-- A reader after a text that it has read, with the rest ahead. -/
def past (r : Reader) (text rest : List Char) : Reader :=
  ⟨text.reverse ++ r.behind, rest, r.position.after text⟩

/-- Whether a reader has read a text since it was another one. -/
def Reads (r : Reader) (text : List Char) (r' : Reader) : Prop :=
  ∃ rest, r.ahead = text ++ rest ∧ r' = r.past text rest

variable {r r' : Reader}

theorem Reads.refl (r : Reader) : r.Reads [] r := ⟨r.ahead, rfl, rfl⟩

/-- What is read one character at a time is read. -/
theorem reads_foldl {text rest : List Char} (h : r.ahead = text ++ rest) :
    r.Reads text (text.foldl (fun r _ => r.advance) r) :=
  ⟨rest, h, r.foldl_advance text rest h⟩

/-- Moving by a number of characters reads that many, or all there are. -/
theorem reads_advanceBy (r : Reader) (n : Nat) : r.Reads (r.ahead.take n) (r.advanceBy n) :=
  reads_foldl (List.take_append_drop n r.ahead).symm

/-- Moving while a test holds reads the longest run of which it holds. -/
theorem reads_advanceWhile (r : Reader) (p : Char → Bool) :
    r.Reads (r.ahead.takeWhile p) (r.advanceWhile p) :=
  reads_foldl List.takeWhile_append_dropWhile.symm

/-- One move reads one character, and nothing at the end. -/
theorem reads_advance (r : Reader) : r.Reads (r.ahead.take 1) r.advance := by
  cases h : r.ahead with
  | nil =>
      rw [show r.advance = r by simp [advance, h]]
      exact Reads.refl r
  | cons c rest => exact ⟨rest, h, by simp [advance, h, past]⟩

/-- Every move reads some of what is ahead. -/
theorem exists_reads_move (r : Reader) (m : Move) : ∃ text, r.Reads text (r.move m) := by
  cases m with
  | advance => exact ⟨_, reads_advance r⟩
  | advanceBy n => exact ⟨_, reads_advanceBy r n⟩
  | advanceWhile p => exact ⟨_, reads_advanceWhile r p⟩
  | skipBlanks => exact ⟨_, reads_advanceWhile r isBlank⟩
  | accept c =>
      simp only [move, accept]
      split
      · exact ⟨_, reads_advance r⟩
      · exact ⟨_, Reads.refl r⟩

/-- Reading never goes back. -/
theorem Reads.offset_le {text : List Char} (h : r.Reads text r') :
    r.position.offset ≤ r'.position.offset := by
  obtain ⟨rest, -, rfl⟩ := h
  simp [past]

/-- Texts that are read one after the other are read. -/
theorem Reads.trans {text text' : List Char} {r'' : Reader} (h : r.Reads text r')
    (h' : r'.Reads text' r'') : r.Reads (text ++ text') r'' := by
  obtain ⟨rest, hahead, rfl⟩ := h
  obtain ⟨rest', hahead', rfl⟩ := h'
  refine ⟨rest', ?_, ?_⟩
  · rw [hahead, show rest = text' ++ rest' from hahead', List.append_assoc]
  · simp [past]

/-- A text is read by as many steps as it has characters. -/
theorem Reads.eq_advanceBy {text : List Char} (h : r.Reads text r') :
    r' = r.advanceBy text.length := by
  obtain ⟨rest, hahead, rfl⟩ := h
  exact (r.advanceBy_length text rest hahead).symm

/-- Reading moves the offset by the bytes read. -/
theorem Reads.offset_eq {text : List Char} (h : r.Reads text r') :
    r'.position.offset = r.position.offset + Text.byteLength text := by
  obtain ⟨rest, -, rfl⟩ := h
  simp [past]

/-- Before a character one move reads that character. -/
theorem reads_advance_cons {c : Char} {rest : List Char} (h : r.ahead = c :: rest) :
    r.Reads [c] r.advance := by
  have hread := reads_advance r
  rwa [h] at hread

theorem ahead_advance_of_ahead {c : Char} {rest : List Char} (h : r.ahead = c :: rest) :
    r.advance.ahead = rest := by
  simp [advance, h]

/-! ## where a reader stands -/

/-- Whether a reader stands in a source, at the place that it says. -/
structure StandsIn (source : List Char) (r : Reader) : Prop where
  text : r.source = source
  place : r.position = Position.after {} r.behind.reverse

variable {source : List Char}

theorem standsIn_ofList (source : List Char) : (ofList source).StandsIn source := ⟨rfl, rfl⟩

/-- Reading keeps the source: what goes behind was ahead. -/
theorem StandsIn.of_reads {text : List Char} (h : r.StandsIn source) (hread : r.Reads text r') :
    r'.StandsIn source := by
  obtain ⟨rest, hahead, rfl⟩ := hread
  constructor
  · rw [← h.text]
    simp [Reader.source, past, hahead]
  · simp [past, h.place]

/-- Moves keep the source. -/
theorem StandsIn.moves (h : r.StandsIn source) (ms : List Move) : (r.moves ms).StandsIn source := by
  induction ms generalizing r with
  | nil => exact h
  | cons m ms ih =>
      obtain ⟨text, hread⟩ := exists_reads_move r m
      exact ih (h.of_reads hread)

/-- The offset is the number of bytes behind. -/
theorem StandsIn.offset_eq (h : r.StandsIn source) :
    r.position.offset = Text.byteLength r.behind.reverse := by
  rw [h.place, Position.offset_after, Nat.zero_add]

theorem StandsIn.source_eq (h : r.StandsIn source) : source = r.behind.reverse ++ r.ahead :=
  h.text.symm

/-- The offset lies within the source. -/
theorem StandsIn.offset_le (h : r.StandsIn source) :
    r.position.offset ≤ Text.byteLength source := by
  rw [h.offset_eq, h.source_eq, Text.byteLength_append]
  omega

/-- What is ahead is what the source has from the offset of the reader on. -/
theorem StandsIn.dropBytes?_offset (h : r.StandsIn source) :
    Text.dropBytes? r.position.offset source = some r.ahead := by
  rw [h.offset_eq, h.source_eq]
  exact Text.dropBytes?_append _ _

/-- The text since an offset is there, unless the reader has not come that far or
the offset lies inside a character. -/
theorem StandsIn.since?_eq_none_iff (h : r.StandsIn source) {start : Nat} :
    r.since? start = none ↔ r.position.offset < start ∨ Text.CutsCharacter source start := by
  rw [since?, Text.dropBytes?_eq_none_iff, h.offset_eq]
  by_cases hstart : start ≤ Text.byteLength r.behind.reverse
  · rw [h.source_eq, Text.cutsCharacter_append hstart]
  · exact iff_of_true (.inl (by omega)) (.inl (by omega))

/-- What was read since a place is there to be cut out. -/
theorem StandsIn.since?_of_reads {text : List Char} (h : r.StandsIn source)
    (hread : r.Reads text r') : r'.since? r.position.offset = some text := by
  obtain ⟨rest, -, rfl⟩ := hread
  rw [since?, h.offset_eq, past, List.reverse_append, List.reverse_reverse]
  exact Text.dropBytes?_append _ _

/-! ## single steps -/

/-- Moving by a number is as many single steps, or as many as there are characters
left. -/
theorem advanceBy_eq_iterate (r : Reader) (n : Nat) :
    r.advanceBy n = Reader.advance^[min n r.ahead.length] r := by
  rw [advanceBy, List.foldl_const, List.length_take]

/-- Behind a run is the text without it. -/
theorem ahead_advanceWhile (r : Reader) (p : Char → Bool) :
    (r.advanceWhile p).ahead = r.ahead.dropWhile p := by
  rw [advanceWhile, foldl_advance r _ _ List.takeWhile_append_dropWhile.symm]

/-- Reading on while `p` holds stops at the first character that does not satisfy
`p`, or at the end. -/
theorem exists_advanceWhile (r : Reader) (p : Char → Bool) :
    ∃ text, r.ahead = text ++ (r.advanceWhile p).ahead ∧
      r.advanceWhile p = Reader.advance^[text.length] r ∧ (∀ c ∈ text, p c = true) ∧
      ((r.advanceWhile p).ahead = [] ∨
        ∃ c rest, (r.advanceWhile p).ahead = c :: rest ∧ p c = false) := by
  have hahead := ahead_advanceWhile r p
  refine ⟨r.ahead.takeWhile p, ?_, List.foldl_const _ _ _, ?_, ?_⟩
  · rw [hahead, List.takeWhile_append_dropWhile]
  · exact fun c hc => List.mem_takeWhile_imp hc
  · rw [hahead]
    cases hdrop : r.ahead.dropWhile p with
    | nil => exact .inl rfl
    | cons c rest =>
        have hc := List.head?_dropWhile_not p r.ahead
        rw [hdrop] at hc
        exact .inr ⟨c, rest, rfl, by simpa using hc⟩

/-- However a reader is moved over a source, it stands between two characters of
it: the text since its start and the text ahead are the source, the text ahead
is the source from the reader's offset on, and line and column are counted from
the text that was read.  No move leads back; moving by a number is as many single
steps, up to the end; moving while a test holds stops where it first fails; and
the text since an offset is there unless the offset lies further on or inside a
character. -/
theorem moves_standsIn (source : String) (ms : List Move)
    (hlength : source.length < UInt32.size - 1) :
    let r := (ofList source.toList).moves ms
    (∃ consumed, r.since? 0 = some consumed ∧ source.toList = consumed ++ r.ahead ∧
      r.position.offset ≤ Text.byteLength source.toList ∧
      Text.dropBytes? r.position.offset source.toList = some r.ahead ∧
      r.position.line.toNat = 1 + consumed.count '\n' ∧
      r.position.column.toNat = 1 + (consumed.reverse.takeWhile (· != '\n')).length) ∧
    (∀ m, r.position.offset ≤ (r.move m).position.offset) ∧
    (∀ n, r.advanceBy n = Reader.advance^[min n r.ahead.length] r) ∧
    (∀ p, ∃ text, r.ahead = text ++ (r.advanceWhile p).ahead ∧
      r.advanceWhile p = Reader.advance^[text.length] r ∧ (∀ c ∈ text, p c = true) ∧
      ((r.advanceWhile p).ahead = [] ∨
        ∃ c rest, (r.advanceWhile p).ahead = c :: rest ∧ p c = false)) ∧
    ∀ start, r.since? start = none ↔
      r.position.offset < start ∨ Text.CutsCharacter source.toList start := by
  intro r
  have hstands : r.StandsIn source.toList := (standsIn_ofList source.toList).moves ms
  have hconsumed : r.behind.reverse.length < UInt32.size - 1 := by
    have hsource := congrArg List.length hstands.source_eq
    rw [String.length_toList, List.length_append] at hsource
    omega
  -- Lines and columns are words; they do not overflow in a source of this length.
  have hplace : r.position.StandsAfter r.behind.reverse := by
    rw [hstands.place]
    exact Position.standsAfter_nil.after _ hconsumed
  refine ⟨⟨r.behind.reverse, ?_, hstands.source_eq, hstands.offset_le,
    hstands.dropBytes?_offset, ?_, ?_⟩, ?_, advanceBy_eq_iterate r, exists_advanceWhile r,
    fun start => hstands.since?_eq_none_iff⟩
  · rw [since?, Text.dropBytes?_zero]
  · rw [hplace.line, Text.lineNumber, Nat.add_comm]
  · rw [hplace.column, Text.columnNumber, Nat.add_comm]
    rfl
  · intro m
    obtain ⟨text, hread⟩ := exists_reads_move r m
    exact hread.offset_le

/-- A reader between two characters of two and three bytes each, after the line
feed before them. -/
theorem moves_standsIn_lines :
    let r := (ofList "a\nç€".toList).moves [.advanceBy 2, .accept 'x', .advance]
    "a\nç€".length < UInt32.size - 1 ∧
      (∃ consumed, r.since? 0 = some consumed ∧ "a\nç€".toList = consumed ++ r.ahead ∧
        r.position.offset = 4 ∧ r.position.line.toNat = 1 + consumed.count '\n' ∧
        r.position.column.toNat = 1 + (consumed.reverse.takeWhile (· != '\n')).length) ∧
      r.advanceBy 18446744073709551615 = Reader.advance^[1] r ∧
      r.since? 2 = some ['ç'] ∧ r.since? 3 = none ∧ r.since? 5 = none := by
  intro r
  have hlength : "a\nç€".length < UInt32.size - 1 := by decide
  obtain ⟨⟨consumed, hsince, hsource, -, -, hline, hcolumn⟩, -, hby, -, hnone⟩ :=
    moves_standsIn "a\nç€" [.advanceBy 2, .accept 'x', .advance] hlength
  have hoffset : r.position.offset = 4 := by decide
  have hcut : Text.CutsCharacter "a\nç€".toList 3 :=
    ⟨['a', '\n'], 'ç', ['€'], rfl, by decide, by decide⟩
  refine ⟨hlength, ⟨consumed, hsince, hsource, hoffset, hline, hcolumn⟩, hby _, by decide,
    ?_, ?_⟩
  · exact (hnone 3).2 (.inr hcut)
  · exact (hnone 5).2 (.inl (by rw [hoffset]; decide))

/-! ## looking ahead -/

/-- Looking ahead shows the character that moving as far would come to. -/
theorem peek_eq_current_advanceBy (r : Reader) (n : Nat) : r.peek n = (r.advanceBy n).current := by
  rw [current, peek_eq, peek_eq, ahead_advanceBy, List.getElem?_drop, Nat.add_zero]

theorem atEnd_iff (r : Reader) : r.atEnd = true ↔ r.ahead = [] := List.isEmpty_iff

/-- Before a character the current one is that character, even where it is a NUL. -/
theorem current_of_ahead {c : Char} {rest : List Char} (h : r.ahead = c :: rest) :
    r.current = c := by
  rw [current, peek_eq, h]
  rfl

/-- The second character, or NUL if there is none. -/
theorem peek_one_of_ahead {c : Char} {rest : List Char} (h : r.ahead = c :: rest) :
    r.peek 1 = rest.head?.getD '\x00' := by
  rw [peek_eq, h, List.getElem?_cons_succ, List.head?_eq_getElem?]

/-- The next character is accepted if there is one and it is the one that is asked for;
at the end not even NUL is. -/
theorem accept_eq (r : Reader) (c : Char) :
    r.accept c = if r.ahead.head? = some c then (true, r.advance) else (false, r) := by
  unfold accept
  cases h : r.ahead with
  | nil => simp [(atEnd_iff r).2 h]
  | cons d rest => simp [atEnd, h, current_of_ahead h]

/-- Reading on while `p` holds is one step after another: it stops at the end, and else
where the current character fails `p`. -/
theorem advanceWhile_eq (r : Reader) (p : Char → Bool) :
    r.advanceWhile p = if !r.atEnd && p r.current then r.advance.advanceWhile p else r := by
  cases h : r.ahead with
  | nil => simp [advanceWhile, h, (atEnd_iff r).2 h]
  | cons c rest =>
      have hadvance : r.advance.ahead = rest := by simp [advance, h]
      cases hc : p c with
      | false => simp [advanceWhile, h, atEnd, current_of_ahead h, hc]
      | true => simp [advanceWhile, h, atEnd, current_of_ahead h, hc, hadvance]

/-- The bytes ahead are those of the source from the reader's offset on. -/
theorem StandsIn.encode_ahead (h : r.StandsIn source) :
    Text.encode r.ahead = (Text.encode source).drop r.position.offset := by
  rw [h.offset_eq, h.source_eq, Text.encode_append, ← Text.length_encode, List.drop_left]

/-- However a reader was moved, looking ahead by any number of characters shows the
character of the remaining text at that place, or NUL where there is none, and that
is the one to which moving by as many characters leads.  Where the bytes ahead
have one at that number, the bytes up to it are there to be tested. -/
theorem peek_moves (source : String) (ms : List Move) (n : Nat) :
    let r := (ofList source.toList).moves ms
    ∃ remaining, Text.dropBytes? r.position.offset source.toList = some remaining ∧
      r.peek n = (remaining[n]?).getD '\x00' ∧
      r.peek n = (r.advanceBy n).current ∧
      Text.encode remaining = (Text.encode source.toList).drop r.position.offset ∧
      ∀ b, (Text.encode remaining)[n]? = some b →
        ∃ front, Text.through? n (Text.encode remaining) = some front ∧ front.length = n + 1 := by
  intro r
  have hstands : r.StandsIn source.toList := (standsIn_ofList source.toList).moves ms
  refine ⟨r.ahead, hstands.dropBytes?_offset, peek_eq r n, peek_eq_current_advanceBy r n,
    hstands.encode_ahead, fun b hb => ⟨_, Text.through?_of_getElem? hb, ?_⟩⟩
  obtain ⟨hlt, -⟩ := List.getElem?_eq_some_iff.1 hb
  exact List.length_take_of_le hlt

/-- The bytes before the `b` are counted by characters, and no offset is too large. -/
example : ((ofList "aç€b".toList).peek 3, (ofList "aç€b".toList).peek 18446744073709551615) =
    ('b', '\x00') := by decide

end Reader

end PascalTokens
