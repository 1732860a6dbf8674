import PascalTokens.Scan.Scanner

/-!
# PascalTokens.Scan.Items

A whole source as the sequence of its items, and what a full scan makes of
it.  The main statements are `flatMap_text_items`, that the items cover the
source without gaps or overlaps, and `rest_eq`, that a full scan gives the
tokens among the items and passes over one item after another.
-/

namespace PascalTokens.Scan

namespace Item

/-- The token of an item, if it is one. -/
def token? : Item → Option Token
  | skipped _ => none
  | token r => some r.token

/-- The character of an item that starts no token, if it is one. -/
def unrecognized? : Item → Option Char
  | skipped (.unrecognized c) => some c
  | _ => none

/-- What is remembered after an item: what lies between tokens is forgotten. -/
def following (preceding : Preceding) : Item → Preceding
  | skipped _ => preceding
  | token r => .ofToken r.token

end Item

/-- The items of a text, given what stands before it. -/
def items (preceding : Preceding) (cs : List Char) : List Item :=
  match _h : Item.next? preceding cs with
  | none => []
  | some i => i :: items (i.following preceding) (cs.drop i.text.length)
termination_by cs.length
decreasing_by exact Scanner.length_drop_lt _h

/-- Where nothing is next there are no items. -/
theorem items_of_next?_none {preceding : Preceding} {cs : List Char}
    (h : Item.next? preceding cs = none) : items preceding cs = [] := by
  rw [items]
  split
  · rfl
  · next hi => rw [h] at hi; simp at hi

/-- The items of a text are the next one and those of the rest. -/
theorem items_of_next? {preceding : Preceding} {cs : List Char} {i : Item}
    (h : Item.next? preceding cs = some i) :
    items preceding cs = i :: items (i.following preceding) (cs.drop i.text.length) := by
  rw [items]
  split
  · next hi => rw [h] at hi; simp at hi
  · next j hi => rw [h] at hi; obtain rfl := Option.some.inj hi; rfl

/-- The texts of the items of a text are the text, one after another. -/
theorem flatMap_text_items (preceding : Preceding) (cs : List Char) :
    (items preceding cs).flatMap Item.text = cs := by
  fun_induction items preceding cs with
  | case1 preceding cs h => simp [Item.next?_eq_none_iff.1 h]
  | case2 preceding cs i h ih =>
      rw [List.flatMap_cons, ih]
      obtain ⟨rest, rfl⟩ := Item.text_isPrefix h
      rw [List.drop_left]

/-- No item is empty. -/
theorem text_ne_nil_of_mem_items {preceding : Preceding} {cs : List Char} {i : Item}
    (h : i ∈ items preceding cs) : i.text ≠ [] := by
  fun_induction items preceding cs with
  | case1 => simp at h
  | case2 preceding cs j hj ih =>
      rcases List.mem_cons.1 h with rfl | h
      · exact Item.text_ne_nil hj
      · exact ih h

namespace Scanner

/-- Moves over an item, and reports what is wrong with it. -/
def pass (s : Scanner) : Item → Scanner
  | .skipped skipped => s.skip skipped
  | .token r =>
    match s.take r with
    | (.ok _, s) => s
    | (.error i, s) => s.report i.fault i.region

/-- A scanner at the end of the source, after a pull that gave nothing. -/
def finish (s : Scanner) : Scanner := { s with itemStart := s.position }

/-- A pull gives nothing where nothing is next. -/
theorem pull_of_none {s : Scanner} (h : Item.next? s.preceding s.reader.ahead = none) :
    s.pull = (none, s.finish) := by
  rw [pull]
  split
  · rfl
  · next hi => rw [h] at hi; simp at hi
  · next hi => rw [h] at hi; simp at hi

/-- A pull goes on behind a piece that is no token. -/
theorem pull_of_skipped {s : Scanner} {skipped : Skipped}
    (h : Item.next? s.preceding s.reader.ahead = some (.skipped skipped)) :
    s.pull = (s.skip skipped).pull := by
  rw [pull]
  split
  · next hi => rw [h] at hi; simp at hi
  · next hi => rw [h] at hi; simp at hi; rw [hi]
  · next hi => rw [h] at hi; simp at hi

/-- A pull takes a token that is next. -/
theorem pull_of_token {s : Scanner} {r : Reading}
    (h : Item.next? s.preceding s.reader.ahead = some (.token r)) :
    s.pull = (some (s.take r).1, (s.take r).2) := by
  rw [pull]
  split
  · next hi => rw [h] at hi; simp at hi
  · next hi => rw [h] at hi; simp at hi
  · next hi => rw [h] at hi; simp at hi; rw [hi]

/-- At the end of the source there is no token, in this way of pulling too. -/
theorem next_of_none {s : Scanner} (h : Item.next? s.preceding s.reader.ahead = none) :
    s.next = (none, s.finish) := by
  rw [next, pull_of_none h]

/-- A piece that is no token is passed over before the next token is given. -/
theorem next_of_skipped {s : Scanner} {skipped : Skipped}
    (h : Item.next? s.preceding s.reader.ahead = some (.skipped skipped)) :
    s.next = (s.skip skipped).next := by
  rw [next, pull_of_skipped h, next]

/-- A token is given whether it is complete or not. -/
theorem next_of_token {s : Scanner} {r : Reading}
    (h : Item.next? s.preceding s.reader.ahead = some (.token r)) :
    s.next = (some r.token, s.pass (.token r)) := by
  rw [next, pull_of_token h]
  simp only [pass, take]
  cases r.fault <;> rfl

/-- At the end of the source the tokens that were taken are all. -/
theorem restAfter_of_next_none {s s' : Scanner} {taken : Array Token} (h : s.next = (none, s')) :
    s.restAfter taken = (taken, s') := by
  rw [restAfter]
  split
  · next hn => rw [h] at hn; simp at hn; rw [hn]
  · next hn => rw [h] at hn; simp at hn

/-- A token that is given comes after those that were taken. -/
theorem restAfter_of_next_some {s s' : Scanner} {taken : Array Token} {t : Token}
    (h : s.next = (some t, s')) : s.restAfter taken = s'.restAfter (taken.push t) := by
  rw [restAfter]
  split
  · next hn => rw [h] at hn; simp at hn
  · next hn => rw [h] at hn; simp at hn; rw [hn.1, hn.2]

theorem restAfter_of_skipped {s : Scanner} {skipped : Skipped} {taken : Array Token}
    (h : Item.next? s.preceding s.reader.ahead = some (.skipped skipped)) :
    s.restAfter taken = (s.skip skipped).restAfter taken := by
  cases hn : (s.skip skipped).next with
  | mk t s' =>
      have hs := next_of_skipped h
      rw [hn] at hs
      cases t with
      | none => rw [restAfter_of_next_none hs, restAfter_of_next_none hn]
      | some t => rw [restAfter_of_next_some hs, restAfter_of_next_some hn]

/-- What is remembered after an item depends on the item alone, or does not change. -/
theorem preceding_pass (s : Scanner) (i : Item) :
    (s.pass i).preceding = i.following s.preceding := by
  cases i with
  | skipped k => cases k <;> rfl
  | token r => simp only [pass, take]; cases r.fault <;> rfl

/-- Passing over an item takes its text from what is ahead. -/
theorem ahead_pass (s : Scanner) (i : Item) :
    (s.pass i).reader.ahead = s.reader.ahead.drop i.text.length := by
  cases i with
  | skipped k => exact ahead_skip s k
  | token r => rw [Item.text, ← ahead_take]; simp only [pass, take]; cases r.fault <;> rfl

/-- What is left of a source gives the tokens among its items, and the scanner
ends where it has passed over all of them. -/
theorem restAfter_eq (taken : Array Token) (s : Scanner) :
    s.restAfter taken =
      let left := items s.preceding s.reader.ahead
      (taken ++ (left.filterMap Item.token?).toArray, (left.foldl pass s).finish) := by
  generalize hcs : s.reader.ahead = cs
  generalize hp : s.preceding = preceding
  fun_induction items preceding cs generalizing s taken with
  | case1 preceding cs h =>
      subst hcs hp
      simp [restAfter_of_next_none (next_of_none h)]
  | case2 preceding cs i h ih =>
      subst hcs hp
      have hrest (taken : Array Token) :=
        ih taken (s.pass i) (ahead_pass s i) (preceding_pass s i)
      cases i with
      | skipped k =>
          simpa [restAfter_of_skipped h, pass, List.filterMap_cons, Item.token?] using hrest taken
      | token r =>
          rw [restAfter_of_next_some (next_of_token h), hrest (taken.push r.token)]
          simp [Item.token?]

/-- A full scan gives the tokens among the items that are left, and the
scanner ends where it has passed over all of them. -/
theorem rest_eq (s : Scanner) :
    s.rest =
      let left := items s.preceding s.reader.ahead
      (left.filterMap Item.token?, (left.foldl pass s).finish) := by
  simp [rest, restAfter_eq]

end Scanner

/-- The tokens of a source are those among its items. -/
theorem tokenize_fst (source : String) (log : DiagnosticLog) :
    (tokenize source log).1 = (items .nothing source.toList).filterMap Item.token? := by
  simp [tokenize, Scanner.rest_eq, Scanner.ofSource, Reader.ofList]

end PascalTokens.Scan
