import PascalTokens.Proofs.Lookahead
import PascalTokens.Proofs.Reached
import PascalTokens.Scan.Call

/-!
# PascalTokens.Proofs.Horizon

How far ahead a scanner looks.  It reads no token by more than two characters
after it, so what stands further on can be replaced without any effect on what
it has answered and on what it has become.  The step is `pull_withAhead`, and the
main statement, for any number of calls, is `calls_append_of_same_two`.
-/

namespace PascalTokens.Scan

namespace Scanner

/-- The same scanner before another text. -/
def withAhead (s : Scanner) (cs : List Char) : Scanner :=
  { s with reader := { s.reader with ahead := cs } }

/-! ## what is read does not depend on what follows -/

section

variable {s : Scanner} {rest : List Char}

/-- Moving over a text does not depend on what stands behind it. -/
theorem moveOver_withAhead {text : List Char} (h : s.reader.ahead = text ++ rest)
    (rest' : List Char) :
    (s.withAhead (text ++ rest')).moveOver text = (s.moveOver text).withAhead rest' := by
  have hread := s.reader.advanceBy_length text rest h
  have hread' := (s.withAhead (text ++ rest')).reader.advanceBy_length text rest' rfl
  simp only [moveOver, hread, hread']
  rfl

/-- Skipping one item does not depend on what stands behind it. -/
theorem skip_withAhead {k : Skipped} (h : s.reader.ahead = k.text ++ rest) (rest' : List Char) :
    (s.withAhead (k.text ++ rest')).skip k = (s.skip k).withAhead rest' := by
  unfold skip
  rw [moveOver_withAhead h]
  cases k <;> rfl

/-- Skipping a gap does not depend on what stands behind it. -/
theorem skipAll_withAhead {gap : List Skipped} (h : s.reader.ahead = gapText gap ++ rest)
    (rest' : List Char) :
    (s.withAhead (gapText gap ++ rest')).skipAll gap = (s.skipAll gap).withAhead rest' := by
  induction gap generalizing s with
  | nil => rfl
  | cons k gap ih =>
      rw [gapText_cons, List.append_assoc] at h
      have hahead : (s.skip k).reader.ahead = gapText gap ++ rest := by
        rw [ahead_skip, h, List.drop_left]
      rw [gapText_cons, List.append_assoc, skipAll_cons, skip_withAhead h, ih hahead, skipAll_cons]

/-- Taking a token gives the same answer whatever stands behind it. -/
theorem take_withAhead {r : Reading} (h : s.reader.ahead = r.text ++ rest) (rest' : List Char) :
    (s.withAhead (r.text ++ rest')).take r = ((s.take r).1, (s.take r).2.withAhead rest') := by
  unfold take
  rw [moveOver_withAhead h]
  cases r.fault <;> rfl

end

/-! ## calls that end before the replaced text -/

/-- Texts that start alike start alike after the same front part. -/
theorem take_append_congr {n : Nat} {v v' : List Char} (h : v'.take n = v.take n)
    (front : List Char) : (front ++ v').take n = (front ++ v).take n := by
  have hshorter : v'.take (n - front.length) = v.take (n - front.length) := by
    rw [← Nat.min_eq_left (Nat.sub_le n front.length), ← List.take_take, h, List.take_take]
  rw [List.take_append, List.take_append, hshorter]

section

variable {s : Scanner} {front v v' : List Char}

/-- A pull that ends before `v` has looked at its first two characters at most. -/
theorem pull_withAhead {left : List Char} (hahead : s.reader.ahead = front ++ v)
    (hleft : s.pull.2.reader.ahead = left ++ v) (hsame : v'.take 2 = v.take 2) :
    (s.withAhead (front ++ v')).pull = (s.pull.1, s.pull.2.withAhead (left ++ v')) := by
  obtain ⟨gap, hgap, htext, hpull⟩ | ⟨gap, r, rest, hgap, hread, htext, hpull⟩ := pull_cases s
  · -- The source has been read to its end, so there is nothing that could be replaced.
    have htext : s.reader.ahead = gapText gap ++ [] := by rw [htext, List.append_nil]
    have hend : s.pull.2.reader.ahead = [] := by rw [hpull, finish, reader_skipAll htext]
    obtain ⟨rfl, rfl⟩ := List.append_eq_nil_iff.1 (hleft.symm.trans hend)
    obtain rfl : v' = [] := by simpa using hsame
    rw [← hahead, List.append_nil, ← hend]
    rfl
  · have hskip : (s.skipAll gap).reader.ahead = r.text ++ rest := by rw [reader_skipAll htext]
    obtain rfl : rest = left ++ v := by rw [← hleft, hpull, reader_take_of_ahead hskip]
    obtain rfl : front = gapText gap ++ (r.text ++ left) := by
      have hsplit : front ++ v = gapText gap ++ (r.text ++ left) ++ v := by
        rw [← hahead, htext, List.append_assoc, List.append_assoc]
      exact List.append_cancel_right hsplit
    have hread' : Reads s.preceding r (left ++ v') := hread.of_take_two (take_append_congr hsame _)
    have hpull' := pull_token (s := s.withAhead (gapText gap ++ (r.text ++ (left ++ v'))))
      hgap hread' rfl
    rw [List.append_assoc, List.append_assoc, hpull', skipAll_withAhead htext,
      take_withAhead hskip, hpull]

/-- One call gives the same answer for every continuation that agrees in its first two
characters, and leaves the rest of the continuation ahead. -/
theorem next_withAhead {left : List Char} (hahead : s.reader.ahead = front ++ v)
    (hleft : s.pull.2.reader.ahead = left ++ v) (hsame : v'.take 2 = v.take 2) :
    (s.withAhead (front ++ v')).next = (s.next.1, s.next.2.withAhead (left ++ v')) := by
  unfold next
  rw [pull_withAhead hahead hleft hsame]
  obtain ⟨answer, t⟩ := s.pull
  match answer with
  | none | some (.ok _) | some (.error _) => rfl

/-- A call moves the cursor as pulling does. -/
theorem reader_call (s : Scanner) (c : Call) : (s.call c).2.reader = s.pull.2.reader := by
  cases c with
  | pull => rfl
  | next => exact reader_next s

/-- The same for a call of either kind, as both pull and differ only in what they do with
the token. -/
theorem call_withAhead {left : List Char} (c : Call) (hahead : s.reader.ahead = front ++ v)
    (hleft : (s.call c).2.reader.ahead = left ++ v) (hsame : v'.take 2 = v.take 2) :
    (s.withAhead (front ++ v')).call c = ((s.call c).1, (s.call c).2.withAhead (left ++ v')) := by
  rw [reader_call] at hleft
  cases c with
  | pull => exact pull_withAhead hahead hleft hsame
  | next => simp only [call, next_withAhead hahead hleft hsame]

/-- Calls leave the back part of what was ahead. -/
theorem ahead_calls_isSuffix (s : Scanner) (cs : List Call) :
    (s.calls cs).2.reader.ahead <:+ s.reader.ahead := by
  induction cs generalizing s with
  | nil => exact List.suffix_rfl
  | cons c cs ih =>
      obtain ⟨text, rest, hahead, hread⟩ := reader_pull s
      have hrest := ih (s.call c).2
      rw [reader_call, hread] at hrest
      rw [calls_cons, hahead]
      exact hrest.trans (List.suffix_append text rest)

/-- Calls that end right before `v` have looked at its first two characters at
most. -/
theorem calls_withAhead {cs : List Call} (hahead : s.reader.ahead = front ++ v)
    (hend : (s.calls cs).2.reader.ahead = v) (hsame : v'.take 2 = v.take 2) :
    (s.withAhead (front ++ v')).calls cs = ((s.calls cs).1, (s.calls cs).2.withAhead v') := by
  induction cs generalizing s front with
  | nil =>
      obtain rfl : front = [] := by simpa using hahead.symm.trans hend
      rfl
  | cons c cs ih =>
      rw [calls_cons] at hend
      obtain ⟨left, hleft⟩ := ahead_calls_isSuffix (s.call c).2 cs
      rw [hend] at hleft
      rw [calls_cons, call_withAhead c hahead hleft.symm hsame, ih hleft.symm hend]
      rfl

end

/-! ## the place where calls end -/

theorem StandsIn.call {source : List Char} {s : Scanner} (h : s.StandsIn source) (c : Call) :
    (s.call c).2.StandsIn source :=
  h.pull.of_reader_eq (reader_call s c)

/-- Calls never lose the source: what is behind and what is ahead still make it up. -/
theorem StandsIn.calls {source : List Char} {s : Scanner} (h : s.StandsIn source)
    (cs : List Call) : (s.calls cs).2.StandsIn source := by
  induction cs generalizing s with
  | nil => exact h
  | cons c cs ih => exact ih (h.call c)

/-- A scanner that has read as many bytes as the front part of its source has
the back part ahead. -/
theorem StandsIn.ahead_eq {front rest : List Char} {s : Scanner} (h : s.StandsIn (front ++ rest))
    (hoffset : s.position.offset = Text.byteLength front) : s.reader.ahead = rest := by
  have hbehind : Text.byteLength s.reader.behind.reverse = Text.byteLength front := by
    rw [← hoffset, h.place, Position.offset_after, Nat.zero_add]
  have hfront := Text.dropBytes?_append front rest
  have hback := Text.dropBytes?_append s.reader.behind.reverse s.reader.ahead
  rw [← Reader.source, h.text, hbehind, hfront] at hback
  exact (Option.some.inj hback).symm

end Scanner

/-- Two sources that start alike are scanned alike as long as the scan stays two
characters before the place where they differ: calls that end after `u` give the
same answers whatever follows, and leave the same scanner, up to what is ahead of
it, if only the first two characters after `u` are the same. -/
theorem calls_append_of_same_two (u v v' : String) (log : DiagnosticLog) (cs : List Call)
    (hstop : ((Scanner.ofSource (u ++ v) log).calls cs).2.position.offset =
      Text.byteLength u.toList)
    (hsame : v'.toList.take 2 = v.toList.take 2) :
    let run := (Scanner.ofSource (u ++ v) log).calls cs
    let run' := (Scanner.ofSource (u ++ v') log).calls cs
    run'.1 = run.1 ∧ run'.2 = run.2.withAhead v'.toList := by
  intro run run'
  have hstands := (Scanner.standsIn_ofSource (u ++ v) log).calls cs
  rw [String.toList_append] at hstands
  have hstart : (Scanner.ofSource (u ++ v) log).reader.ahead = u.toList ++ v.toList :=
    String.toList_append
  have hsource : Scanner.ofSource (u ++ v') log =
      (Scanner.ofSource (u ++ v) log).withAhead (u.toList ++ v'.toList) := by
    simp [Scanner.ofSource, Scanner.withAhead, Reader.ofList]
  have hrun : run' = (run.1, run.2.withAhead v'.toList) := by
    rw [show run' = (Scanner.ofSource (u ++ v') log).calls cs from rfl, hsource]
    exact Scanner.calls_withAhead hstart (hstands.ahead_eq hstop) hsame
  rw [hrun]
  exact ⟨rfl, rfl⟩

/-- The two characters `..` end the number before them, whatever comes next. -/
theorem calls_append_of_same_two_number :
    let run := (Scanner.ofSource "x:=/**/12..5").calls [.pull, .next, .pull]
    let run' := (Scanner.ofSource "x:=/**/12..").calls [.pull, .next, .pull]
    run.2.position.offset = 9 ∧ run'.1 = run.1 ∧ run'.2 = run.2.withAhead ['.', '.'] := by
  have hstop : ((Scanner.ofSource ("x:=/**/12" ++ "..5")).calls
      [.pull, .next, .pull]).2.position.offset = Text.byteLength "x:=/**/12".toList := by
    decide +kernel
  exact ⟨hstop, calls_append_of_same_two "x:=/**/12" "..5" ".." {} [.pull, .next, .pull] hstop
    (by decide)⟩

/-- One character is not enough: `.` goes on a number if a digit comes next. -/
example : (Scanner.ofSource "12.x").pull.2.position.offset = 2 ∧
    (Scanner.ofSource "12.5").pull.2.position.offset = 4 := by decide +kernel

end PascalTokens.Scan
