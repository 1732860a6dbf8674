import PascalTokens.Proofs.Reached
import PascalTokens.Scan.Call

/-!
# PascalTokens.Proofs.Memory

What a scanner remembers from one call to the next.  It is no more than
`Preceding`: two scanners with the same text ahead answer all later calls alike,
whatever they have read, as long as they remember the same of the last token,
and no token at all counts as one that decides nothing (`Preceding.orOther`).

What they answer is compared as it is seen from where each of them stood
(`Region.relativeTo`).  Columns are left out: on the line where a scanner stands
they go on from what stands before it.  The invariant of two such runs is
`InStep`, and the main statement is `calls_of_same_memory`.
-/

namespace PascalTokens

/-- What is remembered, with no token taken for one that decides nothing. -/
def Preceding.orOther : Preceding → Preceding
  | nothing => other
  | p => p

/-- A region as it is seen from a place: the bytes from there to its two ends,
and the lines to its start, in 32-bit words. -/
structure RelativeRegion where
  start : Int
  stop : Int
  line : UInt32
deriving DecidableEq, Repr

/-- A region seen from a place. -/
def Region.relativeTo (r : Region) (p : Position) : RelativeRegion :=
  ⟨r.start - p.offset, r.stop - p.offset, r.line - p.line⟩

/-- A message seen from a place: all but its region, and the region from there. -/
def Diagnostic.relativeTo (d : Diagnostic) (p : Position) : Diagnostic × RelativeRegion :=
  ({ d with region := .nowhere }, d.region.relativeTo p)

/-- Two places are as far from a third one as two others from a fourth. -/
structure Position.Parallel (p p' q q' : Position) : Prop where
  offset : (q.offset : Int) - p.offset = q'.offset - p'.offset
  line : q.line - p.line = q'.line - p'.line

/-- Two places move alike over the same character. -/
theorem Position.Parallel.advance {p p' q q' : Position} (h : Parallel p p' q q') (c : Char) :
    Parallel p p' (q.advance c) (q'.advance c) := by
  obtain ⟨hoffset, hline⟩ := h
  unfold Position.advance
  split
  · exact ⟨by simp only; omega, by simp only; grind⟩
  · exact ⟨by simp only; omega, hline⟩

/-- Two places move alike over the same text. -/
theorem Position.Parallel.after {p p' q q' : Position} (h : Parallel p p' q q')
    (text : List Char) : Parallel p p' (q.after text) (q'.after text) := by
  induction text generalizing q q' with
  | nil => exact h
  | cons c text ih => exact ih (h.advance c)

/-- Regions between places that are as far from two others look the same from
there. -/
theorem Region.relativeTo_between {p p' q q' t t' : Position} (hstart : p.Parallel p' q q')
    (hstop : p.Parallel p' t t') :
    (between q' t').relativeTo p' = (between q t).relativeTo p := by
  simp only [relativeTo, between, hstart.offset, hstop.offset, hstart.line]

namespace Scan

/-- What a pull gives, seen from a place. -/
def Pulled.relativeTo (pulled : Pulled) (p : Position) :
    Except (Token × Fault × RelativeRegion) Token :=
  match pulled with
  | .ok t => .ok t
  | .error i => .error (i.token, i.fault, i.region.relativeTo p)

/-! ## what is read does not depend on more -/

section

variable {p p' : Preceding}

/-- Whether a sign starts a number depends on the lookback only through the operators. -/
theorem Reading.startsNumber_congr (hminus : p'.minusIsOperator = p.minusIsOperator)
    (cs : List Char) : startsNumber p' cs = startsNumber p cs := by
  unfold startsNumber
  rw [hminus]

/-- Whether a dot ends the program is all that a symbol needs of the lookback. -/
theorem Reading.symbol?_congr (hdot : p'.dotEndsProgram = p.dotEndsProgram) (cs : List Char) :
    symbol? p' cs = symbol? p cs := by
  unfold symbol?
  rw [hdot]

/-- Reading asks two questions about the token before, and no more. -/
theorem Reading.read?_congr (hminus : p'.minusIsOperator = p.minusIsOperator)
    (hdot : p'.dotEndsProgram = p.dotEndsProgram) (cs : List Char) :
    read? p' cs = read? p cs := by
  unfold read? symbolReading?
  simp only [startsNumber_congr hminus, symbol?_congr hdot]

/-- No token before a place is as good as one that decides nothing. -/
theorem Item.next?_congr (h : p'.orOther = p.orOther) (cs : List Char) :
    next? p' cs = next? p cs := by
  have hminus : p'.minusIsOperator = p.minusIsOperator := by
    cases p <;> cases p' <;> first | rfl | exact absurd h (by decide)
  have hdot : p'.dotEndsProgram = p.dotEndsProgram := by
    cases p <;> cases p' <;> first | rfl | exact absurd h (by decide)
  unfold next?
  simp only [Reading.read?_congr hminus hdot]

/-- After an item two lookbacks are alike if they were before it. -/
theorem Item.orOther_following (h : p'.orOther = p.orOther) (i : Item) :
    (i.following p').orOther = (i.following p).orOther := by
  cases i with
  | skipped => exact h
  | token => rfl

/-- Alike lookbacks give the same items, so the start and any other token are not told
apart. -/
theorem items_congr (h : p'.orOther = p.orOther) (cs : List Char) : items p' cs = items p cs := by
  fun_induction items p cs generalizing p' with
  | case1 p cs hnone => exact items_of_next?_none (by rw [Item.next?_congr h, hnone])
  | case2 p cs i hnext ih =>
      rw [items_of_next? (by rw [Item.next?_congr h, hnext]), ih (i.orOther_following h)]

end

namespace Scanner

/-! ## two scanners that go on alike -/

/-- Whether two scanners have gone on alike since they were two others: what is
ahead of them and what they remember is the same, they have come equally far,
and they have recorded and reported the same. -/
structure InStep (since since' s s' : Scanner) : Prop where
  ahead : s'.reader.ahead = s.reader.ahead
  preceding : s'.preceding.orOther = s.preceding.orOther
  place : since.position.Parallel since'.position s.position s'.position
  recorded : ∃ recorded, s.unrecognized.toList = since.unrecognized.toList ++ recorded ∧
    s'.unrecognized.toList = since'.unrecognized.toList ++ recorded
  reported : ∃ reported reported', s.log.toList = since.log.toList ++ reported ∧
    s'.log.toList = since'.log.toList ++ reported' ∧
    reported'.map (·.relativeTo since'.position) = reported.map (·.relativeTo since.position)

namespace InStep

variable {since since' s s' : Scanner}

/-- Scanners with the same text ahead and alike lookbacks start in step. -/
theorem start (hahead : s'.reader.ahead = s.reader.ahead)
    (hpreceding : s'.preceding.orOther = s.preceding.orOther) : InStep s s' s s' where
  ahead := hahead
  preceding := hpreceding
  place := ⟨by omega, by grind⟩
  recorded := ⟨[], by simp⟩
  reported := ⟨[], [], by simp⟩

/-- Moving over the same text keeps the step. -/
theorem moveOver (h : InStep since since' s s') (text : List Char) :
    InStep since since' (s.moveOver text) (s'.moveOver text) where
  ahead := by rw [ahead_moveOver, ahead_moveOver, h.ahead]
  preceding := h.preceding
  place := by
    simp only [Scanner.moveOver, position, Reader.position_advanceBy, h.ahead]
    exact h.place.after _
  recorded := h.recorded
  reported := h.reported

/-- An item that both have moved over lies equally far from where they were. -/
theorem region_moveOver (h : InStep since since' s s') (text : List Char) :
    (s'.moveOver text).region.relativeTo since'.position =
      (s.moveOver text).region.relativeTo since.position :=
  Region.relativeTo_between h.place (h.moveOver text).place

/-- What is told to the trace is not looked at. -/
theorem tell (h : InStep since since' s s') (e e' : Event) :
    InStep since since' (s.tell e) (s'.tell e') :=
  ⟨h.ahead, h.preceding, h.place, h.recorded, h.reported⟩

/-- What is recorded is not looked at. -/
theorem record (h : InStep since since' s s') (c : Char) :
    InStep since since' { s with unrecognized := s.unrecognized.push c }
      { s' with unrecognized := s'.unrecognized.push c } where
  ahead := h.ahead
  preceding := h.preceding
  place := h.place
  recorded := by
    obtain ⟨recorded, hs, hs'⟩ := h.recorded
    exact ⟨recorded ++ [c], by simp [hs], by simp [hs']⟩
  reported := h.reported

/-- Faults at matching regions are reported in step. -/
theorem report (h : InStep since since' s s') (fault : Fault) {region region' : Region}
    (hregion : region'.relativeTo since'.position = region.relativeTo since.position) :
    InStep since since' (s.report fault region) (s'.report fault region') where
  ahead := h.ahead
  preceding := h.preceding
  place := h.place
  recorded := h.recorded
  reported := by
    obtain ⟨reported, reported', hs, hs', hsame⟩ := h.reported
    refine ⟨reported ++ [fault.diagnostic region], reported' ++ [fault.diagnostic region'],
      ?_, ?_, ?_⟩
    · simp [Scanner.report, hs]
    · simp [Scanner.report, hs']
    · rw [List.map_append, List.map_append, hsame]
      simp [Diagnostic.relativeTo, Fault.diagnostic, hregion]

theorem skip (h : InStep since since' s s') (k : Skipped) :
    InStep since since' (s.skip k) (s'.skip k) := by
  have hmove := h.moveOver k.text
  cases k with
  | blank => exact hmove
  | comment => exact hmove.tell _ _
  | openComment => exact hmove.tell _ _
  | unrecognized c => exact ((hmove.tell _ _).record c).report _ (h.region_moveOver _)

theorem remember (h : InStep since since' s s') (p : Preceding) :
    InStep since since' { s with preceding := p } { s' with preceding := p } :=
  ⟨h.ahead, rfl, h.place, h.recorded, h.reported⟩

/-- A token that both take, and what they are after it. -/
theorem take (h : InStep since since' s s') (r : Reading) :
    (s'.take r).1.relativeTo since'.position = (s.take r).1.relativeTo since.position ∧
      InStep since since' (s.take r).2 (s'.take r).2 := by
  have hmove := (h.moveOver r.text).remember (.ofToken r.token)
  have hregion := h.region_moveOver r.text
  unfold Scanner.take
  cases r.fault with
  | none => exact ⟨rfl, hmove.tell _ _⟩
  | some fault =>
      refine ⟨?_, (hmove.tell _ _).tell _ _⟩
      simp only [Pulled.relativeTo]
      exact congrArg (fun region => Except.error (r.token, fault, region)) hregion

theorem finish (h : InStep since since' s s') : InStep since since' s.finish s'.finish :=
  ⟨h.ahead, h.preceding, h.place, h.recorded, h.reported⟩

/-- Whether two answers are the same, seen from where the scanners were. -/
def SameAnswer (since since' : Scanner) (answer answer' : Option Pulled) : Prop :=
  answer'.map (·.relativeTo since'.position) = answer.map (·.relativeTo since.position)

/-- Scanners stay in step when they take a token and report what is wrong with it. -/
theorem passToken (h : InStep since since' s s') (r : Reading) :
    InStep since since' (s.pass (.token r)) (s'.pass (.token r)) := by
  have hmove := (h.moveOver r.text).remember (.ofToken r.token)
  have hregion := h.region_moveOver r.text
  simp only [pass, Scanner.take]
  cases r.fault with
  | none => exact hmove.tell _ _
  | some fault => exact ((hmove.tell _ _).tell _ _).report fault hregion

/-- Scanners in step read the same item. -/
theorem next?_eq (h : InStep since since' s s') :
    Item.next? s'.preceding s'.reader.ahead = Item.next? s.preceding s.reader.ahead := by
  rw [h.ahead, Item.next?_congr h.preceding]

/-- Scanners in step pull the same token, at matching regions, and stay in step. -/
theorem pull (h : InStep since since' s s') :
    SameAnswer since since' s.pull.1 s'.pull.1 ∧ InStep since since' s.pull.2 s'.pull.2 := by
  fun_induction Scanner.pull s generalizing s' with
  | case1 s hnone =>
      rw [pull_of_none (h.next?_eq.trans hnone)]
      exact ⟨rfl, h.finish⟩
  | case2 s k hk ih =>
      rw [pull_of_skipped (h.next?_eq.trans hk)]
      exact ih (h.skip k)
  | case3 s r hr pulled t htake =>
      rw [pull_of_token (h.next?_eq.trans hr)]
      have hboth := h.take r
      rw [htake] at hboth
      exact ⟨congrArg some hboth.1, hboth.2⟩

/-- Calls of `next` answer alike and keep the step. -/
theorem next (h : InStep since since' s s') :
    s'.next.1 = s.next.1 ∧ InStep since since' s.next.2 s'.next.2 := by
  -- Along the pull, since `next` goes on after what is skipped as `pull` does.
  fun_induction Scanner.pull s generalizing s' with
  | case1 s hnone =>
      rw [next_of_none hnone, next_of_none (h.next?_eq.trans hnone)]
      exact ⟨rfl, h.finish⟩
  | case2 s k hk ih =>
      rw [next_of_skipped hk, next_of_skipped (h.next?_eq.trans hk)]
      exact ih (h.skip k)
  | case3 s r hr =>
      rw [next_of_token hr, next_of_token (h.next?_eq.trans hr)]
      exact ⟨rfl, h.passToken r⟩

/-- Calls of either kind answer alike and keep the step. -/
theorem call (h : InStep since since' s s') (c : Call) :
    SameAnswer since since' (s.call c).1 (s'.call c).1 ∧
      InStep since since' (s.call c).2 (s'.call c).2 := by
  cases c with
  | pull => exact h.pull
  | next =>
      obtain ⟨hanswer, hstep⟩ := h.next
      refine ⟨?_, hstep⟩
      simp only [SameAnswer, Scanner.call, hanswer, Option.map_map]
      rfl

/-- Scanners that are in step answer all calls alike and stay in step. -/
theorem calls (h : InStep since since' s s') (cs : List Call) :
    List.map (Option.map (·.relativeTo since'.position)) (s'.calls cs).1 =
        List.map (Option.map (·.relativeTo since.position)) (s.calls cs).1 ∧
      InStep since since' (s.calls cs).2 (s'.calls cs).2 := by
  induction cs generalizing s s' with
  | nil => exact ⟨rfl, h⟩
  | cons c cs ih =>
      obtain ⟨hanswer, hstep⟩ := h.call c
      obtain ⟨hanswers, hend⟩ := ih hstep
      simp only [calls_cons, List.map_cons]
      exact ⟨by rw [hanswers, hanswer], hend⟩

end InStep

/-! ## what is left after some calls -/

/-- The tokens still to come are those among the items of the text ahead. -/
theorem rest_fst (s : Scanner) :
    s.rest.1 = (items s.preceding s.reader.ahead).filterMap Item.token? := by
  rw [rest_eq]

/-- A pull takes the first of the tokens that are left. -/
theorem rest_fst_pull (s : Scanner) : s.pull.2.rest.1 = s.rest.1.drop 1 := by
  simp only [rest_fst]
  fun_induction pull s with
  | case1 s hnone =>
      have hnil := items_of_next?_none hnone
      simp [hnil]
  | case2 s k hk ih =>
      rw [ih, items_of_next? hk, preceding_skip, ahead_skip]
      rfl
  | case3 s r hr pulled t htake =>
      have ht : t = (s.take r).2 := by rw [htake]
      rw [items_of_next? hr, ht, preceding_take, ahead_take]
      rfl

theorem preceding_next (s : Scanner) : s.next.2.preceding = s.pull.2.preceding := by
  unfold next
  split
  · next h => rw [h]
  · next h => rw [h]
  · next h => rw [h]; rfl

/-- A call takes the first of the tokens to come. -/
theorem rest_fst_call (s : Scanner) (c : Call) : (s.call c).2.rest.1 = s.rest.1.drop 1 := by
  rw [← rest_fst_pull]
  cases c with
  | pull => rfl
  | next => rw [rest_fst, rest_fst, call, reader_next, preceding_next]

/-- After some calls as many tokens are gone. -/
theorem rest_fst_calls (s : Scanner) (cs : List Call) :
    (s.calls cs).2.rest.1 = s.rest.1.drop cs.length := by
  induction cs generalizing s with
  | nil => rfl
  | cons c cs ih =>
      rw [calls_cons, ih, rest_fst_call, List.drop_drop, List.length_cons, Nat.add_comm]

end Scanner

/-- Whatever was scanned before, later calls depend on the text ahead and on
what is remembered of the last token alone.  They give the same tokens with the
same faults, record the same characters, and report the same messages, each as
far from where the scanner stood.  So after a token that decides nothing, the
tokens that are left are those of the text ahead, taken for a source. -/
theorem calls_of_same_memory (source source' : String) (log log' : DiagnosticLog)
    (before before' later : List Call) :
    let s := ((Scanner.ofSource source log).calls before).2
    let s' := ((Scanner.ofSource source' log').calls before').2
    (s'.reader.ahead = s.reader.ahead → s'.preceding.orOther = s.preceding.orOther →
      let run := s.calls later
      let run' := s'.calls later
      run'.1.map (Option.map (·.relativeTo s'.position)) =
          run.1.map (Option.map (·.relativeTo s.position)) ∧
        (∃ recorded, run.2.unrecognized.toList = s.unrecognized.toList ++ recorded ∧
          run'.2.unrecognized.toList = s'.unrecognized.toList ++ recorded) ∧
        ∃ reported reported', run.2.log.toList = s.log.toList ++ reported ∧
          run'.2.log.toList = s'.log.toList ++ reported' ∧
          reported'.map (·.relativeTo s'.position) = reported.map (·.relativeTo s.position)) ∧
    (s.preceding = .other →
      (tokenize source log).1.drop before.length =
        (tokenize (String.ofList s.reader.ahead) log').1) := by
  intro s s'
  constructor
  · intro hahead hpreceding
    obtain ⟨hanswers, hend⟩ := (Scanner.InStep.start hahead hpreceding).calls later
    exact ⟨hanswers, hend.recorded, hend.reported⟩
  · intro hother
    have hsource : (tokenize source log).1 = (Scanner.ofSource source log).rest.1 := rfl
    have horOther : s.preceding.orOther = Preceding.nothing.orOther := by rw [hother]; rfl
    rw [hsource, ← Scanner.rest_fst_calls, Scanner.rest_fst, tokenize_fst, String.toList_ofList,
      items_congr horOther]

/-- What follows `;` on the second line of a source is scanned as if the source
began there. -/
theorem calls_of_same_memory_exponent :
    let s := ((Scanner.ofSource "x\n;@2e").calls [.pull, .next]).2
    let s' := ((Scanner.ofSource "@2e").calls []).2
    s'.reader.ahead = s.reader.ahead ∧ s'.preceding.orOther = s.preceding.orOther ∧
      (s'.calls [.pull, .next]).1.map (Option.map (·.relativeTo s'.position)) =
        (s.calls [.pull, .next]).1.map (Option.map (·.relativeTo s.position)) ∧
      s.preceding = .other ∧ (tokenize "x\n;@2e").1.drop 2 = (tokenize "@2e").1 := by
  intro s s'
  have hahead : s'.reader.ahead = s.reader.ahead := by decide +kernel
  have hpreceding : s'.preceding.orOther = s.preceding.orOther := by decide +kernel
  have hother : s.preceding = .other := by decide +kernel
  obtain ⟨halike, hleft⟩ :=
    calls_of_same_memory "x\n;@2e" "@2e" {} {} [.pull, .next] [] [.pull, .next]
  have hsource : String.ofList s.reader.ahead = "@2e" := by rw [← hahead]; rfl
  have hleft := hleft hother
  rw [hsource] at hleft
  exact ⟨hahead, hpreceding, (halike hahead hpreceding).1, hother, hleft⟩

end Scan

end PascalTokens
