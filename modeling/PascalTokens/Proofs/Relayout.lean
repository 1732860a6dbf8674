import PascalTokens.Proofs.Lookahead
import PascalTokens.Proofs.Pulls

/-!
# PascalTokens.Proofs.Relayout

What stands between the tokens of a source does not matter for the tokens.  The
gaps of a source can be replaced by any others that could stand there, as long
as tokens that were apart stay apart (`Layout.Relaid`).  Then a scan gives the
same tokens with the same faults, and records the characters of the new gaps.
The main statement is `pulls_of_relaid`.
-/

namespace PascalTokens.Scan

/-- Whether pieces can be put between any two tokens: they form a gap, and none
of their characters could go on a word. -/
def IsPlainGap (gap : List Skipped) : Prop :=
  IsClosedGap gap ∧ ∀ c ∈ gapUnrecognized gap, isWordPart c = false

/-- Whether one layout has the tokens of another with other gaps, after a token
or at the start.  Tokens that were apart stay apart, and nothing is put after a
token that took the rest of the source. -/
inductive Layout.Relaid : Option Reading → Layout → Layout → Prop
  | ending {last : Option Reading} {gap gap' : List Skipped} (plain : IsPlainGap gap')
      (alone : ∀ r ∈ last, r.TakesRest → gap' = gap) : Relaid last (.ending gap) (.ending gap')
  | token {last : Option Reading} {gap gap' : List Skipped} {r : Reading} {others others' : Layout}
      (plain : IsPlainGap gap') (apart : last ≠ none → gap ≠ [] → gap' ≠ [])
      (rest : Relaid (some r) others others') :
      Relaid last (.token gap r others) (.token gap' r others')

/-! ## what a gap starts with -/

/-- Whatever stands after a gap that is plain, the gap ends the token before it. -/
theorem IsPlainGap.breaks {gap : List Skipped} (h : IsPlainGap gap) (hne : gap ≠ [])
    (rest : List Char) : Breaks (gapText gap ++ rest) := by
  cases gap with
  | nil => exact absurd rfl hne
  | cons k gap =>
      obtain ⟨hclosed, hword⟩ := h
      have hproper := (hclosed k List.mem_cons_self).1
      cases k with
      | blank c => exact breaks_cons.2 (isBreaking_of_isBlank hproper)
      | comment body => exact breaks_cons.2 isBreaking_slash
      | openComment body => exact breaks_cons.2 isBreaking_slash
      | unrecognized c =>
          have hc : isWordPart c = false :=
            hword c (by simp [gapUnrecognized_cons, Skipped.unrecognized?])
          exact breaks_cons.2 (isBreaking_of_startsNothing hproper hc)

namespace Layout

variable {last : Option Reading} {preceding : Preceding} {r : Reading} {l l' : Layout}

/-- What stands after a token ends it, unless the next token stood and still
stands right there. -/
theorem Relaid.breaks_or_token (h : Relaid (some r) l l') :
    Breaks l'.text ∨ ∃ r₂ others others', l = .token [] r₂ others ∧ l' = .token [] r₂ others' ∧
      Relaid (some r₂) others others' := by
  cases h with
  | @ending _ _ gap' plain =>
      left
      by_cases hgap : gap' = []
      · rw [hgap]
        exact breaks_nil
      · simpa [text] using plain.breaks hgap []
  | @token _ gap gap' r₂ others others' plain apart rest =>
      by_cases hgap : gap' = []
      · have hnone : gap = [] := Classical.byContradiction fun hne =>
          apart (Option.some_ne_none r) hne hgap
        rw [hgap, hnone]
        exact .inr ⟨r₂, others, others', rfl, rfl, rest⟩
      · exact .inl (plain.breaks hgap _)

/-- What follows a token either breaks, or starts with the same character as before. -/
theorem Relaid.breaks_or_head?_eq (h : Relaid (some r) l l') (hstands : l.Stands preceding) :
    Breaks l'.text ∨ l.text.head? = l'.text.head? := by
  obtain hbreaks | ⟨r₂, others, others', rfl, rfl, -⟩ := h.breaks_or_token
  · exact .inl hbreaks
  · obtain ⟨c, tail, htext, -⟩ := hstands.2.1.exists_cons
    exact .inr (by simp [text, htext])

/-- What stands after a token agrees with what stood there before. -/
theorem Relaid.agrees (h : Relaid (some r) l l') (hstands : l.Stands preceding) :
    Agrees l.text l'.text := by
  obtain hbreaks | ⟨r₂, others, others', rfl, rfl, hrest⟩ := h.breaks_or_token
  · exact .inl hbreaks
  · obtain ⟨-, hread, hothers⟩ := hstands
    obtain ⟨c, tail, htext, -⟩ := hread.exists_cons
    refine .inr ⟨c, tail ++ others.text, tail ++ others'.text, by simp [text, htext],
      by simp [text, htext], ?_⟩
    cases tail with
    | nil => exact hrest.breaks_or_head?_eq hothers
    | cons d tail => exact .inr rfl

/-- A token is read again. -/
theorem Relaid.reads (h : Relaid (some r) l l') (hread : Reads preceding r l.text)
    (hstands : l.Stands (.ofToken r.token)) : Reads preceding r l'.text := by
  by_cases htakes : r.TakesRest
  · -- It took the rest of the source, so there is nothing after it.
    have hnil := hread.eq_nil_of_takesRest htakes
    cases h with
    | ending plain alone =>
        rw [alone r rfl htakes]
        exact hread
    | token => exact absurd hnil (text_ne_nil_of_stands hstands)
  · exact hread.of_agrees htakes (h.agrees hstands)

/-- The new layout stands where the old one does. -/
theorem Relaid.stands (h : Relaid last l l') (hstands : l.Stands preceding) :
    l'.Stands preceding := by
  induction h generalizing preceding with
  | ending plain => exact plain.1.isGap
  | token plain _ rest ih =>
      obtain ⟨-, hread, hothers⟩ := hstands
      exact ⟨plain.1, rest.reads hread hothers, ih hothers⟩

/-- Relaying changes no token. -/
theorem Relaid.readings_eq (h : Relaid last l l') : l'.readings = l.readings := by
  induction h with
  | ending => rfl
  | token _ _ _ ih => rw [readings, readings, ih]

/-- What is pulled from a layout, apart from regions, are the readings. -/
theorem map_token_fault?_pulls (place : Position) (l : Layout) :
    (l.pulls place).map (fun pull => (pull.pulled.token, pull.pulled.fault?)) =
      l.readings.map fun r => (r.token, r.fault) := by
  induction l generalizing place with
  | ending gap => rfl
  | token gap r others ih =>
      rw [pulls, List.map_cons, ih, r.token_pulledAt, r.fault?_pulledAt]
      rfl

end Layout

/-! ## full scans -/

/-- A full scan of a source with other gaps gives the same tokens with the same
faults, and records the characters of the new gaps that start no token. -/
theorem pulls_of_relaid (source : String) (l : Layout) (log log' : DiagnosticLog)
    (h : Layout.Relaid none (layout source) l) :
    let scan := (Scanner.ofSource source log).pulls
    let relaid := (Scanner.ofSource (String.ofList l.text) log').pulls
    relaid.1.map (fun pull => (pull.pulled.token, pull.pulled.fault?)) =
        scan.1.map (fun pull => (pull.pulled.token, pull.pulled.fault?)) ∧
      relaid.2.unrecognized.toList = l.unrecognized ∧
      (tokenize (String.ofList l.text) log').1 = (tokenize source log).1 := by
  intro scan relaid
  have hstands : (layout source).Stands .nothing := stands_layoutAfter .nothing source.toList
  have htext : (layout source).text = source.toList := text_layoutAfter .nothing source.toList
  have hstands' := h.stands hstands
  obtain ⟨hscan, -⟩ := Scanner.pulls_eq (s := .ofSource source log) hstands htext.symm
  obtain ⟨hrelaid, hunrecognized⟩ :=
    Scanner.pulls_eq (s := .ofSource (String.ofList l.text) log') hstands' String.toList_ofList
  have hlayout : layout (String.ofList l.text) = l :=
    layoutAfter_eq_iff.2 ⟨String.toList_ofList.symm, hstands'⟩
  refine ⟨?_, ?_, ?_⟩
  · rw [hrelaid, hscan, Layout.map_token_fault?_pulls, Layout.map_token_fault?_pulls, h.readings_eq]
  · exact hunrecognized.trans (List.nil_append _)
  · rw [tokenize_eq_tokens, tokenize_eq_tokens, hlayout, Layout.tokens, Layout.tokens,
      h.readings_eq]

theorem layout_minus : layout "a-1" =
    .token [] ⟨['a'], ⟨.identifier, "a"⟩, none⟩
      (.token [] ⟨['-'], ⟨.arithmeticOperator, "-"⟩, none⟩
        (.token [] ⟨['1'], ⟨.integerLiteral, "1"⟩, none⟩ (.ending []))) := by
  have hword : Item.next? .nothing ['a', '-', '1'] =
      some (.token ⟨['a'], ⟨.identifier, "a"⟩, none⟩) := by decide +kernel
  have hminus : Item.next? .operand ['-', '1'] =
      some (.token ⟨['-'], ⟨.arithmeticOperator, "-"⟩, none⟩) := by decide +kernel
  have hnumber : Item.next? .other ['1'] =
      some (.token ⟨['1'], ⟨.integerLiteral, "1"⟩, none⟩) := by decide +kernel
  have hitems : items .nothing ['a', '-', '1'] = [_, _, _] :=
    (items_of_next? hword).trans (congrArg _
      ((items_of_next? hminus).trans (congrArg _
        ((items_of_next? hnumber).trans (congrArg _ (items_nil _))))))
  rw [layout, layoutAfter, show "a-1".toList = ['a', '-', '1'] from rfl, hitems]
  rfl

/-- A comment and a stray character before and after the `-` of `a-1` leave it
an operator. -/
theorem pulls_of_relaid_minus :
    let scan := (Scanner.ofSource "a-1").pulls
    let relaid := (Scanner.ofSource "/**/@a/**/@-/**/@1/**/@").pulls
    relaid.1.map (fun pull => (pull.pulled.token, pull.pulled.fault?)) =
        scan.1.map (fun pull => (pull.pulled.token, pull.pulled.fault?)) ∧
      relaid.2.unrecognized.toList = ['@', '@', '@', '@'] ∧
      (tokenize "/**/@a/**/@-/**/@1/**/@").1 = (tokenize "a-1").1 := by
  let gap : List Skipped := [.comment [], .unrecognized '@']
  let l : Layout := .token gap ⟨['a'], ⟨.identifier, "a"⟩, none⟩
    (.token gap ⟨['-'], ⟨.arithmeticOperator, "-"⟩, none⟩
      (.token gap ⟨['1'], ⟨.integerLiteral, "1"⟩, none⟩ (.ending gap)))
  have hplain : IsPlainGap gap := by
    have hstray : startsNothing '@' = true ∧ isWordPart '@' = false := by decide +kernel
    simp [gap, IsPlainGap, IsClosedGap, Skipped.IsProper, Skipped.isOpen, commentEnd,
      gapUnrecognized, Skipped.unrecognized?, hstray]
  have hrelaid : Layout.Relaid none (layout "a-1") l := by
    rw [layout_minus]
    refine .token hplain (fun h => absurd rfl h) (.token hplain (fun _ h => absurd rfl h)
      (.token hplain (fun _ h => absurd rfl h) (.ending hplain fun r hr htakes => ?_)))
    obtain rfl := Option.some.inj hr
    simp [Reading.TakesRest] at htakes
  have htext : String.ofList l.text = "/**/@a/**/@-/**/@1/**/@" := rfl
  obtain ⟨hpulls, hunrecognized, htokens⟩ := pulls_of_relaid "a-1" l {} {} hrelaid
  rw [htext] at hpulls hunrecognized htokens
  exact ⟨hpulls, hunrecognized, htokens⟩

end PascalTokens.Scan
