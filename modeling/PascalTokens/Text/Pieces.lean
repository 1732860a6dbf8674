/-!
# PascalTokens.Text.Pieces

The pieces of a text between separators.  There is one more piece than there
are separators, and any piece may be empty.  The main statement is
`joined_pieces`: with the separators put back the pieces are the text, and
`pieces_lines`: lines that each end in a separator are the first pieces.
-/

namespace PascalTokens.Text

/-- The pieces of a text between the characters `separator`. -/
def pieces (separator : Char) : List Char → List (List Char)
  | [] => [[]]
  | c :: cs =>
    if c = separator then [] :: pieces separator cs
    else match pieces separator cs with
      | [] => [[c]]
      | piece :: rest => (c :: piece) :: rest

/-- Pieces with a separator between them. -/
def joined (separator : Char) : List (List Char) → List Char
  | [] => []
  | [piece] => piece
  | piece :: next :: rest => piece ++ separator :: joined separator (next :: rest)

/-- There is a piece before the first separator, though it may be empty. -/
theorem pieces_ne_nil (separator : Char) (cs : List Char) : pieces separator cs ≠ [] := by
  cases cs with
  | nil => simp [pieces]
  | cons c cs =>
      unfold pieces
      split
      · simp
      · split <;> simp

/-- The first character of the first piece is the first of the text. -/
theorem joined_cons_cons (separator c : Char) (piece : List Char) (rest : List (List Char)) :
    joined separator ((c :: piece) :: rest) = c :: joined separator (piece :: rest) := by
  cases rest <;> rfl

/-- Nothing of a text is lost between its pieces but the separators. -/
theorem joined_pieces (separator : Char) (cs : List Char) :
    joined separator (pieces separator cs) = cs := by
  induction cs with
  | nil => rfl
  | cons c cs ih =>
      unfold pieces
      split
      · next h =>
        subst h
        cases hp : pieces c cs with
        | nil => exact absurd hp (pieces_ne_nil c cs)
        | cons piece rest => rw [joined, ← hp, ih]; rfl
      · split
        · next hp => exact absurd hp (pieces_ne_nil separator cs)
        · next piece rest hp => rw [joined_cons_cons, ← hp, ih]

/-- No piece has a separator in it. -/
theorem separator_notMem_of_mem_pieces {separator : Char} {cs piece : List Char}
    (h : piece ∈ pieces separator cs) : separator ∉ piece := by
  induction cs generalizing piece with
  | nil => simp_all [pieces]
  | cons c cs ih =>
      unfold pieces at h
      split at h
      · rcases List.mem_cons.1 h with rfl | h
        · simp
        · exact ih h
      · next hc =>
        split at h
        · next hp => exact absurd hp (pieces_ne_nil separator cs)
        · next first rest hp =>
          rcases List.mem_cons.1 h with rfl | h
          · have : separator ∉ first := ih (by simp [hp])
            simp_all [eq_comm]
          · exact ih (by simp [hp, h])

section

variable {separator : Char}

/-- A separator divides the pieces before it from those after it. -/
theorem pieces_append (cs ds : List Char) :
    pieces separator (cs ++ separator :: ds) = pieces separator cs ++ pieces separator ds := by
  induction cs with
  | nil => simp [pieces]
  | cons c cs ih =>
      rw [List.cons_append, pieces, pieces, ih]
      by_cases hc : c = separator
      · simp [hc]
      · cases hp : pieces separator cs with
        | nil => exact absurd hp (pieces_ne_nil separator cs)
        | cons piece rest => simp [hc]

/-- A text without a separator is one piece. -/
theorem pieces_of_notMem {cs : List Char} (h : separator ∉ cs) : pieces separator cs = [cs] := by
  induction cs with
  | nil => rfl
  | cons c cs ih =>
      obtain ⟨hc, hcs⟩ := not_or.1 (mt List.mem_cons.2 h)
      rw [pieces, if_neg (Ne.symm hc), ih hcs]

/-- Two lists of pieces are joined with one separator between them. -/
theorem joined_append {ps qs : List (List Char)} (hp : ps ≠ []) (hq : qs ≠ []) :
    joined separator (ps ++ qs) = joined separator ps ++ separator :: joined separator qs := by
  induction ps with
  | nil => exact absurd rfl hp
  | cons p ps ih =>
      cases ps with
      | nil =>
          cases qs with
          | nil => exact absurd rfl hq
          | cons q qs => rfl
      | cons p' ps =>
          rw [List.cons_append, List.cons_append, joined, ← List.cons_append,
            ih (List.cons_ne_nil _ _), joined, List.append_assoc, List.cons_append]

/-- Only one empty piece makes the empty text. -/
theorem joined_eq_nil {p : List Char} {ps : List (List Char)}
    (h : joined separator (p :: ps) = []) :
    p = [] ∧ ps = [] := by
  cases ps with
  | nil => exact ⟨h, rfl⟩
  | cons q qs => simp [joined] at h

/-- The first pieces make the front of the text. -/
theorem joined_isPrefix {ps : List (List Char)} (hp : ps ≠ []) (qs : List (List Char)) :
    joined separator ps <+: joined separator (ps ++ qs) := by
  cases qs with
  | nil => simp
  | cons q qs =>
      rw [joined_append hp (List.cons_ne_nil _ _)]
      exact List.prefix_append _ _

/-- Texts without the separator are the pieces of what they are joined to. -/
theorem pieces_joined {ps : List (List Char)} (hne : ps ≠ []) (h : ∀ p ∈ ps, separator ∉ p) :
    pieces separator (joined separator ps) = ps := by
  induction ps with
  | nil => exact absurd rfl hne
  | cons p ps ih =>
      obtain ⟨hp, hps⟩ := List.forall_mem_cons.1 h
      cases ps with
      | nil => exact pieces_of_notMem hp
      | cons q qs =>
          rw [joined, pieces_append, pieces_of_notMem hp, ih (List.cons_ne_nil _ _) hps]
          rfl

/-- A line is the first piece of a text that goes on after its separator. -/
theorem pieces_line {line : List Char} (h : separator ∉ line) (rest : List Char) :
    pieces separator (line ++ separator :: rest) = line :: pieces separator rest := by
  rw [pieces_append, pieces_of_notMem h, List.singleton_append]

/-- Lines are the first pieces of a text that goes on after the last one's separator. -/
theorem pieces_lines {lines : List (List Char)} (h : ∀ line ∈ lines, separator ∉ line)
    (rest : List Char) :
    pieces separator (lines.flatMap (fun line => line ++ [separator]) ++ rest) =
      lines ++ pieces separator rest := by
  induction lines with
  | nil => rfl
  | cons line lines ih =>
      obtain ⟨hline, hlines⟩ := List.forall_mem_cons.1 h
      rw [List.flatMap_cons, List.append_assoc, List.append_assoc, List.singleton_append,
        pieces_line hline, ih hlines, List.cons_append]

/-- A line is known by the text that goes on after its separator, and so is what
comes after. -/
theorem line_inj {line line' rest rest' : List Char} (h : separator ∉ line)
    (h' : separator ∉ line') (heq : line ++ separator :: rest = line' ++ separator :: rest') :
    line = line' ∧ rest = rest' := by
  have hpieces := congrArg (pieces separator) heq
  rw [pieces_line h, pieces_line h'] at hpieces
  obtain rfl := (List.cons.inj hpieces).1
  exact ⟨rfl, (List.cons.inj (List.append_cancel_left heq)).2⟩

/-- A piece stands at the start of the text, or right after a separator. -/
theorem exists_of_mem_pieces {cs piece : List Char} (h : piece ∈ pieces separator cs) :
    piece <+: cs ∨ ∃ before after, cs = before ++ separator :: (piece ++ after) := by
  obtain ⟨front, back, hp⟩ := List.append_of_mem h
  have hprefix : piece <+: joined separator (piece :: back) :=
    joined_isPrefix (List.cons_ne_nil piece []) back
  have hjoined := joined_pieces separator cs
  rw [hp] at hjoined
  by_cases hfront : front = []
  · rw [hfront, List.nil_append] at hjoined
    exact .inl (hjoined ▸ hprefix)
  · rw [joined_append hfront (List.cons_ne_nil _ _)] at hjoined
    obtain ⟨after, hafter⟩ := hprefix
    exact .inr ⟨_, after, by rw [← hjoined, hafter]⟩

end

end PascalTokens.Text
