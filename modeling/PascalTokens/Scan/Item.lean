import PascalTokens.Scan.Reading

/-!
# PascalTokens.Scan.Item

A source is a sequence of items: tokens, and between them blanks, comments
and characters that start no token.  `Item.next?` finds the item that a text
starts with; the main statements, `Item.text_isPrefix` and `Item.text_ne_nil`,
say that it covers a non-empty front part of the text, so items follow one
another without a gap.

A comment runs from `/*` to the next `*/`, and to the end of the source if
there is none.  Comments do not nest.
-/

namespace PascalTokens.Scan

/-- What may stand between two tokens. -/
inductive Skipped
  /-- A blank. -/
  | blank (c : Char)
  /-- A comment, without its delimiters. -/
  | comment (body : List Char)
  /-- A comment that is not closed, without its opening delimiter. -/
  | openComment (body : List Char)
  /-- A character that starts no token. -/
  | unrecognized (c : Char)
deriving DecidableEq, Repr

/-- The text of what was skipped. -/
def Skipped.text : Skipped → List Char
  | blank c => [c]
  | comment body => '/' :: '*' :: body ++ ['*', '/']
  | openComment body => '/' :: '*' :: body
  | unrecognized c => [c]

/-- Whatever is skipped covers some text. -/
theorem Skipped.text_ne_nil (s : Skipped) : s.text ≠ [] := by cases s <;> simp [text]

/-- The text before the first `*/`, if there is one. -/
def commentBody? (cs : List Char) : Option (List Char) := go [] cs
where
  /-- Carries the text passed so far, the latest character first. -/
  go (passed : List Char) : List Char → Option (List Char)
    | [] => none
    | '*' :: '/' :: _ => some passed.reverse
    | c :: cs => go (c :: passed) cs

/-- The comment after an opening delimiter. -/
def readComment (cs : List Char) : Skipped :=
  match commentBody? cs with
  | some body => .comment body
  | none => .openComment cs

/-- A token, or something between tokens. -/
inductive Item
  | skipped (s : Skipped)
  | token (r : Reading)
deriving DecidableEq, Repr

namespace Item

/-- The text of an item. -/
def text : Item → List Char
  | skipped s => s.text
  | token r => r.text

/-- The item that a text starts with, given what stands before it; `none` at
the end of the source. -/
def next? (preceding : Preceding) : List Char → Option Item
  | [] => none
  | c :: rest =>
    if isBlank c then some (skipped (.blank c))
    else match c, rest with
      | '/', '*' :: body => some (skipped (readComment body))
      | c, rest =>
        match Reading.read? preceding (c :: rest) with
        | some r => some (token r)
        | none => some (skipped (.unrecognized c))

/-! ## An item is a front part of the text -/

/-- The body of a comment and its closing delimiter are the front of the text. -/
theorem commentBody?_go {passed cs body : List Char} (h : commentBody?.go passed cs = some body) :
    body ++ ['*', '/'] <+: passed.reverse ++ cs := by
  fun_induction commentBody?.go passed cs with
  | case1 => simp at h
  | case2 passed rest => obtain rfl := Option.some.inj h; exact ⟨rest, by simp⟩
  | case3 passed c cs _ ih => simpa using ih h

/-- A comment is the front of the text from its opening delimiter on. -/
theorem readComment_isPrefix (cs : List Char) : (readComment cs).text <+: '/' :: '*' :: cs := by
  unfold readComment
  split
  · next body h =>
      have := commentBody?_go h
      simpa [Skipped.text] using this
  · exact List.prefix_rfl

/-- An item covers a front part of the text. -/
theorem text_isPrefix {preceding : Preceding} {cs : List Char} {i : Item}
    (h : next? preceding cs = some i) : i.text <+: cs := by
  unfold next? at h
  split at h
  · simp at h
  · split at h
    · obtain rfl := Option.some.inj h
      simp [text, Skipped.text]
    · split at h
      · obtain rfl := Option.some.inj h
        exact readComment_isPrefix _
      · split at h
        · next hr => obtain rfl := Option.some.inj h; exact Reading.text_isPrefix hr
        · obtain rfl := Option.some.inj h
          simp [text, Skipped.text]

/-- An item covers some text. -/
theorem text_ne_nil {preceding : Preceding} {cs : List Char} {i : Item}
    (h : next? preceding cs = some i) : i.text ≠ [] := by
  unfold next? at h
  split at h
  · simp at h
  · split at h
    · obtain rfl := Option.some.inj h
      simp [text, Skipped.text_ne_nil]
    · split at h
      · obtain rfl := Option.some.inj h
        simp [text, Skipped.text_ne_nil]
      · split at h
        · next hr => obtain rfl := Option.some.inj h; exact Reading.text_ne_nil hr
        · obtain rfl := Option.some.inj h
          simp [text, Skipped.text_ne_nil]

/-- There is a next item exactly where there is text. -/
theorem next?_eq_none_iff {preceding : Preceding} {cs : List Char} :
    next? preceding cs = none ↔ cs = [] := by
  unfold next?
  split
  · simp
  · split
    · simp
    · split
      · simp
      · split <;> simp

end Item

end PascalTokens.Scan
