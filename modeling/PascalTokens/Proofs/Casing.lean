import PascalTokens.Proofs.Lookahead
import PascalTokens.Proofs.ReservedWord

/-!
# PascalTokens.Proofs.Casing

Texts that differ only in the case of ASCII letters (`Text.Recased`).  What is
asked of a character ignores case if the answers for the capitals are those for
the small letters (`ignoresCase_of_capitals`), and what is asked of a text
ignores case if it can be asked of the text in small letters just as well
(`Recased.congr`).  Blanks, digits, the characters of words, places and
lower-casing all do; so a word is reserved in any case or in none
(`Recased.ofWord_eq`).
-/

namespace PascalTokens

namespace Text

/-! ## letters -/

/-- The ASCII capitals. -/
def capitals : List Char := (List.range 26).map fun i => Char.ofNat ('A'.toNat + i)

/-- Lower-casing changes the capitals and nothing else. -/
theorem mem_capitals_or_toLower_eq (c : Char) : c ∈ capitals ∨ c.toLower = c := by
  unfold Char.toLower
  split
  · next h =>
    have hle : 65 ≤ c.toNat ∧ c.toNat ≤ 90 := h
    refine .inl (List.mem_map.2 ⟨c.toNat - 65, List.mem_range.2 (by omega), ?_⟩)
    have hnumber : 'A'.toNat + (c.toNat - 65) = c.toNat := Nat.add_sub_cancel' hle.1
    rw [hnumber, Char.ofNat_toNat]
  · exact .inr rfl

/-- Whether something asked of a character has the same answer for a capital and
its small letter. -/
def IgnoresCase (f : Char → α) : Prop := ∀ c, f c.toLower = f c

/-- Case makes no difference if it makes none at the capitals. -/
theorem ignoresCase_of_capitals [DecidableEq α] {f : Char → α}
    (h : capitals.all (fun c => f c.toLower = f c) = true) : IgnoresCase f := by
  intro c
  rcases mem_capitals_or_toLower_eq c with hc | hc
  · exact of_decide_eq_true (List.all_eq_true.1 h c hc)
  · rw [hc]

/-- Two characters that differ in case only have the same value. -/
theorem IgnoresCase.eq {f : Char → α} (hf : IgnoresCase f) {c d : Char}
    (h : c.toLower = d.toLower) : f d = f c := by
  rw [← hf c, h, hf d]

/-- A character that is no letter has one case only. -/
theorem toLower_eq_iff {c d : Char} (hd : d.isAlpha = false) : c.toLower = d ↔ c = d := by
  have hletters : capitals.all (fun c => c.isAlpha && c.toLower.isAlpha) = true := by decide
  rcases mem_capitals_or_toLower_eq c with hc | hc
  · obtain ⟨hletter, hlower⟩ := Bool.and_eq_true_iff.1 (List.all_eq_true.1 hletters c hc)
    constructor
    · rintro rfl
      exact absurd (hd.symm.trans hlower) Bool.false_ne_true
    · rintro rfl
      exact absurd (hd.symm.trans hletter) Bool.false_ne_true
  · rw [hc]

/-- A character that is no ASCII letter has no other case. -/
theorem eq_of_toLower_eq {c d : Char} (hc : c.isAlpha = false) (h : c.toLower = d.toLower) :
    d = c :=
  (toLower_eq_iff hc).1 (h ▸ (toLower_eq_iff hc).2 rfl)

/-- Being a character that is no ASCII letter does not depend on case. -/
theorem ignoresCase_beq {c : Char} (hc : c.isAlpha = false) : IgnoresCase (· == c) := by
  intro d
  rw [Bool.eq_iff_iff, beq_iff_eq, beq_iff_eq, toLower_eq_iff hc]

/-! ## texts -/

/-- Whether two texts differ only in the case of ASCII letters. -/
def Recased (xs ys : List Char) : Prop := xs.map Char.toLower = ys.map Char.toLower

section

variable {c : Char} {xs ys zs : List Char}

theorem Recased.refl (xs : List Char) : Recased xs xs := rfl

/-- Only the empty text differs from the empty text in case only. -/
theorem recased_nil_iff : Recased [] ys ↔ ys = [] := by
  rw [Recased, List.map_nil, eq_comm, List.map_eq_nil_iff]

/-- A text that differs in case only falls into the same two parts. -/
theorem Recased.exists_of_append (h : Recased (xs ++ ys) zs) :
    ∃ xs' ys', zs = xs' ++ ys' ∧ Recased xs xs' ∧ Recased ys ys' := by
  rw [Recased, List.map_append, eq_comm] at h
  obtain ⟨xs', ys', rfl, hxs, hys⟩ := List.map_eq_append_iff.1 h
  exact ⟨xs', ys', rfl, hxs.symm, hys.symm⟩

/-- The first characters differ in case only, and so do the rests. -/
theorem Recased.exists_of_cons (h : Recased (c :: xs) zs) :
    ∃ c' xs', zs = c' :: xs' ∧ c.toLower = c'.toLower ∧ Recased xs xs' := by
  rw [Recased, List.map_cons, eq_comm] at h
  obtain ⟨c', xs', rfl, hc, hxs⟩ := List.map_eq_cons_iff.1 h
  exact ⟨c', xs', rfl, hc.symm, hxs.symm⟩

/-- Two parts that differ in case only make two texts that do. -/
theorem Recased.append {xs' ys' : List Char} (hx : Recased xs xs') (hy : Recased ys ys') :
    Recased (xs ++ ys) (xs' ++ ys') := by
  rw [Recased, List.map_append, List.map_append, hx, hy]

/-- Whether there are no letters in a text. -/
def isPlain (cs : List Char) : Bool := cs.all (!·.isAlpha)

/-- A text is plain if it has no ASCII letters. -/
theorem isPlain_iff : isPlain xs = true ↔ ∀ c ∈ xs, c.isAlpha = false := by
  simp [isPlain]

/-- A text without letters has one case only. -/
theorem Recased.eq_of_plain (h : Recased xs ys) (hxs : isPlain xs = true) : ys = xs := by
  rw [isPlain_iff] at hxs
  induction xs generalizing ys with
  | nil => exact recased_nil_iff.1 h
  | cons c xs ih =>
      obtain ⟨hc, hxs⟩ := List.forall_mem_cons.1 hxs
      obtain ⟨c', xs', rfl, hc', hxs'⟩ := h.exists_of_cons
      rw [eq_of_toLower_eq hc hc', ih hxs' hxs]

/-- Before a letter a text without letters is as it was. -/
theorem Recased.exists_of_cons_plain (h : Recased (c :: xs) zs) (hc : c.isAlpha = false) :
    ∃ xs', zs = c :: xs' ∧ Recased xs xs' := by
  obtain ⟨c', xs', rfl, hc', hxs⟩ := h.exists_of_cons
  rw [eq_of_toLower_eq hc hc']
  exact ⟨xs', rfl, hxs⟩

/-- Case does not change how many characters a text has. -/
theorem Recased.length_eq (h : Recased xs ys) : ys.length = xs.length := by
  simpa using (congrArg List.length h).symm

/-- Something asked of a text ignores case if it does not matter that the text is
put in small letters. -/
theorem Recased.congr {g : List Char → α} (hg : ∀ cs, g (cs.map Char.toLower) = g cs)
    (h : Recased xs ys) : g ys = g xs := by
  rw [← hg ys, ← h, hg]

/-- Whether all characters pass a test that ignores case does not depend on case. -/
theorem Recased.all_eq {q : Char → Bool} (hq : IgnoresCase q) (h : Recased xs ys) :
    ys.all q = xs.all q := by
  refine h.congr (g := (List.all · q)) fun cs => ?_
  rw [List.all_map]
  congr 1
  exact funext hq

/-- A test that ignores case is passed in both texts if it is passed in one. -/
theorem Recased.forall {q : Char → Bool} (hq : IgnoresCase q) (h : Recased xs ys)
    (hxs : ∀ c ∈ xs, q c = true) : ∀ c ∈ ys, q c = true := by
  rw [← List.all_eq_true] at hxs ⊢
  rw [h.all_eq hq, hxs]

/-- A character that is no ASCII letter is in both texts or in none. -/
theorem Recased.not_mem_of_plain (h : Recased xs ys) (hc : c.isAlpha = false) (hxs : c ∉ xs) :
    c ∉ ys := by
  have hother : IgnoresCase (· != c) := fun d => congrArg not (ignoresCase_beq hc d)
  have hall : ∀ d ∈ xs, (d != c) = true := fun d hd => bne_iff_ne.2 fun heq => hxs (heq ▸ hd)
  exact fun hmem => absurd rfl (bne_iff_ne.1 (h.forall hother hall c hmem))

/-- A text without letters that stands in a text stands there in any case. -/
theorem Recased.infix_of_plain {part : List Char} (h : Recased xs ys)
    (hpart : isPlain part = true) (hin : part <:+: ys) : part <:+: xs := by
  obtain ⟨before, after, rfl⟩ := hin
  obtain ⟨front, after', rfl, hfront, -⟩ := Recased.exists_of_append h.symm
  obtain ⟨before', part', rfl, -, hpart'⟩ := hfront.exists_of_append
  rw [hpart'.eq_of_plain hpart]
  exact ⟨before', after', rfl⟩

theorem toList_toLower (s : String) : s.toLower.toList = s.toList.map Char.toLower :=
  String.toList_map

/-- Two strings are equal in lower case exactly if they differ in case only. -/
theorem recased_ofList_toLower {xs ys : List Char} :
    (String.ofList xs).toLower = (String.ofList ys).toLower ↔ Recased xs ys := by
  rw [← String.toList_inj, toList_toLower, toList_toLower, String.toList_ofList,
    String.toList_ofList, Recased]

end

/-! ## places -/

/-- A step of a position does not depend on the case of the character. -/
theorem advance_toLower (p : Position) : IgnoresCase p.advance := by
  have hsize : IgnoresCase Char.utf8Size := ignoresCase_of_capitals (by decide)
  have hnewline : '\n'.isAlpha = false := by decide
  intro c
  simp only [Position.advance, toLower_eq_iff hnewline, hsize c]

/-- Two texts that differ in case only lead to the same position. -/
theorem Recased.after_eq {xs ys : List Char} (h : Recased xs ys) (p : Position) :
    p.after ys = p.after xs := by
  refine h.congr (g := p.after) fun cs => ?_
  induction cs generalizing p with
  | nil => rfl
  | cons c cs ih =>
      rw [List.map_cons, Position.after_cons, Position.after_cons, advance_toLower, ih]

end Text

open Text

/-! ## lower-casing -/

namespace Unicode

/-- Whether a letter with case comes first is the same in lower case. -/
theorem meetsCased_map_toLower (cs : List Char) :
    meetsCased (cs.map Char.toLower) = meetsCased cs := by
  have hignorable : IgnoresCase isCaseIgnorable := ignoresCase_of_capitals (by decide)
  have hcased : IgnoresCase isCased := ignoresCase_of_capitals (by decide)
  have hdrop : (cs.map Char.toLower).dropWhile isCaseIgnorable =
      (cs.dropWhile isCaseIgnorable).map Char.toLower := by
    rw [List.dropWhile_map]
    congr 2
    exact funext hignorable
  unfold meetsCased
  rw [hdrop]
  cases cs.dropWhile isCaseIgnorable with
  | nil => rfl
  | cons c rest => exact hcased c

/-- Lower-casing ASCII letters first does not change the lower-case form. -/
theorem lowercaseAfter_map_toLower (behind cs : List Char) :
    lowercaseAfter (behind.map Char.toLower) (cs.map Char.toLower) = lowercaseAfter behind cs := by
  have hlower : IgnoresCase lowercaseChar := ignoresCase_of_capitals (by decide +kernel)
  have hsigma : 'Σ'.isAlpha = false := by decide
  induction cs generalizing behind with
  | nil => rfl
  | cons c cs ih =>
      rw [List.map_cons, lowercaseAfter, lowercaseAfter, ← List.map_cons, ih]
      simp only [toLower_eq_iff hsigma, hlower c, meetsCased_map_toLower]

end Unicode

/-- A word is reserved in any case or in none. -/
theorem Text.Recased.ofWord_eq {xs ys : List Char} (h : Recased xs ys) :
    Kind.ofWord (String.ofList ys) = Kind.ofWord (String.ofList xs) := by
  have hlower : Unicode.lowercase (String.ofList ys) = Unicode.lowercase (String.ofList xs) := by
    refine h.congr (g := fun cs => Unicode.lowercase (String.ofList cs)) fun cs => ?_
    simp only [Unicode.lowercase, String.toList_ofList]
    exact congrArg String.ofList (Unicode.lowercaseAfter_map_toLower [] cs)
  have hreserved : isReserved (String.ofList ys) = isReserved (String.ofList xs) := by
    rw [Bool.eq_iff_iff, isReserved_iff, isReserved_iff, hlower]
  rw [Kind.ofWord, hreserved, Kind.ofWord]

/-! ## the alphabet of the language -/

/-- Whether a word starts with a character does not depend on its case. -/
theorem ignoresCase_isWordStart : IgnoresCase isWordStart := ignoresCase_of_capitals (by decide)

/-- Whether a word goes on with a character does not depend on its case. -/
theorem ignoresCase_isWordPart : IgnoresCase isWordPart := ignoresCase_of_capitals (by decide)

theorem ignoresCase_isDigit : IgnoresCase isDigit := ignoresCase_of_capitals (by decide)

/-- The ASCII letters can start a word. -/
theorem isWordStart_of_isAlpha {c : Char} (h : c.isAlpha = true) : isWordStart c = true := by
  have hsorted : Unicode.alphabeticRanges.Sorted := by decide +kernel
  rw [isWordStart, Unicode.isAlphabetic, Unicode.CodeRanges.has_iff hsorted]
  rcases Bool.or_eq_true_iff.1 h with hc | hc
  · have hbounds : 0x41 ≤ c.toNat ∧ c.toNat ≤ 0x5A := of_decide_eq_true hc
    exact ⟨(0x41, 0x5A), by decide, hbounds⟩
  · obtain ⟨hfirst, hlast⟩ := Bool.and_eq_true_iff.1 hc
    exact ⟨(0x61, 0x7A), by decide, of_decide_eq_true hfirst, of_decide_eq_true hlast⟩

/-- An ASCII letter starts a word. -/
theorem not_isAlpha_of_not_isWordStart {c : Char} (h : isWordStart c = false) :
    c.isAlpha = false := by
  rw [Bool.eq_false_iff] at h ⊢
  exact fun hc => h (isWordStart_of_isAlpha hc)

theorem not_isAlpha_of_isDigit {c : Char} (h : isDigit c = true) : c.isAlpha = false :=
  not_isAlpha_of_not_isWordStart (not_isWordStart_of_isDigit h)

theorem not_isAlpha_of_isBlank {c : Char} (h : isBlank c = true) : c.isAlpha = false :=
  not_isAlpha_of_not_isWordStart (not_isWordStart_of_not_isWordPart (not_isWordPart_of_isBlank h))

/-- A character that starts nothing is no ASCII letter. -/
theorem not_isAlpha_of_startsNothing {c : Char} (h : startsNothing c = true) :
    c.isAlpha = false := by
  simp only [startsNothing, Bool.and_eq_true, Bool.not_eq_true'] at h
  exact not_isAlpha_of_not_isWordStart h.1.1.2

/-- Whether a text goes on with a class that ignores case does not depend on case. -/
theorem Text.Recased.goesOn_eq {q : Char → Bool} (hq : IgnoresCase q) {xs ys : List Char}
    (h : Recased xs ys) : Scan.goesOn q ys = Scan.goesOn q xs := by
  refine h.congr (g := Scan.goesOn q) fun cs => ?_
  cases cs with
  | nil => rfl
  | cons c cs => exact hq c

end PascalTokens
