import PascalTokens.Proofs.Lines
import PascalTokens.ReservedWord
import PascalTokens.Text.Bytes

/-!
# PascalTokens.Proofs.ReservedWord

A word is reserved exactly if its lower-case form is in the table
(`isReserved_iff`).  The bound on the bytes of a reserved word rejects nothing,
because lower-casing to an ASCII text saves bytes in one character only: the
kelvin sign has three, and lowers to a `k` of one.

The main statement, `isReserved_iff_mem_reservedWords`, puts together what has
to agree: the bound, the words that are spelled out, the table and its listing.
-/

namespace PascalTokens

namespace Unicode

/-- The most bytes of a text that lowers to a given ASCII text. -/
def mostBytes : List Char → Nat
  | [] => 0
  | c :: cs => (if c = 'k' then 3 else 1) + mostBytes cs

/-- The bound on the bytes is found part by part. -/
theorem mostBytes_append (xs ys : List Char) :
    mostBytes (xs ++ ys) = mostBytes xs + mostBytes ys := by
  induction xs with
  | nil => simp [mostBytes]
  | cons c xs ih => rw [List.cons_append, mostBytes, mostBytes, ih, Nat.add_assoc]

/-- Whether a run of lower-case mappings gives no ASCII character. -/
def LowercaseRun.AboveAscii (r : LowercaseRun) : Prop :=
  128 ≤ r.first + r.offset ∧ r.last + r.offset < 0xD800 ∨
    0xE000 ≤ r.first + r.offset ∧ r.last + r.offset < 0x110000

instance (r : LowercaseRun) : Decidable r.AboveAscii :=
  inferInstanceAs (Decidable (_ ∨ _))

/-- Only the ASCII capitals and the kelvin sign lower to ASCII characters. -/
theorem lowercaseRuns_aboveAscii :
    ∀ r ∈ lowercaseRuns, r.last < 128 ∨ r.first = 0x212A ∧ r.last = 0x212A ∧ r.offset = -8383 ∨
      r.AboveAscii := by decide +kernel

/-- Lower-casing by an offset does not lead into ASCII. -/
theorem le_toNat_lower {r : LowercaseRun} {n : Nat} (hr : r.AboveAscii) (hfirst : r.first ≤ n)
    (hlast : n ≤ r.last) : 128 ≤ (Char.ofNat (n + r.offset).toNat).toNat := by
  have hvalid : (n + r.offset).toNat.isValidChar := by
    rcases hr with hr | hr
    · exact .inl (by omega)
    · exact .inr (by omega)
  rw [Char.ofNat, dif_pos hvalid]
  have hvalue : (Char.ofNatAux (n + r.offset).toNat hvalid).toNat = (n + r.offset).toNat := rfl
  rw [hvalue]
  rcases hr with hr | hr <;> omega

theorem utf8Size_eq_one_of_lt {c : Char} (h : c.toNat < 128) : c.utf8Size = 1 := by
  have hle : c.val ≤ 0x7F := by
    rw [UInt32.le_iff_toNat_le]
    exact Nat.le_of_lt_succ h
  simp [Char.utf8Size, hle]

theorem mostBytes_singleton_pos (c : Char) : 1 ≤ mostBytes [c] := by
  simp only [mostBytes]
  split <;> omega

/-- A character that lowers to ASCII has no more bytes than its lower form
accounts for. -/
theorem utf8Size_le_of_lowercaseChar {c : Char} (h : ∀ d ∈ lowercaseChar c, d.toNat < 128) :
    c.utf8Size ≤ mostBytes (lowercaseChar c) := by
  unfold lowercaseChar at h ⊢
  split at h
  · exact absurd (h '\u0307' (by decide)) (by decide)
  · next hdotted =>
    simp only [hdotted, if_false]
    split at h
    · next r hfind =>
      have hmem := List.mem_of_find?_eq_some hfind
      have hhas := List.find?_some hfind
      simp only [LowercaseRun.has, Bool.and_eq_true, decide_eq_true_eq] at hhas
      obtain ⟨⟨hfirst, hlast⟩, -⟩ := hhas
      rcases lowercaseRuns_aboveAscii r hmem with hascii | ⟨hf, hl, hoffset⟩ | habove
      · rw [utf8Size_eq_one_of_lt (by omega)]
        exact mostBytes_singleton_pos _
      · have hkelvin : '\u212A'.toNat = 0x212A := rfl
        have hc : c = '\u212A' := Char.toNat_inj.1 (by omega)
        subst hc
        rw [hoffset]
        decide
      · have hlower := h _ List.mem_cons_self
        have := le_toNat_lower habove hfirst hlast
        omega
    · have hlt := h c List.mem_cons_self
      rw [utf8Size_eq_one_of_lt hlt]
      exact mostBytes_singleton_pos c

/-- A text whose lower case is ASCII has no more bytes than the bound on that. -/
theorem byteLength_le_of_lowercaseAfter {behind cs : List Char}
    (h : ∀ d ∈ lowercaseAfter behind cs, d.toNat < 128) :
    Text.byteLength cs ≤ mostBytes (lowercaseAfter behind cs) := by
  induction cs generalizing behind with
  | nil => simp [lowercaseAfter]
  | cons c cs ih =>
      have hsigma : c ≠ 'Σ' := by
        rintro rfl
        have hlower : ∃ d ∈ lowercaseAfter behind ('Σ' :: cs), 128 ≤ d.toNat := by
          simp only [lowercaseAfter, if_true]
          split
          · exact ⟨'ς', List.mem_cons_self, by decide⟩
          · exact ⟨'σ', List.mem_cons_self, by decide⟩
        obtain ⟨d, hd, hle⟩ := hlower
        have := h d hd
        omega
      simp only [lowercaseAfter, hsigma, if_false, List.mem_append] at h ⊢
      have hchar := utf8Size_le_of_lowercaseChar fun d hd => h d (.inl hd)
      have hrest := ih fun d hd => h d (.inr hd)
      rw [Text.byteLength_cons, mostBytes_append]
      omega

theorem utf8ByteSize_ofList (cs : List Char) :
    (String.ofList cs).utf8ByteSize = Text.byteLength cs := by
  induction cs with
  | nil => rfl
  | cons c cs ih =>
      have hcons : String.ofList (c :: cs) = String.singleton c ++ String.ofList cs := by
        rw [String.singleton_eq_ofList, ← String.ofList_append]
        rfl
      rw [hcons, String.utf8ByteSize_append, String.utf8ByteSize_singleton, ih,
        Text.byteLength_cons]

end Unicode

/-- The reserved words are ASCII, and no word with more bytes than the longest
of them lowers to one. -/
theorem reservedWords_ascii :
    ∀ word ∈ reservedWords, word ≠ "" ∧ word.toList.all (·.toNat < 128) = true ∧
      Unicode.mostBytes word.toList ≤ longestReserved := by decide +kernel

/-- The bound on the bytes of a word rejects no word whose lower-case form is in the
table. -/
theorem utf8ByteSize_le_of_lowercase_mem {word : String}
    (h : Unicode.lowercase word ∈ reservedWords) :
    word.utf8ByteSize ≤ longestReserved ∧ word ≠ "" := by
  obtain ⟨hne, hascii, hsum⟩ := reservedWords_ascii _ h
  simp only [Unicode.lowercase, String.toList_ofList, List.all_eq_true, decide_eq_true_eq]
    at hascii hsum
  constructor
  · rw [← String.ofList_toList (s := word), Unicode.utf8ByteSize_ofList]
    exact Nat.le_trans (Unicode.byteLength_le_of_lowercaseAfter hascii) hsum
  · rintro rfl
    exact hne rfl

/-- The test for reserved words is a look-up of the lower-case form. -/
theorem isReserved_iff {word : String} :
    isReserved word = true ↔ Unicode.lowercase word ∈ reservedWords := by
  simp only [isReserved, Bool.and_eq_true, decide_eq_true_eq, isReservedLower_iff]
  exact ⟨And.right, fun h => ⟨utf8ByteSize_le_of_lowercase_mem h, h⟩⟩

/-- The lines of the listing are the words of the table. -/
theorem lines_reservedListing :
    Text.lines reservedListing.toList = reservedWords.map String.toList := by
  have hplain : ∀ w ∈ reservedWords.map String.toList, '\n' ∉ w ∧ '\r' ∉ w := by decide +kernel
  rw [reservedListing, String.toList_append, String.toList_intercalate]
  exact Text.lines_intercalate (by simp [reservedWords]) hplain

/-- A word is reserved exactly if its lower-case form is in the table, so the bound
on its bytes rejects no such word; the words that are spelled out are those of the
table; and a word in lower case is reserved exactly if it is a line of the
listing. -/
theorem isReserved_iff_mem_reservedWords (word : String) :
    (isReserved word = true ↔ Unicode.lowercase word ∈ reservedWords) ∧
      (Unicode.lowercase word ∈ reservedWords →
        word.utf8ByteSize ≤ longestReserved ∧ word ≠ "") ∧
      (isReservedLower word = true ↔ word ∈ reservedWords) ∧
      (Unicode.lowercase word = word →
        (isReserved word = true ↔ word.toList ∈ Text.lines reservedListing.toList)) := by
  refine ⟨isReserved_iff, utf8ByteSize_le_of_lowercase_mem, isReservedLower_iff, fun hlower => ?_⟩
  rw [isReserved_iff, hlower, lines_reservedListing]
  simp only [List.mem_map, String.toList_inj, exists_eq_right]

/-- The kelvin sign has two bytes more than the letter it lowers to. -/
theorem isReserved_iff_mem_reservedWords_kelvin :
    "pac\u212Aed".utf8ByteSize = "packed".utf8ByteSize + 2 ∧
      Unicode.lowercase "pac\u212Aed" ∈ reservedWords ∧ isReserved "pac\u212Aed" = true ∧
      "packed".toList ∈ Text.lines reservedListing.toList := by
  have hlower : Unicode.lowercase "pac\u212Aed" = "packed" := by decide +kernel
  have hsame : Unicode.lowercase "packed" = "packed" := by decide +kernel
  have hmem : "packed" ∈ reservedWords := by decide
  have hreserved := (isReserved_iff_mem_reservedWords "packed").1.2 (by rw [hsame]; exact hmem)
  have hkelvin := (isReserved_iff_mem_reservedWords "pac\u212Aed").1
  rw [hlower] at hkelvin ⊢
  exact ⟨by decide, hmem, hkelvin.2 hmem,
    ((isReserved_iff_mem_reservedWords "packed").2.2.2 hsame).1 hreserved⟩

end PascalTokens
