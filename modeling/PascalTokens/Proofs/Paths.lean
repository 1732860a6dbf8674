import Mathlib.Data.List.TakeWhile
import PascalTokens.Files.Path

/-!
# PascalTokens.Proofs.Paths

The directories above a path, and its names.  The first directory above a path
is that of its front pieces, and those above it are the others
(`above_eq_cons`).  A path below a directory has the directory's names and one
more (`names_join`); the directory above it is the same one, but for slashes and
dots at the end that it is written without (`exists_above_join`).
-/

namespace PascalTokens

namespace Path

open Text

/-! ## the pieces of a path -/

/-- The names that pieces of a path are. -/
def namesOf (ps : List (List Char)) : List String := (ps.filter (· ≠ [])).map String.ofList

/-- The names of a path are found piece by piece. -/
theorem namesOf_append (ps qs : List (List Char)) :
    namesOf (ps ++ qs) = namesOf ps ++ namesOf qs := by
  simp [namesOf]

theorem names_eq (path : String) : names path = namesOf (pieces '/' path.toList) := rfl

/-- Whether a path has a first piece and some further ones, the last of them
first. -/
def HasPieces (path : String) (first : List Char) (later : List (List Char)) : Prop :=
  pieces '/' path.toList = first :: later.reverse

/-- Every path has pieces between its slashes. -/
theorem exists_hasPieces (path : String) : ∃ first later, HasPieces path first later := by
  cases hp : pieces '/' path.toList with
  | nil => exact absurd hp (pieces_ne_nil _ _)
  | cons first rest => exact ⟨first, rest.reverse, by rw [HasPieces, hp, List.reverse_reverse]⟩

section

variable {path : String} {first : List Char} {later : List (List Char)}

/-- No piece has a slash. -/
theorem HasPieces.plain (h : HasPieces path first later) : ∀ p ∈ first :: later, '/' ∉ p := by
  intro p hp
  have hmem : p ∈ pieces '/' path.toList := by
    rw [HasPieces] at h
    rw [h]
    simpa using hp
  exact separator_notMem_of_mem_pieces hmem

/-- The pieces with slashes between them are the path. -/
theorem HasPieces.toList_eq (h : HasPieces path first later) :
    path.toList = joined '/' (first :: later.reverse) := by
  rw [HasPieces] at h
  rw [← h, joined_pieces]

/-- The directories above a path are found from its pieces, dropped one by one at the end.
-/
theorem HasPieces.above_eq (h : HasPieces path first later) :
    above path = aboveAll first later := by
  rw [HasPieces] at h
  rw [above, h]
  simp only [List.reverse_reverse]

/-- The names of a path are those of its pieces. -/
theorem HasPieces.names_eq (h : HasPieces path first later) :
    names path = namesOf (first :: later.reverse) := by
  rw [HasPieces] at h
  rw [Path.names_eq, h]

/-- A path that is not empty has a piece that is not empty, or a slash. -/
theorem HasPieces.ne_nil (h : HasPieces path first later) (hne : path ≠ "") :
    first ≠ [] ∨ later ≠ [] := by
  cases first with
  | cons c first => exact .inl (List.cons_ne_nil _ _)
  | nil =>
      refine .inr fun hlater => hne (String.toList_eq_nil_iff.1 ?_)
      rw [h.toList_eq, hlater]
      rfl

/-- Pieces without slashes are the pieces of the path they are joined to. -/
theorem hasPieces_ofList_joined (hplain : ∀ p ∈ first :: later, '/' ∉ p) :
    HasPieces (String.ofList (joined '/' (first :: later.reverse))) first later := by
  rw [HasPieces, String.toList_ofList]
  exact pieces_joined (List.cons_ne_nil _ _) (by simpa using hplain)

/-! ## the directory of some pieces -/

/-- Idle pieces at the end, empty or a dot, are passed over on the way up. -/
theorem aboveAll_dropWhile (first : List Char) (later : List (List Char)) :
    aboveAll first (later.dropWhile isIdle) = aboveAll first later := by
  induction later with
  | nil => rfl
  | cons piece later ih =>
      rw [List.dropWhile_cons, aboveAll]
      by_cases hp : isIdle piece = true
      · rw [if_pos hp, if_pos hp, ih]
      · rw [if_neg hp, if_neg hp, aboveAll, if_neg hp]

/-- The directory of some pieces is the root, or is written like all of them but
the idle ones at the end. -/
theorem assemble_cases (first : List Char) (later : List (List Char)) :
    first = [] ∧ later.dropWhile isIdle = [] ∧ assemble first later = "/" ∨
      (first ≠ [] ∨ later.dropWhile isIdle ≠ []) ∧
        assemble first later =
          String.ofList (joined '/' (first :: (later.dropWhile isIdle).reverse)) := by
  unfold assemble
  cases hlater : later.dropWhile isIdle with
  | nil =>
      cases first with
      | nil => exact .inl ⟨rfl, rfl, rfl⟩
      | cons c first => exact .inr ⟨.inl (List.cons_ne_nil _ _), rfl⟩
  | cons piece more => exact .inr ⟨.inr (List.cons_ne_nil _ _), rfl⟩

/-- An assembled path is not empty. -/
theorem assemble_ne_empty (first : List Char) (later : List (List Char)) :
    assemble first later ≠ "" := by
  obtain ⟨-, -, hroot⟩ | ⟨hne, hjoined⟩ := assemble_cases first later
  · rw [hroot]
    decide
  · rw [hjoined]
    intro hempty
    have hnil : joined '/' (first :: (later.dropWhile isIdle).reverse) = [] := by
      rw [← String.toList_ofList (l := joined _ _), hempty]
      rfl
    obtain ⟨hfirst, hlater⟩ := joined_eq_nil hnil
    exact hne.elim (· hfirst) (· (List.reverse_eq_nil_iff.1 hlater))

section

variable (hplain : ∀ p ∈ first :: later, '/' ∉ p)
include hplain

/-- Without the idle pieces there is no slash either. -/
theorem plain_dropWhile : ∀ p ∈ first :: later.dropWhile isIdle, '/' ∉ p := by
  intro p hp
  rcases List.mem_cons.1 hp with rfl | hp
  · exact hplain _ List.mem_cons_self
  · exact hplain p (List.mem_cons_of_mem _ ((List.dropWhile_suffix _).subset hp))

/-- The directories above an assembled path are those of its pieces. -/
theorem above_assemble : above (assemble first later) = aboveAll first later := by
  rw [← aboveAll_dropWhile]
  obtain ⟨hfirst, hlater, hroot⟩ | ⟨-, hjoined⟩ := assemble_cases first later
  · rw [hroot, hfirst, hlater]
    decide
  · rw [hjoined]
    exact (hasPieces_ofList_joined (plain_dropWhile hplain)).above_eq

/-- The directory of some pieces has their names, but for dots at the end. -/
theorem exists_names_assemble :
    ∃ dots, (∀ name ∈ dots, name = ".") ∧
      namesOf (first :: later.reverse) = names (assemble first later) ++ dots := by
  have hnames : names (assemble first later) =
      namesOf (first :: (later.dropWhile isIdle).reverse) := by
    obtain ⟨hfirst, hlater, hroot⟩ | ⟨-, hjoined⟩ := assemble_cases first later
    · rw [hroot, hfirst, hlater]
      decide
    · rw [hjoined]
      exact (hasPieces_ofList_joined (plain_dropWhile hplain)).names_eq
  refine ⟨namesOf (later.takeWhile isIdle).reverse, fun name hname => ?_, ?_⟩
  · obtain ⟨piece, hpiece, rfl⟩ := List.mem_map.1 hname
    obtain ⟨hmem, hne⟩ := List.mem_filter.1 hpiece
    have hidle : isIdle piece = true :=
      (List.mem_takeWhile_imp (List.mem_reverse.1 hmem))
    obtain rfl : piece = ['.'] := by simpa [isIdle, of_decide_eq_true hne] using hidle
    rfl
  · rw [hnames, ← namesOf_append, List.cons_append, ← List.reverse_append,
      List.takeWhile_append_dropWhile]

end

/-- The directory of some pieces is written like a front part of them. -/
theorem assemble_isPrefix (hne : first ≠ [] ∨ later ≠ []) :
    (assemble first later).toList <+: joined '/' (first :: later.reverse) := by
  obtain ⟨rfl, -, hroot⟩ | ⟨-, hjoined⟩ := assemble_cases first later
  · have hlater : later.reverse ≠ [] := by simpa using hne
    rw [hroot, ← List.singleton_append, joined_append (List.cons_ne_nil _ _) hlater]
    exact ⟨_, rfl⟩
  · rw [hjoined, String.toList_ofList]
    conv => rhs; rw [← List.takeWhile_append_dropWhile (p := isIdle) (l := later)]
    rw [List.reverse_append, ← List.cons_append]
    exact joined_isPrefix (List.cons_ne_nil _ _) _

/-- The directories above a path are the one it is in, and those above that. -/
theorem above_eq_cons {parent : String} (h : parent? path = some parent) :
    above path = parent :: above parent := by
  have key {first : List Char} {later : List (List Char)} {more : List String}
      (hplain : ∀ p ∈ first :: later, '/' ∉ p) (habove : aboveAll first later = parent :: more) :
      more = above parent := by
    induction later with
    | nil =>
        rw [aboveAll] at habove
        split at habove
        · simp at habove
        · obtain ⟨rfl, rfl⟩ := List.cons.inj habove
          decide
    | cons piece later ih =>
        have hlater : ∀ p ∈ first :: later, '/' ∉ p := by
          simp only [List.mem_cons, forall_eq_or_imp] at hplain ⊢
          exact ⟨hplain.1, hplain.2.2⟩
        rw [aboveAll] at habove
        split at habove
        · exact ih hlater habove
        · obtain ⟨rfl, rfl⟩ := List.cons.inj habove
          rw [above_assemble hlater]
  obtain ⟨first, later, hpieces⟩ := exists_hasPieces path
  obtain ⟨more, hmore⟩ := List.head?_eq_some_iff.1 h
  rw [hmore, ← key hpieces.plain (hpieces.above_eq ▸ hmore)]

end

/-! ## a path below a directory -/

/-- Whether a text is a name in a directory. -/
structure IsName (name : String) : Prop where
  ne_empty : name ≠ ""
  ne_dot : name ≠ "."
  plain : '/' ∉ name.toList

section

variable {directory name : String}

/-- A name is no idle piece. -/
theorem IsName.not_isIdle (hname : IsName name) : isIdle name.toList = false := by
  have hempty : name.toList ≠ [] := fun h => hname.ne_empty (String.toList_eq_nil_iff.1 h)
  have hdot : name.toList ≠ ['.'] := fun h => hname.ne_dot (String.toList_inj.1 h)
  simp [isIdle, hempty, hdot]

/-- A name is the one name of itself. -/
theorem IsName.namesOf_eq (hname : IsName name) : namesOf [name.toList] = [name] := by
  have hempty : name.toList ≠ [] := fun h => hname.ne_empty (String.toList_eq_nil_iff.1 h)
  simp [namesOf, hempty]

/-- A name is joined to a directory with one slash between them, which may be there
already. -/
theorem join_eq (hne : directory ≠ "") (hname : IsName name) :
    join directory name =
      if endsInSlash directory then directory ++ name else directory ++ "/" ++ name := by
  have habsolute : isAbsolute name = false := by
    cases hcs : name.toList with
    | nil => simp [isAbsolute, hcs]
    | cons c cs =>
        have hc : c ≠ '/' := fun h => hname.plain (by rw [hcs, h]; exact List.mem_cons_self)
        simp [isAbsolute, hcs, hc]
  have hempty : directory.isEmpty = false := by
    rwa [Bool.eq_false_iff, ne_eq, String.isEmpty_iff]
  simp [join, habsolute, hempty]

/-- A joined path starts with the directory. -/
theorem isPrefix_join (hne : directory ≠ "") (hname : IsName name) :
    directory.toList <+: (join directory name).toList := by
  rw [join_eq hne hname]
  split
  · rw [String.toList_append]
    exact List.prefix_append _ _
  · rw [String.append_assoc, String.toList_append]
    exact List.prefix_append _ _

/-- A path of a file does not end in a slash. -/
theorem endsInSlash_join (directory : String) (hname : IsName name) :
    endsInSlash (join directory name) = false := by
  have hsuffix : name.toList <:+ (join directory name).toList := by
    unfold join
    split
    · exact List.suffix_refl _
    · split <;> exact String.toList_append ▸ List.suffix_append _ _
  obtain ⟨front, hfront⟩ := hsuffix
  have hne : name.toList ≠ [] := fun h => hname.ne_empty (String.toList_eq_nil_iff.1 h)
  have hlast : (front ++ name.toList).getLast? ≠ some '/' := by
    rw [List.getLast?_append, List.getLast?_eq_some_getLast hne, Option.some_or]
    exact fun h => hname.plain (Option.some.inj h ▸ List.getLast_mem hne)
  rw [endsInSlash, ← hfront, beq_eq_false_iff_ne]
  exact hlast

/-- The pieces of a path below a directory are those of the directory, but for
an empty one at the end, and one more. -/
theorem exists_hasPieces_join (hne : directory ≠ "") (hname : IsName name) :
    ∃ first later, HasPieces directory first later ∧
      above (join directory name) = assemble first later :: aboveAll first later ∧
      names (join directory name) = names directory ++ [name] := by
  have hidle : isIdle name.toList = false := hname.not_isIdle
  rw [join_eq hne hname]
  by_cases hslash : endsInSlash directory = true
  -- The slash at the end leaves an empty piece there, which the name takes the place of.
  · obtain ⟨front, hfront⟩ := List.getLast?_eq_some_iff.1 (beq_iff_eq.1 hslash)
    obtain ⟨first, later, hpieces⟩ := exists_hasPieces (String.ofList front)
    rw [HasPieces, String.toList_ofList] at hpieces
    have hdirectory : HasPieces directory first ([] :: later) := by
      rw [HasPieces, hfront, pieces_append, hpieces]
      simp [pieces]
    have hjoin : HasPieces (directory ++ name) first (name.toList :: later) := by
      rw [HasPieces, String.toList_append, hfront, List.append_assoc, List.singleton_append,
        pieces_append, hpieces, pieces_of_notMem hname.plain]
      simp
    have hnames : namesOf (first :: ([] :: later).reverse) = namesOf (first :: later.reverse) := by
      rw [List.reverse_cons, ← List.cons_append, namesOf_append]
      exact List.append_nil _
    rw [if_pos hslash, hjoin.above_eq, hjoin.names_eq, hdirectory.names_eq, hnames]
    refine ⟨first, [] :: later, hdirectory, by rw [aboveAll, hidle]; rfl, ?_⟩
    rw [List.reverse_cons, ← List.cons_append, namesOf_append, hname.namesOf_eq]
  · obtain ⟨first, later, hpieces⟩ := exists_hasPieces directory
    have hjoin : HasPieces (directory ++ "/" ++ name) first (name.toList :: later) := by
      have htext : (directory ++ "/" ++ name).toList = directory.toList ++ '/' :: name.toList := by
        simp
      rw [HasPieces] at hpieces ⊢
      rw [htext, pieces_append, hpieces, pieces_of_notMem hname.plain]
      simp
    rw [if_neg hslash, hjoin.above_eq, hjoin.names_eq, hpieces.names_eq]
    refine ⟨first, later, hpieces, by rw [aboveAll, hidle]; rfl, ?_⟩
    rw [List.reverse_cons, ← List.cons_append, namesOf_append, hname.namesOf_eq]

/-- A path below a directory has the directory's names and one more. -/
theorem names_join (hne : directory ≠ "") (hname : IsName name) :
    names (join directory name) = names directory ++ [name] := by
  obtain ⟨-, -, -, -, hnames⟩ := exists_hasPieces_join hne hname
  exact hnames

/-- The directory above a path below another is that other one, but for how its
end is written. -/
theorem exists_above_join (hne : directory ≠ "") (hname : IsName name) :
    ∃ parent, above (join directory name) = parent :: above directory ∧ parent ≠ "" ∧
      parent.toList <+: directory.toList ∧
      ∃ dots, (∀ n ∈ dots, n = ".") ∧ names directory = names parent ++ dots := by
  obtain ⟨first, later, hpieces, habove, -⟩ := exists_hasPieces_join hne hname
  refine ⟨assemble first later, ?_, assemble_ne_empty first later, ?_, ?_⟩
  · rw [habove, hpieces.above_eq]
  · rw [hpieces.toList_eq]
    exact assemble_isPrefix (hpieces.ne_nil hne)
  · rw [hpieces.names_eq]
    exact exists_names_assemble hpieces.plain

end

end Path

end PascalTokens
