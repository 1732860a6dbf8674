import PascalTokens.Pattern.Sign

/-!
# PascalTokens.Pattern.Set

Sets of characters in patterns, between square brackets:

1. a caret after the opening bracket negates the set;
2. hyphens at the front, or else a closing bracket there, stand for themselves;
3. the parts are signs, ranges that do not run backwards, and sets;
4. `&&`, `--` and `~~` are operators between parts.
-/

namespace PascalTokens

namespace Pattern

/-- A place in a set. -/
inductive SetPlace
  /-- After the opening bracket. -/
  | opened
  /-- After the caret that negates the set. -/
  | negated
  /-- After hyphens at the front. -/
  | hyphens
  /-- Between the parts. -/
  | between
  /-- After a sign that may begin a range. -/
  | after (first : Sign)
  /-- After that sign and a hyphen. -/
  | range (first : Sign)
  /-- After the closing bracket. -/
  | ended
deriving DecidableEq, Repr

/-- A place in sets that lie in each other: the number of the outer ones, and
the place in the innermost. -/
structure SetPosition where
  outer : Nat := 0
  place : SetPlace := .opened
deriving DecidableEq, Repr

namespace SetPosition

/-- The signs that are an operator when they are doubled. -/
def operators : List Sign := [.plain '&', .plain '-', .plain '~']

/-- The place after the end of a set. -/
def close (p : SetPosition) : SetPosition :=
  match p.outer with
  | 0 => { p with place := .ended }
  | outer + 1 => ⟨outer, .between⟩

/-- The place after a sign where a part begins. -/
def part (p : SetPosition) : Sign → SetPosition
  | .plain '[' => ⟨p.outer + 1, .opened⟩
  | .plain ']' => p.close
  | s => { p with place := .after s }

/-- The place after a sign that can stand in sets, if it can stand here.  A
hyphen at the end of a set makes no range. -/
def step (flags : Flags) (p : SetPosition) (s : Sign) : Option SetPosition :=
  match p.place, s with
  | .opened, .plain '^' => if flags.allowsOthers then some { p with place := .negated } else none
  | .opened, .plain '-' | .negated, .plain '-' | .hyphens, .plain '-' =>
    some { p with place := .hyphens }
  | .opened, .plain ']' | .negated, .plain ']' => some { p with place := .between }
  | .after first, s =>
    if s = first ∧ s ∈ operators then some { p with place := .between }
    else if s = .plain '-' then some { p with place := .range first }
    else some (p.part s)
  | .range _, .plain ']' => some p.close
  | .range _, .plain '-' => some { p with place := .between }
  | .range first, s => do
    let low ← first.char?
    let high ← s.char?
    if low.toNat ≤ high.toNat then some { p with place := .between } else none
  | _, s => some (p.part s)

end SetPosition

end Pattern

end PascalTokens
