import PascalTokens.LogEvent

/-!
# PascalTokens.LogFilter

Which entries of the log are shown.

A filter is a list of rules.  A rule speaks of the entries from sources whose
names begin with its target, or of those among them that have a certain field,
and sets the least loud level that is shown of them.  Of the rules that speak
of an entry the narrowest counts, of equally narrow ones the last; an entry
that no rule speaks of is not shown.
-/

namespace PascalTokens

/-- What is shown of some entries. -/
structure LogRule where
  /-- How the names of the sources begin. -/
  target : String := ""
  /-- A field that the entries have, if the rule is only about such. -/
  field : Option String := none
  /-- The least loud level that is shown; nothing is, if there is none. -/
  limit : Option LogLevel
deriving DecidableEq, Repr

namespace LogRule

/-- Whether a rule speaks of an entry. -/
def concerns (r : LogRule) (e : LogEvent) : Bool :=
  r.target.toList.isPrefixOf e.source.path.toList && r.field.all (e.fieldNames.contains ·)

/-- Whether a rule is narrower than another about the same entry: its target
is longer, or of equal targets it alone asks for a field.  That the order does
not depend on the order of the rules, of two fields the one with the greater
name is taken for narrower. -/
def isNarrower (r other : LogRule) : Bool :=
  other.target.length < r.target.length ||
    other.target.length == r.target.length &&
      match other.field, r.field with
      | none, some _ => true
      | some a, some b => a < b
      | _, none => false

/-- Whether a rule lets a level through. -/
def admits (r : LogRule) (l : LogLevel) : Bool :=
  match r.limit with
  | some limit => l.rank ≤ limit.rank
  | none => false

end LogRule

/-- Which entries of the log are shown. -/
structure LogFilter where
  rules : List LogRule
deriving DecidableEq, Repr

namespace LogFilter

/-- Shows nothing. -/
def silent : LogFilter := ⟨[]⟩

/-- What is shown unless a filter is given: with `verbose` all but the finest
entries, else what the commands have to say and the errors of a scan. -/
def standard (verbose : Bool) : LogFilter :=
  if verbose then ⟨[⟨"", none, some .debug⟩]⟩
  else ⟨[⟨"pasct", none, some .info⟩, ⟨"pasc_lex", none, some .error⟩]⟩

/-- The rule that counts of two about the same entry, the second of them the
later one. -/
def closer (best : Option LogRule) (r : LogRule) : Option LogRule :=
  match best with
  | some b => if b.isNarrower r then some b else some r
  | none => some r

/-- The rule that counts for an entry. -/
def rule? (f : LogFilter) (e : LogEvent) : Option LogRule :=
  (f.rules.filter (·.concerns e)).foldl closer none

/-- Whether an entry is shown. -/
def admits (f : LogFilter) (e : LogEvent) : Bool :=
  match f.rule? e with
  | some r => r.admits e.level
  | none => false

end LogFilter

end PascalTokens
