import PascalTokens.Scan.Scanner

/-!
# PascalTokens.Scan.Call

Calls to a scanner, one after another.  A caller may pull each token in either
of the two ways, and mix them as it likes; in between it may clear the record of
skipped characters.
-/

namespace PascalTokens.Scan

/-- A call for one more token. -/
inductive Call
  /-- A call that leaves an incomplete literal to the caller. -/
  | pull
  /-- A call that reports an incomplete literal, and gives the token made of it. -/
  | next
deriving DecidableEq, Repr

/-- Something done to a scanner. -/
inductive Operation
  /-- A call that leaves an incomplete literal to the caller. -/
  | pull
  /-- A call that reports an incomplete literal. -/
  | next
  /-- A step of a loop over the tokens, which is a call of that kind too. -/
  | iterate
  /-- Clears the record of skipped characters. -/
  | clear
deriving DecidableEq, Repr

/-- The call that an operation is, if it is one. -/
def Operation.call? : Operation → Option Call
  | pull => some .pull
  | next | iterate => some .next
  | clear => none

namespace Scanner

/-- The answer to a call, and the scanner after it. -/
def call (s : Scanner) : Call → Option Pulled × Scanner
  | .pull => s.pull
  | .next => (s.next.1.map .ok, s.next.2)

/-- The answers to calls that are made one after another, and the scanner after
the last. -/
def calls (s : Scanner) : List Call → List (Option Pulled) × Scanner
  | [] => ([], s)
  | c :: cs =>
    let (answer, s) := s.call c
    let (answers, s) := s.calls cs
    (answer :: answers, s)

@[simp] theorem calls_nil (s : Scanner) : s.calls [] = ([], s) := rfl

/-- The first call is made, and the others by the scanner that it leaves. -/
theorem calls_cons (s : Scanner) (c : Call) (cs : List Call) :
    s.calls (c :: cs) =
      ((s.call c).1 :: ((s.call c).2.calls cs).1, ((s.call c).2.calls cs).2) := rfl

/-- The answers to the calls among some operations, which are done one after
another, and the scanner after the last. -/
def perform (s : Scanner) : List Operation → List (Option Pulled) × Scanner
  | [] => ([], s)
  | o :: os =>
    match o.call? with
    | none => s.clearUnrecognized.perform os
    | some c =>
      let (answer, s) := s.call c
      let (answers, s) := s.perform os
      (answer :: answers, s)

@[simp] theorem perform_nil (s : Scanner) : s.perform [] = ([], s) := rfl

/-- An operation that is no call clears the record, and answers nothing. -/
theorem perform_clear {o : Operation} (h : o.call? = none) (s : Scanner) (os : List Operation) :
    s.perform (o :: os) = s.clearUnrecognized.perform os := by
  simp [perform, h]

/-- An operation that is a call answers as the call does. -/
theorem perform_call {o : Operation} {c : Call} (h : o.call? = some c) (s : Scanner)
    (os : List Operation) :
    s.perform (o :: os) =
      ((s.call c).1 :: ((s.call c).2.perform os).1, ((s.call c).2.perform os).2) := by
  simp [perform, h]

end Scanner

end PascalTokens.Scan
