import PascalTokens.Reader
import PascalTokens.Scan.Event
import PascalTokens.Scan.Item

/-!
# PascalTokens.Scan.Scanner

A scanner reads a source one token at a time.  It can be pulled in two ways:
`pull` leaves an incomplete literal to the caller, and `next` reports it and
goes on with the token made of it.  Characters that start no token are skipped,
recorded and reported either way.

Both ways stop at the end of the source and stay there.  A full scan ends
because a pull that gives a token reads at least one character
(`length_ahead_pull_lt`).
-/

namespace PascalTokens.Scan

/-- The state of a scan. -/
structure Scanner where
  /-- Where the scanner stands. -/
  reader : Reader
  /-- What is remembered of the last token. -/
  preceding : Preceding := .nothing
  /-- Start of the last token read or character skipped. -/
  itemStart : Position := {}
  /-- Characters skipped since the record was last cleared. -/
  unrecognized : Array Char := #[]
  /-- Messages about the source, those of the time before the scan included. -/
  log : DiagnosticLog := {}
  /-- What happened so far. -/
  events : Array Event := #[]

/-- What a pull gives: a token, or an incomplete literal. -/
abbrev Pulled := Except Incomplete Token

/-- The token of a pull, whether complete or not. -/
def Pulled.token : Pulled → Token
  | .ok t => t
  | .error i => i.token

namespace Scanner

/-- A scanner at the start of a source, which adds to the messages of `log`. -/
def ofSource (source : String) (log : DiagnosticLog := {}) : Scanner :=
  { reader := .ofList source.toList, log }

/-- Where the scanner stands. -/
def position (s : Scanner) : Position := s.reader.position

/-- Whether the whole source has been read. -/
def atEnd (s : Scanner) : Bool := s.reader.atEnd

/-- The region from the start of the last item to where the scanner stands. -/
def region (s : Scanner) : Region := .between s.itemStart s.position

/-- Moves over the text of one item, which starts where the scanner stands. -/
def moveOver (s : Scanner) (text : List Char) : Scanner :=
  { s with itemStart := s.position, reader := s.reader.advanceBy text.length }

/-- Records an event. -/
def tell (s : Scanner) (e : Event) : Scanner := { s with events := s.events.push e }

/-- Reports a fault of the last item. -/
def report (s : Scanner) (fault : Fault) (region : Region) : Scanner :=
  { s with log := s.log.emit (fault.diagnostic region) }

/-- Passes over something that is no token. -/
def skip (s : Scanner) (skipped : Skipped) : Scanner :=
  let s := s.moveOver skipped.text
  match skipped with
  | .blank _ => s
  | .comment _ => s.tell (.comment true s.itemStart)
  | .openComment _ => s.tell (.comment false s.itemStart)
  | .unrecognized c =>
    let region := s.region
    let s := s.tell (.unrecognized c s.itemStart)
    { s with unrecognized := s.unrecognized.push c }.report (.unrecognizedChar c) region

/-- Takes a token that was read where the scanner stands. -/
def take (s : Scanner) (r : Reading) : Pulled × Scanner :=
  let s := s.moveOver r.text
  let s := { s with preceding := .ofToken r.token }
  match r.fault with
  | none => (.ok r.token, s.tell (.token r.token))
  | some fault =>
    (.error ⟨r.token, fault, s.region⟩,
      (s.tell (.incomplete fault s.itemStart)).tell (.token r.token))

/-- Moving over a text takes as many characters from what is ahead. -/
theorem ahead_moveOver (s : Scanner) (text : List Char) :
    (s.moveOver text).reader.ahead = s.reader.ahead.drop text.length :=
  Reader.ahead_advanceBy _ _

/-- Skipping a piece takes its text from what is ahead. -/
theorem ahead_skip (s : Scanner) (skipped : Skipped) :
    (s.skip skipped).reader.ahead = s.reader.ahead.drop skipped.text.length := by
  rw [← ahead_moveOver]
  cases skipped <;> rfl

/-- Taking a token takes its text from what is ahead. -/
theorem ahead_take (s : Scanner) (r : Reading) :
    (s.take r).2.reader.ahead = s.reader.ahead.drop r.text.length := by
  rw [← ahead_moveOver]
  unfold take
  split <;> rfl

/-- Reading an item shortens what is ahead. -/
theorem length_drop_lt {preceding : Preceding} {cs : List Char} {i : Item}
    (h : Item.next? preceding cs = some i) : (cs.drop i.text.length).length < cs.length := by
  have hne : i.text ≠ [] := Item.text_ne_nil h
  have hle := (Item.text_isPrefix h).length_le
  have := List.length_pos_iff.2 hne
  simp only [List.length_drop]
  omega

/-- Reads up to and over the next token.  An incomplete literal is not
reported; the caller gets it as it is.  At the end of the source there is
nothing more to get. -/
def pull (s : Scanner) : Option Pulled × Scanner :=
  match _h : Item.next? s.preceding s.reader.ahead with
  | none => (none, { s with itemStart := s.position })
  | some (.skipped skipped) => (s.skip skipped).pull
  | some (.token r) =>
    let (pulled, s) := s.take r
    (some pulled, s)
termination_by s.reader.ahead.length
decreasing_by
  rw [ahead_skip]
  exact length_drop_lt _h

/-- Reads up to and over the next token, and reports it if it is incomplete. -/
def next (s : Scanner) : Option Token × Scanner :=
  match s.pull with
  | (none, s) => (none, s)
  | (some (.ok token), s) => (some token, s)
  | (some (.error i), s) => (some i.token, s.report i.fault i.region)

/-- Forgets the characters recorded as skipped; what was reported stays. -/
def clearUnrecognized (s : Scanner) : Scanner := { s with unrecognized := #[] }

/-- A pull that gives a token has read something. -/
theorem length_ahead_pull_lt {s s' : Scanner} {pulled : Pulled} (h : s.pull = (some pulled, s')) :
    s'.reader.ahead.length < s.reader.ahead.length := by
  fun_induction pull s with
  | case1 => simp at h
  | case2 s skipped hi ih =>
      have := ih h
      have := length_drop_lt hi
      rw [ahead_skip] at *
      simp only [Item.text] at *
      omega
  | case3 s r hi pulled' s'' heq =>
      obtain ⟨-, rfl⟩ := Prod.mk.inj h
      have := length_drop_lt hi
      rw [Item.text, ← ahead_take, heq] at this
      exact this

/-- The same for a token of `next`. -/
theorem length_ahead_next_lt {s s' : Scanner} {token : Token} (h : s.next = (some token, s')) :
    s'.reader.ahead.length < s.reader.ahead.length := by
  unfold next at h
  split at h
  · simp at h
  · next hp => obtain ⟨-, rfl⟩ := Prod.mk.inj h; exact length_ahead_pull_lt hp
  · next hp => obtain ⟨-, rfl⟩ := Prod.mk.inj h; simpa [report] using length_ahead_pull_lt hp

/-- All tokens that are left, after those of `taken`, and the scanner at the
end of the source. -/
def restAfter (taken : Array Token) (s : Scanner) : Array Token × Scanner :=
  match _h : s.next with
  | (none, s) => (taken, s)
  | (some token, s) => restAfter (taken.push token) s
termination_by s.reader.ahead.length
decreasing_by exact length_ahead_next_lt _h

/-- All tokens that are left, and the scanner at the end of the source. -/
def rest (s : Scanner) : List Token × Scanner :=
  let (tokens, s) := s.restAfter #[]
  (tokens.toList, s)

end Scanner

/-- The tokens of a source, and the messages about it added to those of
`log`. -/
def tokenize (source : String) (log : DiagnosticLog := {}) : List Token × DiagnosticLog :=
  let (tokens, s) := (Scanner.ofSource source log).rest
  (tokens, s.log)

/-- The log entries of a full scan. -/
def trace (source : String) : List LogEvent :=
  (Scanner.ofSource source).rest.2.events.toList.map Event.logEvent

end PascalTokens.Scan
