import PascalTokens.Proofs.JsonReading
import PascalTokens.Proofs.JsonWriting
import PascalTokens.Report.Content
import PascalTokens.Report.Format

/-!
# PascalTokens.Proofs.JsonReport

The JSON form of a report tells what is in the report: `toJson_decodes`.  It is
a JSON document, of one value only, and that value gives back the tokens, the
mark of the end, the skipped characters and the messages.
-/

namespace PascalTokens

theorem Severity.ofName?_name (s : Severity) : ofName? s.name = some s := by cases s <;> decide

namespace Json

theorem natural?_natCast (n : Nat) : (Number.mk n 0).natural? = some n := by simp [Number.natural?]

/-- A number that a word can hold is decoded as that word. -/
theorem word?_toNat (w : UInt32) : (Value.number ⟨w.toNat, 0⟩).word? = some w := by
  have hw : w.toNat < UInt32.size := w.toNat_lt_size
  simp [Value.word?, natural?_natCast, hw]

end Json

namespace Report

open Json (Value)

/-- Values that are read one by one are read together. -/
theorem mapM_map_eq_some {α β γ : Type} {f : β → Option γ} {g : α → β} {k : α → γ}
    (h : ∀ a, f (g a) = some (k a)) (l : List α) : (l.map g).mapM f = some (l.map k) := by
  induction l with
  | nil => rfl
  | cons a l ih => simp [h, ih]

/-- A token is decoded from its JSON, lexeme and kind. -/
theorem ofValue?_tokenJson (t : Token) : Token.ofValue? (tokenJson t).toValue = some t := by
  simp [tokenJson, Json.toValue, Token.ofValue?, Value.member?, Value.under, Value.string?]

/-- A string of one character is decoded as that character. -/
theorem char?_singleton (c : Char) : (Value.string (String.singleton c)).char? = some c := by
  simp [Value.char?]

/-- A diagnostic is decoded from its JSON, with all that is shown of it. -/
theorem ofValue?_diagnosticJson (d : Diagnostic) :
    Message.ofValue? (diagnosticJson d).toValue = some (.ofDiagnostic d) := by
  cases hcode : d.code <;>
  simp [diagnosticJson, hcode, Json.toValue, Message.ofValue?, Message.ofDiagnostic,
    Value.member?, Value.under, Value.string?, Value.nullable?, Json.word?_toNat,
    Severity.ofName?_name]

/-- The whole content of a report is decoded from its JSON. -/
theorem ofValue?_json (r : Report) (showEndOfInput : Bool) :
    Content.ofValue? (r.json showEndOfInput).toValue = some (r.content showEndOfInput) := by
  have htokens := mapM_map_eq_some ofValue?_tokenJson r.tokens
  have hunrecognized := mapM_map_eq_some char?_singleton r.unrecognized
  have hmessages := mapM_map_eq_some ofValue?_diagnosticJson r.diagnostics
  cases showEndOfInput <;>
  simp [json, Json.toValue, Content.ofValue?, content, Value.member?, Value.under, Value.items?,
    Value.flag?, htokens, hunrecognized, hmessages, Function.comp_def]

/-- The JSON form of a message has nothing that `Message` leaves out. -/
theorem diagnosticJson_congr {d e : Diagnostic}
    (h : Message.ofDiagnostic d = Message.ofDiagnostic e) :
    diagnosticJson d = diagnosticJson e := by
  obtain ⟨hlevel, hcode, htext, hline, hcolumn⟩ := Message.mk.inj h
  cases hd : d.code <;> cases he : e.code <;> simp_all [diagnosticJson]

/-- Diagnostics that show the same are written alike. -/
theorem map_diagnosticJson_congr {ds es : List Diagnostic}
    (h : ds.map Message.ofDiagnostic = es.map Message.ofDiagnostic) :
    ds.map diagnosticJson = es.map diagnosticJson := by
  induction ds generalizing es with
  | nil => simp_all
  | cons d ds ih =>
      cases es with
      | nil => simp at h
      | cons e es =>
          obtain ⟨hd, hds⟩ := List.cons_eq_cons.1 h
          simp [diagnosticJson_congr hd, ih hds]

/-- Reports of the same content are written alike. -/
theorem json_congr {r s : Report} {b c : Bool} (h : r.content b = s.content c) :
    r.json b = s.json c := by
  obtain ⟨htokens, rfl, hunrecognized, hmessages⟩ := Content.mk.inj h
  simp [json, htokens, hunrecognized, map_diagnosticJson_congr hmessages]

/-- The JSON form of a report is a document of one value, in which any reader
finds all that the report tells.  So two reports have the same JSON form exactly
if they tell the same. -/
theorem toJson_decodes (r : Report) (showEndOfInput : Bool) :
    ∃ v, (∀ w, Json.IsDocument w (r.toJson showEndOfInput).toList ↔ w = v) ∧
      Json.read? (r.toJson showEndOfInput).toList = some v ∧
      Content.ofValue? v = some (r.content showEndOfInput) ∧
      ∀ (s : Report) (showEndOfInput' : Bool),
        s.toJson showEndOfInput' = r.toJson showEndOfInput ↔
          s.content showEndOfInput' = r.content showEndOfInput := by
  have hdocument (s : Report) (b : Bool) :
      Json.IsDocument (s.json b).toValue (s.toJson b).toList := by
    simpa [toJson] using Json.isDocument_pretty (s.json b) (.cons (c := '\n') rfl .nil)
  refine ⟨(r.json showEndOfInput).toValue, fun w => ⟨fun hw => hw.unique (hdocument _ _), ?_⟩,
    Json.read?_eq_some_iff.2 (hdocument _ _), ofValue?_json r showEndOfInput, fun s b => ⟨?_, ?_⟩⟩
  · rintro rfl
    exact hdocument _ _
  · intro htext
    have hvalue := (hdocument s b).unique (htext ▸ hdocument r showEndOfInput)
    have hcontent := ofValue?_json s b
    rw [hvalue, ofValue?_json] at hcontent
    exact (Option.some.inj hcontent).symm
  · intro hcontent
    simp [toJson, json_congr hcontent]

end Report

end PascalTokens
