import Seer.State.Document

/-!
# The text of a state document

What `encoding/json` writes for a document: the fields in the order of the structure, the
entries of a map by their keys, times in UTC as in RFC 3339. Of its reader only the text of
one document is needed, which gives a codec for that document.
-/
namespace Seer.State

open Seer.Lib

/-! ## JSON -/

/-- A character inside a string; `Encode` also escapes what HTML would read. -/
def escapeChar (c : Char) : List Char :=
  let hexadecimal := Nat.toDigits 16 c.toNat
  match c with
  | '"' => ['\\', '"']
  | '\\' => ['\\', '\\']
  | '\n' => ['\\', 'n']
  | '\r' => ['\\', 'r']
  | '\t' => ['\\', 't']
  | '\x08' => ['\\', 'b']
  | '\x0c' => ['\\', 'f']
  | _ =>
    if c.toNat < 0x20 ∨ c.toNat ∈ [0x26, 0x3C, 0x3E, 0x2028, 0x2029] then
      ['\\', 'u'] ++ List.replicate (4 - hexadecimal.length) '0' ++ hexadecimal
    else [c]

def jsonString (text : String) : String :=
  String.singleton '"' ++ String.ofList (text.toList.flatMap escapeChar) ++ String.singleton '"'

def jsonArray (values : List String) : String :=
  String.singleton '[' ++ ",".intercalate values ++ String.singleton ']'

/-- An object from the texts of its values. -/
def jsonObject (fields : List (String × String)) : String :=
  String.singleton '{' ++
    (",".intercalate (fields.map fun (key, value) => jsonString key ++ ":" ++ value) ++
      String.singleton '}')

/-- A nil pointer or map is null. -/
def jsonOption {α : Type} (text : α → String) (value : Option α) : String :=
  (value.map text).getD "null"

def jsonMap {β : Type} (text : β → String) (table : Table String β) : String :=
  jsonObject (table.toList.map fun (key, value) => (key, text value))

/-! ## Times -/

/-- Year, month and day of a day counted from the first of January of the year 1. The years
are those that begin in March, so that the leap day is the last of its year. -/
def date (day : Nat) : Nat × Nat × Nat :=
  let days := day + 306
  let inEra := days % 146097
  let yearInEra := (inEra - inEra / 1460 + inEra / 36524 - inEra / 146096) / 365
  let inYear := inEra - (365 * yearInEra + yearInEra / 4 - yearInEra / 100)
  let month := (5 * inYear + 2) / 153
  let dayInMonth := inYear - (153 * month + 2) / 5 + 1
  let year := yearInEra + days / 146097 * 400
  if month < 10 then (year, month + 3, dayInMonth) else (year + 1, month - 9, dayInMonth)

/-- A number with leading zeros. -/
def digits (width number : Nat) : String :=
  let text := Nat.toDigits 10 number
  String.ofList (List.replicate (width - text.length) '0' ++ text)

/-- `time.RFC3339Nano`: the fraction without its last zeros. -/
def rfc3339 (time : Time) : String :=
  let seconds := time.toNat / 10 ^ 9
  let fraction := (digits 9 (time.toNat % 10 ^ 9)).toList.reverse.dropWhile (· == '0')
  let (year, month, day) := date (seconds / 86400)
  digits 4 year ++ "-" ++ digits 2 month ++ "-" ++ digits 2 day ++ "T" ++
    digits 2 (seconds / 3600 % 24) ++ ":" ++ digits 2 (seconds / 60 % 60) ++ ":" ++
    digits 2 (seconds % 60) ++
    (if fraction = [] then "" else "." ++ String.ofList fraction.reverse) ++ "Z"

example : rfc3339 0 = "0001-01-01T00:00:00Z" := by decide +kernel

example : rfc3339 (unixEpoch + 951782400 * second + 250) = "2000-02-29T00:00:00.00000025Z" := by
  decide +kernel

/-! ## The document -/

def timesText : Table String Time → String := jsonMap fun time => jsonString (rfc3339 time)

/-- `alarmCache.MarshalJSON`. -/
def alarmsText (alarms : SavedAlarms) : String :=
  jsonObject [
    ("sent_pd_alarms", jsonOption timesText alarms.sentPdAlarms),
    ("sent_tg_alarms", jsonOption timesText alarms.sentTgAlarms),
    ("sent_di_alarms", jsonOption timesText alarms.sentDiAlarms),
    ("sent_slk_alarms", jsonOption timesText alarms.sentSlkAlarms),
    ("sent_all_alarms", jsonOption (jsonMap timesText) alarms.allAlarms)]

/-- The line that `Encode` writes. -/
def documentText (document : StateDocument) : String :=
  jsonObject
    ((if document.version = 0 then [] else [("version", toString document.version)]) ++ [
      ("alarms", jsonOption alarmsText document.alarms),
      ("blocks", jsonOption (jsonMap fun blocks => jsonArray (blocks.map toString)) document.blocks),
      ("nodes_down", jsonOption (jsonMap timesText) document.nodesDown)]) ++ "\n"

theorem blank_jsonObject (fields : List (String × String)) (more : String) :
    blank (utf8 (jsonObject fields ++ more)) = false := by
  have brace : String.utf8EncodeChar '{' = [0x7B] := by decide
  simp [utf8, jsonObject, brace, blank, blankWithin, spaceWidth]

/-- `encoding/json` on the files of one state. -/
def stateCodec (state : SavedState) : StateCodec where
  encode written := .ok (utf8 (documentText written))
  decode data := if data = utf8 (documentText (document state)) then
      .ok (some (document state), [0x0A])
    else .error (.text "another file")
  decodeTrailing rest := if rest = [0x0A] then .eof else .value

theorem stateCodec_roundTrips (state : SavedState) : (stateCodec state).RoundTrips state where
  encoded := ⟨utf8 (documentText (document state)), rfl, blank_jsonObject _ _, [0x0A],
    by simp [stateCodec], by simp [stateCodec]⟩

end Seer.State
