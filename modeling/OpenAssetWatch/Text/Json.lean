import OpenAssetWatch.Clock
import OpenAssetWatch.Text.Unicode

namespace OpenAssetWatch.Text

/-- A JSON value as Python holds it; the numbers of a payload are finite, and a time stands for the text that spells it. -/
inductive Json where
  | null
  | bool (value : Bool)
  | number (value : ℚ)
  | string (text : String)
  | time (value : Time)
  | array (items : List Json)
  | object (entries : List (String × Json))

namespace Json

def isTruthy : Json → Bool
  | null => false
  | bool value => value
  | number value => value ≠ 0
  | string text => text ≠ ""
  | time _ => true
  | array items => !items.isEmpty
  | object entries => !entries.isEmpty

/-- Python's `or`. -/
def orElse (first second : Json) : Json := if first.isTruthy then first else second

/-- `dict.get`, with an empty dict for a value that is no object. -/
def get : Json → String → Json
  | object entries, key => (entries.lookup key).getD null
  | _, _ => null

def isObject : Json → Bool
  | object _ => true
  | _ => false

/-- The text of a string, and nothing of other values. -/
def text? : Json → Option String
  | string text => some text
  | _ => none

def isNull : Json → Bool
  | null => true
  | _ => false

def ofText (text : Option String) : Json := text.elim null string

end Json

def strip (text : String) : String := String.ofList (stripChars isSpace text.toList)

section

variable (printed : Json → String)

/-- `str`, where `printed` says how Python prints a value that is no string. -/
def str : Json → String
  | .string text => text
  | value => printed value

/-- `_clean_text`. -/
def cleanText (value : Json) : Option String :=
  match value with
  | .null => none
  | value => let text := strip (str printed value); if text = "" then none else some text

end

@[simp] theorem Json.get_object (entries : List (String × Json)) (key : String) :
    (Json.object entries).get key = (entries.lookup key).getD .null := rfl

end OpenAssetWatch.Text
