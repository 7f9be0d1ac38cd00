import ExprLex.Decimal
import ExprLex.Text.Raw

/-!
# Payloads

Clients send settings as structured values of any shape. A setting that expects a flag goes by whether the value counts as
true, and one that expects a name takes the display of the value, whatever it is. Texts in them are as they were sent: raw.
-/

namespace ExprLex

/-- A structured value that a client sends. -/
inductive Payload where
  | null
  | flag (b : Bool)
  | int (n : Int)
  | real (x : Float)
  | text (t : RawText)
  | list (items : List Payload)
  /-- fields in the order they were sent in -/
  | record (fields : List (RawText × Payload))

namespace Payload

/-- Whether a value counts as true: null, false, zero, and an empty text, list or record do not. -/
def isTrue : Payload → Bool
  | .null => false
  | .flag b => b
  | .int n => n != 0
  | .real x => x != 0.0
  | .text t => !t.isEmpty
  | .list items => !items.isEmpty
  | .record fields => !fields.isEmpty

/-- The value of a field. -/
def field? (name : String) : Payload → Option Payload
  | .record fields => fields.lookup (RawText.ofText name.toList)
  | _ => none

mutual

/-- The display of a value inside of another one: texts are quoted, and so there are no surrogates in it. -/
def inner : Payload → Text
  | .null => "None".toList
  | .flag true => "True".toList
  | .flag false => "False".toList
  | .int n => (toString n).toList
  | .real x => (Decimal.render x).toList
  | .text t => t.quote
  | .list items => '[' :: innerItems items ++ [']']
  | .record fields => '\x7b' :: innerFields fields ++ ['\x7d']

/-- The displays of the items of a list, with commas between them. -/
def innerItems : List Payload → Text
  | [] => []
  | [item] => inner item
  | item :: rest => inner item ++ ',' :: ' ' :: innerItems rest

/-- The displays of the fields of a record, with commas between them. -/
def innerFields : List (RawText × Payload) → Text
  | [] => []
  | [(name, value)] => name.quote ++ ':' :: ' ' :: inner value
  | (name, value) :: rest => name.quote ++ ':' :: ' ' :: inner value ++ ',' :: ' ' :: innerFields rest

end

/-- The display of a value: a text is shown as it is. -/
def display : Payload → RawText
  | .text t => t
  | value => value.inner

end Payload

end ExprLex
