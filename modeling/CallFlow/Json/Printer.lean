import CallFlow.Json.Value

/-! The compact text of a JSON value: no blanks, fields in the order they are listed. -/

namespace CallFlow.Json
set_option autoImplicit false

def hexDigit (n : Nat) : Char := Nat.digitChar n

/-- A character inside a quoted text. Only quotes, backslashes and controls are escaped. -/
def escapeChar (c : Char) : List Char :=
  if c = '"' then ['\\', '"']
  else if c = '\\' then ['\\', '\\']
  else if c = '\x08' then ['\\', 'b']
  else if c = '\x0c' then ['\\', 'f']
  else if c = '\n' then ['\\', 'n']
  else if c = '\r' then ['\\', 'r']
  else if c = '\t' then ['\\', 't']
  else if c.toNat < 0x20 then
    ['\\', 'u', '0', '0', hexDigit (c.toNat / 16), hexDigit (c.toNat % 16)]
  else [c]

def stringText (s : String) : List Char := '"' :: s.toList.flatMap escapeChar ++ ['"']

mutual

def Value.text : Value → List Char
  | .null => "null".toList
  | .bool true => "true".toList
  | .bool false => "false".toList
  | .number n => n.text
  | .string s => stringText s
  | .array [] => ['[', ']']
  | .array (item :: items) => '[' :: (item.text ++ itemsText items)
  | .object [] => ['{', '}']
  | .object ((name, value) :: fields) =>
    '{' :: (stringText name ++ ':' :: (value.text ++ fieldsText fields))

def itemsText : List Value → List Char
  | [] => [']']
  | item :: items => ',' :: (item.text ++ itemsText items)

def fieldsText : List (String × Value) → List Char
  | [] => ['}']
  | (name, value) :: fields =>
    ',' :: (stringText name ++ ':' :: (value.text ++ fieldsText fields))

end

def Value.toText (v : Value) : String := String.ofList v.text

end CallFlow.Json
