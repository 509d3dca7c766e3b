import WikiSite.Json.Value

/-!
# Writing JSON

The compact form: no blanks, members in their order. In a string the quote, the backslash and the control
characters are escaped and nothing else is.
-/

namespace WikiSite

namespace Json

/-- How one character stands in a written string. -/
def writeChar (c : Char) : Text :=
  if c == '"' then ['\\', '"']
  else if c == '\\' then ['\\', '\\']
  else if c.toNat < 0x20 then
    if c == '\n' then ['\\', 'n']
    else if c == '\r' then ['\\', 'r']
    else if c == '\t' then ['\\', 't']
    else if c.toNat == 8 then ['\\', 'b']
    else if c.toNat == 12 then ['\\', 'f']
    else ['\\', 'u', '0', '0', Nat.digitChar (c.toNat / 16), Nat.digitChar (c.toNat % 16)]
  else [c]

/-- A written string, in its quotes. -/
def writeString (t : Text) : Text := '"' :: (t.flatMap writeChar ++ ['"'])

/-- A written number. -/
def writeNumber : JsonNumber → Text
  | .int n => intText n
  | .real d => d.dataText

mutual

/-- The compact text of a value. -/
def write : Json → Text
  | .null => "null".toList
  | .bool true => "true".toList
  | .bool false => "false".toList
  | .num n => writeNumber n
  | .str t => writeString t
  | .arr [] => ['[', ']']
  | .arr (v :: rest) => '[' :: (write v ++ writeItems rest ++ [']'])
  | .obj [] => ['\x7b', '\x7d']
  | .obj ((name, v) :: rest) => '\x7b' :: (writeString name ++ ':' :: (write v ++ writeMembers rest ++ ['\x7d']))

/-- The items after the first, each after a comma. -/
def writeItems : List Json → Text
  | [] => []
  | v :: rest => ',' :: (write v ++ writeItems rest)

/-- The members after the first, each after a comma. -/
def writeMembers : List (Text × Json) → Text
  | [] => []
  | (name, v) :: rest => ',' :: (writeString name ++ ':' :: (write v ++ writeMembers rest))

end

@[simp] theorem write_str (t : Text) : (Json.str t).write = writeString t := rfl

@[simp] theorem write_arr_cons (v : Json) (items : List Json) :
    (Json.arr (v :: items)).write = '[' :: (v.write ++ writeItems items ++ [']']) := rfl

@[simp] theorem write_obj_cons (m : Text × Json) (members : List (Text × Json)) :
    (Json.obj (m :: members)).write =
      '\x7b' :: (writeString m.1 ++ ':' :: (m.2.write ++ writeMembers members ++ ['\x7d'])) := rfl

end Json

end WikiSite
