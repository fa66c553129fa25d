import NCBlock.Text.Basic

/-!
JSON values as trees, and their two layouts: on one line without spaces, and with one member or item
a line, indented by two spaces a level. A number is kept as the text it is written with.
-/

namespace NCBlock

inductive Json
  | null
  | number (text : Text)
  | string (value : Text)
  | array (items : List Json)
  | object (members : List (Text × Json))

namespace Json

/-- Quotes, backslashes and the characters below the space are escaped, and nothing else. -/
def escape (c : Char) : Text :=
  if c = '"' then ['\\', '"']
  else if c = '\\' then ['\\', '\\']
  else if c = '\n' then ['\\', 'n']
  else if c = '\r' then ['\\', 'r']
  else if c = '\t' then ['\\', 't']
  else if c = '\x08' then ['\\', 'b']
  else if c = '\x0c' then ['\\', 'f']
  else if c.toNat < 0x20 then
    ['\\', 'u', '0', '0', (c.toNat / 16).digitChar, (c.toNat % 16).digitChar]
  else [c]

def quoted (t : Text) : Text := '"' :: t.flatMap escape ++ ['"']

mutual

def compact : Json → Text
  | .null => "null".toList
  | .number text => text
  | .string value => quoted value
  | .array items => '[' :: compactItems items ++ [']']
  | .object members => '{' :: compactMembers members ++ ['}']

def compactItems : List Json → Text
  | [] => []
  | [item] => item.compact
  | item :: next :: rest => item.compact ++ ',' :: compactItems (next :: rest)

def compactMembers : List (Text × Json) → Text
  | [] => []
  | [(name, value)] => quoted name ++ ':' :: value.compact
  | (name, value) :: next :: rest =>
    quoted name ++ ':' :: value.compact ++ ',' :: compactMembers (next :: rest)

end

/-- The start of a line at a level of nesting. -/
def newline (level : Nat) : Text := '\n' :: List.replicate (2 * level) ' '

mutual

def pretty (level : Nat) : Json → Text
  | .null => "null".toList
  | .number text => text
  | .string value => quoted value
  | .array [] => ['[', ']']
  | .array (item :: rest) =>
    '[' :: prettyItems (level + 1) (item :: rest) ++ newline level ++ [']']
  | .object [] => ['{', '}']
  | .object (member :: rest) =>
    '{' :: prettyMembers (level + 1) (member :: rest) ++ newline level ++ ['}']

def prettyItems (level : Nat) : List Json → Text
  | [] => []
  | [item] => newline level ++ item.pretty level
  | item :: next :: rest =>
    newline level ++ item.pretty level ++ ',' :: prettyItems level (next :: rest)

def prettyMembers (level : Nat) : List (Text × Json) → Text
  | [] => []
  | [(name, value)] => newline level ++ quoted name ++ ": ".toList ++ value.pretty level
  | (name, value) :: next :: rest =>
    newline level ++ quoted name ++ ": ".toList ++ value.pretty level ++
      ',' :: prettyMembers level (next :: rest)

end

end Json

end NCBlock
