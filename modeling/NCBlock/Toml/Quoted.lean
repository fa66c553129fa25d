import NCBlock.Text.Basic

/-!
The four kinds of TOML strings. First the extent of a string is found, then its escapes are
resolved; only strings in double quotes have escapes.
-/

namespace NCBlock.Toml

/-- Characters that can stand in a comment or within one line of a string. -/
def isPlain (c : Char) : Bool := c = '\t' || 0x20 ≤ c.toNat && c.toNat ≠ 0x7F

/-- What precedes the closing quote on the same line, and what follows it. -/
def spanLine (quote : Char) : Text → Option (Text × Text)
  | [] => none
  | c :: rest =>
    if c = quote then some ([], rest)
    else if !isPlain c then none
    else if c = '\\' ∧ quote = '"' then
      match rest with
      | [] => none
      | d :: rest =>
        if isPlain d then (spanLine quote rest).map fun (inner, rest) => (c :: d :: inner, rest)
        else none
    else (spanLine quote rest).map fun (inner, rest) => (c :: inner, rest)

/-- What precedes three closing quotes, and what follows them. One or two further quotes belong to
the string. -/
def spanLines (quote : Char) : Text → Option (Text × Text)
  | [] => none
  | c :: rest =>
    if c = quote ∧ rest.take 2 = [quote, quote] then
      let more := ((rest.drop 2).take 2).takeWhile (· = quote)
      some (more, rest.drop (2 + more.length))
    else if c = '\\' ∧ quote = '"' then
      match rest with
      | [] => none
      | d :: rest => (spanLines quote rest).map fun (inner, rest) => (c :: d :: inner, rest)
    else (spanLines quote rest).map fun (inner, rest) => (c :: inner, rest)

/-- Plain characters and line breaks only. -/
def isWellBroken : Text → Bool
  | [] => true
  | '\r' :: '\n' :: rest => isWellBroken rest
  | c :: rest => (c = '\n' || isPlain c) && isWellBroken rest

def dropLineBreak : Text → Text
  | '\n' :: rest => rest
  | '\r' :: '\n' :: rest => rest
  | t => t

def isSpace (c : Char) : Bool := c = ' ' || c = '\t'

/-- Only spaces come before the end of the line. -/
def atLineEnd (t : Text) : Bool :=
  match t.dropWhile isSpace with
  | '\n' :: _ => true
  | '\r' :: '\n' :: _ => true
  | _ => false

def escape? : Char → Option Char
  | 'b' => some '\x08'
  | 't' => some '\t'
  | 'n' => some '\n'
  | 'f' => some '\x0c'
  | 'r' => some '\r'
  | 'e' => some '\x1b'
  | '"' => some '"'
  | '\\' => some '\\'
  | _ => none

/-- How many hexadecimal digits follow the letter of a numeric escape. -/
def escapeWidth? : Char → Option Nat
  | 'x' => some 2
  | 'u' => some 4
  | 'U' => some 8
  | _ => none

def hexDigit? (c : Char) : Option Nat :=
  if c.isDigit then some (c.toNat - '0'.toNat)
  else if 'a' ≤ c ∧ c ≤ 'f' then some (c.toNat - 'a'.toNat + 10)
  else if 'A' ≤ c ∧ c ≤ 'F' then some (c.toNat - 'A'.toNat + 10)
  else none

/-- The character with a code point given by exactly so many digits. -/
def character? (width : Nat) (digits : Text) : Option Char :=
  if digits.length = width then
    match digits.mapM hexDigit? with
    | some values =>
      let n := values.foldl (fun n d => 16 * n + d) 0
      if n.isValidChar then some (Char.ofNat n) else none
    | none => none
  else none

/-- Resolves escapes. A backslash at the end of a line drops all blanks up to the next character;
`skipping` says that this is going on. -/
def unescape (skipping : Bool) : Text → Option Text
  | [] => some []
  | c :: rest =>
    if skipping && (isSpace c || c = '\n' || c = '\r') then unescape true rest
    else if c ≠ '\\' then (unescape false rest).map (c :: ·)
    else if atLineEnd rest then unescape true rest
    else
      match rest with
      | [] => none
      | d :: rest =>
        match escape? d, escapeWidth? d with
        | some e, _ => (unescape false rest).map (e :: ·)
        | none, some width =>
          match character? width (rest.take width) with
          | some e => (unescape false (rest.drop width)).map (e :: ·)
          | none => none
        | none, none => none
termination_by t => t.length

/-- The string at the start of a text, and what follows it. -/
def quoted? (t : Text) : Option (Text × Text) :=
  match t with
  | '"' :: '"' :: '"' :: rest =>
    match spanLines '"' rest with
    | some (inner, rest) =>
      if isWellBroken inner then (unescape false (dropLineBreak inner)).map (·, rest) else none
    | none => none
  | '\'' :: '\'' :: '\'' :: rest =>
    match spanLines '\'' rest with
    | some (inner, rest) => if isWellBroken inner then some (dropLineBreak inner, rest) else none
    | none => none
  | _ => lineQuoted? t
where
  /-- A string that must end on its line. -/
  lineQuoted? : Text → Option (Text × Text)
    | '"' :: rest =>
      match spanLine '"' rest with
      | some (inner, rest) => (unescape false inner).map (·, rest)
      | none => none
    | '\'' :: rest => spanLine '\'' rest
    | _ => none

end NCBlock.Toml
