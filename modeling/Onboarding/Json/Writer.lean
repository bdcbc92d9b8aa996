import Onboarding.Json.Value
import Onboarding.Number.Shortest

/-! The text of a value, on one line or indented by two spaces for each level. -/
namespace Onboarding.Value

def hexDigit (n : Nat) : Char := if n < 10 then Char.ofNat (48 + n) else Char.ofNat (87 + n)

/-- Only the quote, the backslash and the controls are escaped. -/
def escape (c : Char) : List Char :=
  if c = '"' then ['\\', '"']
  else if c = '\\' then ['\\', '\\']
  else if c = '\x08' then ['\\', 'b']
  else if c = '\x0c' then ['\\', 'f']
  else if c = '\n' then ['\\', 'n']
  else if c = '\r' then ['\\', 'r']
  else if c = '\t' then ['\\', 't']
  else if c.toNat < 32 then
    ['\\', 'u', '0', '0', hexDigit (c.toNat / 16), hexDigit (c.toNat % 16)]
  else [c]

def writeText (s : String) : String :=
  String.ofList ('"' :: s.toList.flatMap escape ++ ['"'])

def writeNumber : Number → String
  | .integer n => toString n
  | .float x => x.text

mutual

/-- The value without blanks. -/
def compact : Value → String
  | null => "null"
  | bool b => if b then "true" else "false"
  | number n => writeNumber n
  | text s => writeText s
  | list xs => "[" ++ ",".intercalate (compactItems xs) ++ "]"
  | object fs => "\x7b" ++ ",".intercalate (compactFields fs) ++ "\x7d"

def compactItems : List Value → List String
  | [] => []
  | x :: xs => x.compact :: compactItems xs

def compactFields : List (String × Value) → List String
  | [] => []
  | (k, x) :: fs => (writeText k ++ ":" ++ x.compact) :: compactFields fs

end

def indent (level : Nat) : String := String.ofList ('\n' :: List.replicate (2 * level) ' ')

/-- Brackets around lines, closed on one line when there is none. -/
def bracket (opening closing : String) (level : Nat) (lines : List String) : String :=
  if lines.isEmpty then opening ++ closing
  else
    opening ++ ",".intercalate (lines.map (indent (level + 1) ++ ·)) ++ indent level ++ closing

mutual

/-- The value at a level of indentation. -/
def prettyAt (level : Nat) : Value → String
  | null => "null"
  | bool b => if b then "true" else "false"
  | number n => writeNumber n
  | text s => writeText s
  | list xs => bracket "[" "]" level (prettyItems (level + 1) xs)
  | object fs => bracket "\x7b" "\x7d" level (prettyFields (level + 1) fs)

def prettyItems (level : Nat) : List Value → List String
  | [] => []
  | x :: xs => x.prettyAt level :: prettyItems level xs

def prettyFields (level : Nat) : List (String × Value) → List String
  | [] => []
  | (k, x) :: fs => (writeText k ++ ": " ++ x.prettyAt level) :: prettyFields level fs

end

def pretty (v : Value) : String := v.prettyAt 0

end Onboarding.Value
