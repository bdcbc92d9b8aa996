import Onboarding.Json.Value

/-! What the grammar of JSON alone makes of a text, before it is asked what the text stands for:
numbers may be out of range, texts may hold half a character, names may repeat. A reader that
skips a part of the tree accepts it as it is. -/
namespace Onboarding

inductive Tree where
  | null
  | bool (b : Bool)
  /-- Nothing stands for a number out of range. -/
  | number (n : Option Number)
  /-- Nothing stands for a text with an unpaired surrogate. -/
  | text (s : Option String)
  | list (items : List Tree)
  | object (fields : List (Option String × Tree))

namespace Tree

def isBlank (c : Char) : Bool := c = ' ' || c = '\n' || c = '\t' || c = '\r'

def skipBlanks (cs : List Char) : List Char := cs.dropWhile isBlank

/-- A character of a text, or a code unit of an escape. -/
inductive Piece where
  | char (c : Char)
  | unit (n : Nat)

def isLeading (n : Nat) : Bool := 0xD800 ≤ n && n ≤ 0xDBFF

def isTrailing (n : Nat) : Bool := 0xDC00 ≤ n && n ≤ 0xDFFF

/-- Pairs the surrogates. -/
def joinPieces : List Piece → Option (List Char)
  | [] => some []
  | .char c :: rest => (joinPieces rest).map (c :: ·)
  | .unit m :: .unit n :: rest =>
    if isLeading m then
      if isTrailing n then
        (joinPieces rest).map (Char.ofNat (0x10000 + (m - 0xD800) * 0x400 + (n - 0xDC00)) :: ·)
      else none
    else if isTrailing m then none
    else (joinPieces (.unit n :: rest)).map (Char.ofNat m :: ·)
  | .unit m :: rest =>
    if isLeading m || isTrailing m then none else (joinPieces rest).map (Char.ofNat m :: ·)

def hexValue? (c : Char) : Option Nat :=
  if '0' ≤ c ∧ c ≤ '9' then some (c.toNat - 48)
  else if 'a' ≤ c ∧ c ≤ 'f' then some (c.toNat - 87)
  else if 'A' ≤ c ∧ c ≤ 'F' then some (c.toNat - 55)
  else none

def escaped? (c : Char) : Option Char :=
  match c with
  | '"' => some '"'
  | '\\' => some '\\'
  | '/' => some '/'
  | 'b' => some '\x08'
  | 'f' => some '\x0c'
  | 'n' => some '\n'
  | 'r' => some '\r'
  | 't' => some '\t'
  | _ => none

/-- The pieces of a text up to its closing quote, and what follows it. -/
def pieces? : List Char → Option (List Piece × List Char)
  | [] => none
  | '"' :: rest => some ([], rest)
  | '\\' :: 'u' :: a :: b :: c :: d :: rest => do
    let unit := 4096 * (← hexValue? a) + 256 * (← hexValue? b) + 16 * (← hexValue? c)
      + (← hexValue? d)
    let (ps, after) ← pieces? rest
    return (.unit unit :: ps, after)
  | '\\' :: e :: rest => do
    let c ← escaped? e
    let (ps, after) ← pieces? rest
    return (.char c :: ps, after)
  | c :: rest => do
    guard (c ≠ '\\' ∧ 32 ≤ c.toNat)
    let (ps, after) ← pieces? rest
    return (.char c :: ps, after)

/-- The text after an opening quote. -/
def text? (cs : List Char) : Option (Option String × List Char) :=
  (pieces? cs).map fun (ps, rest) => ((joinPieces ps).map String.ofList, rest)

def isDigit (c : Char) : Bool := '0' ≤ c && c ≤ '9'

def digits (cs : List Char) : List Nat × List Char :=
  ((cs.takeWhile isDigit).map (·.toNat - 48), cs.dropWhile isDigit)

/-- One digit or more. -/
def digits? (cs : List Char) : Option (List Nat × List Char) :=
  let (ds, rest) := digits cs
  if ds.isEmpty then none else some (ds, rest)

/-- Digits with no needless zero in front. -/
def whole? (cs : List Char) : Option (List Nat × List Char) := do
  let (ds, rest) ← digits? cs
  guard (ds.head? ≠ some 0 ∨ ds.length = 1)
  return (ds, rest)

def fraction? : List Char → Option (Option (List Nat) × List Char)
  | '.' :: rest => (digits? rest).map fun (ds, rest) => (some ds, rest)
  | cs => some (none, cs)

def power? (cs : List Char) : Option (Bool × List Nat × List Char) :=
  match cs with
  | '-' :: rest => (digits? rest).map (true, ·)
  | '+' :: rest => (digits? rest).map (false, ·)
  | _ => (digits? cs).map (false, ·)

def exponent? : List Char → Option (Option (Bool × List Nat) × List Char)
  | c :: rest =>
    if c = 'e' ∨ c = 'E' then (power? rest).map fun (minus, ds, rest) => (some (minus, ds), rest)
    else some (none, c :: rest)
  | [] => some (none, [])

def number? (cs : List Char) : Option (Option Number × List Char) := do
  let (negative, cs) := match cs with
    | '-' :: rest => (true, rest)
    | _ => (false, cs)
  let (whole, cs) ← whole? cs
  let (fraction, cs) ← fraction? cs
  let (exponent, cs) ← exponent? cs
  return ((Lexeme.mk negative whole fraction exponent).number?, cs)

/-- What follows a given word. -/
def word? : List Char → List Char → Option (List Char)
  | [], cs => some cs
  | w :: ws, c :: cs => if w = c then word? ws cs else none
  | _ :: _, [] => none

mutual

/-- Reads one value. Each call takes a character at least, so that a text of `fuel` characters
never runs out. -/
def tree? : Nat → List Char → Option (Tree × List Char)
  | 0, _ => none
  | fuel + 1, cs =>
    match skipBlanks cs with
    | 'n' :: rest => (word? ['u', 'l', 'l'] rest).map (null, ·)
    | 't' :: rest => (word? ['r', 'u', 'e'] rest).map (bool true, ·)
    | 'f' :: rest => (word? ['a', 'l', 's', 'e'] rest).map (bool false, ·)
    | '"' :: rest => (text? rest).map fun (s, rest) => (text s, rest)
    | '[' :: rest =>
      match skipBlanks rest with
      | ']' :: rest => some (list [], rest)
      | rest => (items? fuel rest).map fun (xs, rest) => (list xs, rest)
    | '\x7b' :: rest =>
      match skipBlanks rest with
      | '\x7d' :: rest => some (object [], rest)
      | rest => (fields? fuel rest).map fun (fs, rest) => (object fs, rest)
    | cs => (number? cs).map fun (n, rest) => (number n, rest)

/-- Reads one item or more, up to the closing bracket. -/
def items? : Nat → List Char → Option (List Tree × List Char)
  | 0, _ => none
  | fuel + 1, cs => do
    let (x, rest) ← tree? fuel cs
    match skipBlanks rest with
    | ',' :: rest => (items? fuel rest).map fun (xs, rest) => (x :: xs, rest)
    | ']' :: rest => some ([x], rest)
    | _ => none

/-- Reads one field or more, up to the closing brace. -/
def fields? : Nat → List Char → Option (List (Option String × Tree) × List Char)
  | 0, _ => none
  | fuel + 1, cs =>
    match skipBlanks cs with
    | '"' :: rest => do
      let (name, rest) ← text? rest
      match skipBlanks rest with
      | ':' :: rest => do
        let (x, rest) ← tree? fuel rest
        match skipBlanks rest with
        | ',' :: rest => (fields? fuel rest).map fun (fs, rest) => ((name, x) :: fs, rest)
        | '\x7d' :: rest => some ([(name, x)], rest)
        | _ => none
      | _ => none
    | _ => none

end

mutual

/-- The tree of a value. -/
def ofValue : Value → Tree
  | .null => null
  | .bool b => bool b
  | .number n => number (some n)
  | .text s => text (some s)
  | .list xs => list (ofItems xs)
  | .object fs => object (ofFields fs)

def ofItems : List Value → List Tree
  | [] => []
  | x :: xs => ofValue x :: ofItems xs

def ofFields : List (String × Value) → List (Option String × Tree)
  | [] => []
  | (name, x) :: fs => (some name, ofValue x) :: ofFields fs

end

/-- The tree of a text that holds one value and nothing else but blanks. -/
def ofText? (s : String) : Option Tree := do
  let (t, rest) ← tree? (s.length + 1) s.toList
  guard (skipBlanks rest).isEmpty
  return t

end Tree

end Onboarding
