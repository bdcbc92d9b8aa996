import Onboarding.Proofs.Json.Numeral

/-! Written values read back. The reader makes of a written value the tree of that value, except
that a float is what its digits are read as. Nothing is assumed of the value: its texts may hold
any character, and its depth is not bounded. -/
namespace Onboarding

namespace Tree

/-- How an escaped character is read: short escapes as the character, others as a code unit. -/
def pieceOf (c : Char) : Piece :=
  if c = '\x08' ∨ c = '\x0c' ∨ c = '\n' ∨ c = '\r' ∨ c = '\t' then .char c
  else if c.toNat < 32 then .unit c.toNat
  else .char c

theorem hexValue?_hexDigit {n : Nat} (digit : n < 16) :
    hexValue? (Value.hexDigit n) = some n := by
  have all : ∀ n < 16, hexValue? (Value.hexDigit n) = some n := by decide
  exact all n digit

theorem pieces?_short {e c : Char} (short : escaped? e = some c) (rest : List Char) :
    pieces? ('\\' :: e :: rest) = (pieces? rest).map fun (ps, after) => (.char c :: ps, after) := by
  have notUnit : e ≠ 'u' := by
    rintro rfl
    cases short
  rw [pieces?.eq_def]
  split
  case h_1 same => cases same
  case h_2 same => cases same
  case h_3 same =>
    cases same
    exact absurd rfl notUnit
  case h_4 same =>
    cases same
    rw [short]
    cases pieces? rest <;> rfl
  case h_5 other same =>
    cases same
    exact absurd rfl (other e rest rfl)

theorem pieces?_shown {c : Char} (quote : c ≠ '"') (backslash : c ≠ '\\') (shown : 32 ≤ c.toNat)
    (rest : List Char) :
    pieces? (c :: rest) = (pieces? rest).map fun (ps, after) => (.char c :: ps, after) := by
  rw [pieces?.eq_def]
  split
  case h_1 same => cases same
  case h_2 same =>
    cases same
    exact absurd rfl quote
  case h_3 same =>
    cases same
    exact absurd rfl backslash
  case h_4 same =>
    cases same
    exact absurd rfl backslash
  case h_5 same =>
    cases same
    rw [(Option.guard_eq_some' ()).mpr ⟨backslash, shown⟩]
    cases pieces? rest <;> rfl

theorem pieces?_control {n : Nat} (control : n < 32) (rest : List Char) :
    pieces? ('\\' :: 'u' :: '0' :: '0' :: Value.hexDigit (n / 16) :: Value.hexDigit (n % 16) :: rest) =
      (pieces? rest).map fun (ps, after) => (.unit n :: ps, after) := by
  have zero : hexValue? '0' = some 0 := by decide
  have high := hexValue?_hexDigit (n := n / 16) (by omega)
  have low := hexValue?_hexDigit (n := n % 16) (by omega)
  have value : 4096 * 0 + 256 * 0 + 16 * (n / 16) + n % 16 = n := by omega
  rw [pieces?, zero, high, low]
  simp only [Option.bind_eq_bind, Option.bind_some, value]
  cases pieces? rest <;> rfl

theorem pieces?_escape (c : Char) (rest : List Char) :
    pieces? (Value.escape c ++ rest) =
      (pieces? rest).map fun (ps, after) => (pieceOf c :: ps, after) := by
  unfold Value.escape
  -- seven characters have a short escape
  iterate 7
    split
    · subst c
      exact pieces?_short rfl rest
  split
  · rename_i b f n r t control
    have unit : pieceOf c = .unit c.toNat := by simp [pieceOf, b, f, n, r, t, control]
    rw [unit]
    exact pieces?_control control rest
  · rename_i quote backslash b f n r t control
    have plain : pieceOf c = .char c := by simp [pieceOf, b, f, n, r, t, control]
    rw [plain]
    exact pieces?_shown quote backslash (Nat.le_of_not_lt control) rest

theorem pieces?_escaped (cs rest : List Char) :
    pieces? (cs.flatMap Value.escape ++ '"' :: rest) = some (cs.map pieceOf, rest) := by
  induction cs with
  | nil => rfl
  | cons c cs ih => simp [pieces?_escape, ih]

/-- A code unit below the surrogates stands for itself, whatever follows it. -/
theorem joinPieces_unit {n : Nat} (control : n < 32) (ps : List Piece) :
    joinPieces (.unit n :: ps) = (joinPieces ps).map (Char.ofNat n :: ·) := by
  have leading : isLeading n = false := by
    rw [isLeading, decide_eq_false (by omega), Bool.false_and]
  have trailing : isTrailing n = false := by
    rw [isTrailing, decide_eq_false (by omega), Bool.false_and]
  cases ps with
  | nil => simp [joinPieces, leading, trailing]
  | cons p ps => cases p <;> simp [joinPieces, leading, trailing]

theorem pieceOf_cases (c : Char) :
    pieceOf c = .char c ∨ c.toNat < 32 ∧ pieceOf c = .unit c.toNat := by
  unfold pieceOf
  split
  · exact .inl rfl
  split
  · exact .inr ⟨by assumption, rfl⟩
  · exact .inl rfl

theorem joinPieces_pieceOf (cs : List Char) : joinPieces (cs.map pieceOf) = some cs := by
  induction cs with
  | nil => rfl
  | cons c cs ih =>
    rw [List.map_cons]
    rcases pieceOf_cases c with char | ⟨control, unit⟩
    · simp [char, joinPieces, ih]
    · simp [unit, joinPieces_unit control, ih]

theorem text?_escaped (s : String) (rest : List Char) :
    text? (s.toList.flatMap Value.escape ++ '"' :: rest) = some (some s, rest) := by
  simp [text?, pieces?_escaped, joinPieces_pieceOf]

/-! Blanks between the parts of a value make no difference. -/

theorem skipBlanks_append {pad : List Char} (blank : ∀ c ∈ pad, isBlank c = true)
    (cs : List Char) : skipBlanks (pad ++ cs) = skipBlanks cs :=
  List.dropWhile_append_of_pos blank

theorem skipBlanks_cons {c : Char} (shown : isBlank c = false) (cs : List Char) :
    skipBlanks (c :: cs) = c :: cs := by
  simp [skipBlanks, shown]

theorem tree?_blanks {pad : List Char} (blank : ∀ c ∈ pad, isBlank c = true) (fuel : Nat)
    (cs : List Char) : tree? fuel (pad ++ cs) = tree? fuel cs := by
  cases fuel with
  | zero => rfl
  | succ fuel => simp only [tree?, skipBlanks_append blank]

theorem items?_blanks {pad : List Char} (blank : ∀ c ∈ pad, isBlank c = true) (fuel : Nat)
    (cs : List Char) : items? fuel (pad ++ cs) = items? fuel cs := by
  cases fuel with
  | zero => rfl
  | succ fuel => simp only [items?, tree?_blanks blank]

theorem fields?_blanks {pad : List Char} (blank : ∀ c ∈ pad, isBlank c = true) (fuel : Nat)
    (cs : List Char) : fields? fuel (pad ++ cs) = fields? fuel cs := by
  cases fuel with
  | zero => rfl
  | succ fuel => simp only [fields?, skipBlanks_append blank]

theorem ends_cons {c : Char} (ends : isDigit c = false ∧ c ≠ '.' ∧ c ≠ 'e' ∧ c ≠ 'E')
    (rest : List Char) : Numeral.Ends (c :: rest) := by
  rintro _ ⟨⟩
  exact ends

theorem ends_closing {pad : List Char} (blank : ∀ c ∈ pad, isBlank c = true) {c : Char}
    (ends : isDigit c = false ∧ c ≠ '.' ∧ c ≠ 'e' ∧ c ≠ 'E') (rest : List Char) :
    Numeral.Ends (pad ++ c :: rest) := by
  cases pad with
  | nil => exact ends_cons ends rest
  | cons b pad =>
    refine ends_cons ?_ _
    have := blank b (by simp)
    simp only [isBlank, Bool.or_eq_true, decide_eq_true_eq] at this
    rcases this with ((rfl | rfl) | rfl) | rfl <;> decide

/-- A text that the reader takes off the front of any other as one tree. It needs no more fuel
than the text has characters. -/
structure Reads (cs : List Char) (t : Tree) : Prop where
  begins : ∃ c, cs.head? = some c ∧ isBlank c = false ∧ c ≠ ']'
  reads : ∀ fuel rest, cs.length ≤ fuel → Numeral.Ends rest →
    tree? fuel (cs ++ rest) = some (t, rest)

theorem Reads.positive {cs : List Char} {t : Tree} (reads : Reads cs t) : 0 < cs.length := by
  obtain ⟨c, first, _⟩ := reads.begins
  cases cs with
  | nil => cases first
  | cons => simp

/-- Items after the first, each behind a comma. -/
def following (pad : List Char) (items : List (List Char × Tree)) : List Char :=
  items.flatMap fun item => ',' :: (pad ++ item.1)

theorem items?_reads {pad close : List Char} (blank : ∀ c ∈ pad, isBlank c = true)
    (closeBlank : ∀ c ∈ close, isBlank c = true) (first : List Char × Tree)
    (others : List (List Char × Tree)) (reads : ∀ item ∈ first :: others, Reads item.1 item.2)
    {fuel : Nat} (rest : List Char)
    (enough : (first.1 ++ following pad others).length + 1 ≤ fuel) :
    items? fuel (first.1 ++ (following pad others ++ (close ++ ']' :: rest))) =
      some ((first :: others).map (·.2), rest) := by
  induction others generalizing first fuel with
  | nil =>
    obtain ⟨fuel, rfl⟩ : ∃ n, fuel = n + 1 := ⟨fuel - 1, by omega⟩
    have head := (reads first (by simp)).reads fuel (close ++ ']' :: rest)
      (by simp [following] at enough; omega) (ends_closing closeBlank (by decide) rest)
    simp [following, items?, head, skipBlanks_append closeBlank,
      skipBlanks_cons (c := ']') (by decide)]
  | cons second others ih =>
    obtain ⟨fuel, rfl⟩ : ∃ n, fuel = n + 1 := ⟨fuel - 1, by omega⟩
    simp only [following, List.flatMap_cons, List.length_append, List.length_cons] at enough
    have here := reads first (by simp)
    have positive := here.positive
    have head := here.reads fuel
      (',' :: (pad ++ (second.1 ++ (following pad others ++ (close ++ ']' :: rest))))) (by omega)
      (ends_cons (by decide) _)
    have enoughAfter : (second.1 ++ following pad others).length + 1 ≤ fuel := by
      simp only [following, List.length_append]
      omega
    have tail := ih second (fun item member => reads item (List.mem_cons_of_mem _ member))
      enoughAfter
    have assembled : following pad (second :: others) ++ (close ++ ']' :: rest) =
        ',' :: (pad ++ (second.1 ++ (following pad others ++ (close ++ ']' :: rest)))) := by
      simp [following]
    rw [assembled]
    simp only [items?, head, Option.bind_eq_bind, Option.bind_some]
    simp [skipBlanks_cons (c := ',') (by decide), items?_blanks blank, tail]

/-- A field: its name in quotes, a colon, a blank and its value. -/
def fieldChars (name : String) (cs : List Char) : List Char :=
  '"' :: (name.toList.flatMap Value.escape ++ '"' :: ':' :: ' ' :: cs)

def followingFields (pad : List Char) (fields : List (String × List Char × Tree)) : List Char :=
  fields.flatMap fun field => ',' :: (pad ++ fieldChars field.1 field.2.1)

theorem tree?_blank (fuel : Nat) (cs : List Char) : tree? fuel (' ' :: cs) = tree? fuel cs := by
  have blank : ∀ c ∈ [' '], isBlank c = true := List.forall_mem_singleton.mpr rfl
  exact tree?_blanks blank fuel cs

/-- A field is read up to its value, which is left to the reader of values. -/
theorem fields?_name (name : String) (cs rest : List Char) (fuel : Nat) :
    fields? (fuel + 1) (fieldChars name cs ++ rest) =
      (tree? fuel (cs ++ rest)).bind fun (x, rest) =>
      match skipBlanks rest with
      | ',' :: rest => (fields? fuel rest).map fun (fs, rest) => ((some name, x) :: fs, rest)
      | '\x7d' :: rest => some ([(some name, x)], rest)
      | _ => none := by
  have quoted : fieldChars name cs ++ rest =
      '"' :: (name.toList.flatMap Value.escape ++ '"' :: ':' :: ' ' :: (cs ++ rest)) := by
    simp [fieldChars]
  rw [quoted]
  simp only [fields?, skipBlanks_cons (c := '"') (by decide), text?_escaped,
    skipBlanks_cons (c := ':') (by decide), Option.bind_eq_bind, Option.bind_some]
  exact congrArg (Option.bind · _) (tree?_blank fuel (cs ++ rest))

theorem fields?_reads {pad close : List Char} (blank : ∀ c ∈ pad, isBlank c = true)
    (closeBlank : ∀ c ∈ close, isBlank c = true) (first : String × List Char × Tree)
    (others : List (String × List Char × Tree))
    (reads : ∀ field ∈ first :: others, Reads field.2.1 field.2.2)
    {fuel : Nat} (rest : List Char)
    (enough : (fieldChars first.1 first.2.1 ++ followingFields pad others).length ≤ fuel) :
    fields? fuel (fieldChars first.1 first.2.1 ++
        (followingFields pad others ++ (close ++ '\x7d' :: rest))) =
      some ((first :: others).map fun field => (some field.1, field.2.2), rest) := by
  induction others generalizing first fuel with
  | nil =>
    obtain ⟨fuel, rfl⟩ : ∃ n, fuel = n + 1 := ⟨fuel - 1, by simp [fieldChars] at enough; omega⟩
    have head := (reads first (by simp)).reads fuel (close ++ '\x7d' :: rest)
      (by simp [followingFields, fieldChars] at enough; omega)
      (ends_closing closeBlank (by decide) rest)
    simp [followingFields, fields?_name, head, skipBlanks_append closeBlank,
      skipBlanks_cons (c := '\x7d') (by decide)]
  | cons second others ih =>
    obtain ⟨fuel, rfl⟩ : ∃ n, fuel = n + 1 := ⟨fuel - 1, by simp [fieldChars] at enough; omega⟩
    simp only [followingFields, fieldChars, List.flatMap_cons, List.length_append,
      List.length_cons] at enough
    have head := (reads first (by simp)).reads fuel
      (',' :: (pad ++ (fieldChars second.1 second.2.1 ++
        (followingFields pad others ++ (close ++ '\x7d' :: rest))))) (by omega)
      (ends_cons (by decide) _)
    have enoughAfter :
        (fieldChars second.1 second.2.1 ++ followingFields pad others).length ≤ fuel := by
      simp only [followingFields, fieldChars, List.length_append, List.length_cons]
      omega
    have tail := ih second (fun field member => reads field (List.mem_cons_of_mem _ member))
      enoughAfter
    have assembled : followingFields pad (second :: others) ++ (close ++ '\x7d' :: rest) =
        ',' :: (pad ++ (fieldChars second.1 second.2.1 ++
          (followingFields pad others ++ (close ++ '\x7d' :: rest)))) := by
      simp [followingFields]
    rw [assembled, fields?_name, head]
    simp [skipBlanks_cons (c := ',') (by decide), fields?_blanks blank, tail]

theorem tree?_list {pad : List Char} (blank : ∀ c ∈ pad, isBlank c = true) {cs : List Char}
    (begins : ∃ c, cs.head? = some c ∧ isBlank c = false ∧ c ≠ ']') (fuel : Nat) :
    tree? (fuel + 1) ('[' :: (pad ++ cs)) =
      (items? fuel cs).map fun (xs, rest) => (.list xs, rest) := by
  obtain ⟨c, first, shown, more⟩ := begins
  obtain ⟨cs, rfl⟩ : ∃ ds, cs = c :: ds := by
    cases cs with
    | nil => cases first
    | cons d ds => exact ⟨ds, by simp_all⟩
  simp [tree?, skipBlanks_cons (c := '[') (by decide), skipBlanks_append blank,
    skipBlanks_cons shown, more]

theorem tree?_object {pad : List Char} (blank : ∀ c ∈ pad, isBlank c = true) (cs : List Char)
    (fuel : Nat) :
    tree? (fuel + 1) ('\x7b' :: (pad ++ '"' :: cs)) =
      (fields? fuel ('"' :: cs)).map fun (fs, rest) => (.object fs, rest) := by
  simp [tree?, skipBlanks_cons (c := '\x7b') (by decide), skipBlanks_append blank,
    skipBlanks_cons (c := '"') (by decide)]

/-- A number begins with none of the characters that other values begin or end with. -/
theorem shown_of_starts {c : Char} (starts : c = '-' ∨ isDigit c = true) :
    isBlank c = false ∧ c ≠ ']' := by
  constructor
  · simp only [isBlank, Bool.or_eq_false_iff, decide_eq_false_iff_not]
    refine ⟨⟨⟨?_, ?_⟩, ?_⟩, ?_⟩ <;> rintro rfl <;> exact absurd starts (by decide)
  · rintro rfl
    exact absurd starts (by decide)

theorem tree?_number {c : Char} (starts : c = '-' ∨ isDigit c = true) (fuel : Nat)
    (cs : List Char) :
    tree? (fuel + 1) (c :: cs) = (number? (c :: cs)).map fun (n, rest) => (.number n, rest) := by
  simp only [tree?, skipBlanks_cons (shown_of_starts starts).1]
  split
  case h_7 => rfl
  all_goals
    rename_i same
    cases same
    exact absurd starts (by decide)

end Tree

theorem Number.starts (n : Number) :
    ∃ c cs, (Value.writeNumber n).toList = c :: cs ∧ (c = '-' ∨ Tree.isDigit c = true) := by
  rw [toList_writeNumber, Numeral.chars]
  cases n.numeral.negative with
  | true => exact ⟨'-', _, rfl, .inl rfl⟩
  | false =>
    obtain ⟨nonempty, digits⟩ := n.wellFormed_numeral.whole
    cases whole : n.numeral.whole with
    | nil => exact absurd whole nonempty
    | cons d ds => exact ⟨d, _, rfl, .inr (digits d (by simp [whole]))⟩

namespace Value

mutual

/-- The tree that is read where the value is written. -/
def reread : Value → Tree
  | null => .null
  | bool b => .bool b
  | number n => .number n.reread
  | text s => .text (some s)
  | list xs => .list (rereadItems xs)
  | object fs => .object (rereadFields fs)

def rereadItems : List Value → List Tree
  | [] => []
  | x :: xs => x.reread :: rereadItems xs

def rereadFields : List (String × Value) → List (Option String × Tree)
  | [] => []
  | (name, x) :: fs => (some name, x.reread) :: rereadFields fs

end

theorem rereadItems_eq (xs : List Value) : rereadItems xs = xs.map reread := by
  induction xs with
  | nil => rfl
  | cons x xs ih => simp [rereadItems, ih]

theorem rereadFields_eq (fs : List (String × Value)) :
    rereadFields fs = fs.map fun (name, x) => (some name, x.reread) := by
  induction fs with
  | nil => rfl
  | cons f fs ih => simp [rereadFields, ih]

theorem prettyItems_eq (level : Nat) (xs : List Value) :
    prettyItems level xs = xs.map (·.prettyAt level) := by
  induction xs with
  | nil => rfl
  | cons x xs ih => simp [prettyItems, ih]

theorem prettyFields_eq (level : Nat) (fs : List (String × Value)) :
    prettyFields level fs = fs.map fun (name, x) => writeText name ++ ": " ++ x.prettyAt level := by
  induction fs with
  | nil => rfl
  | cons f fs ih => simp [prettyFields, ih]

theorem toList_intercalate (line : String) (lines : List String) :
    (",".intercalate (line :: lines)).toList =
      line.toList ++ lines.flatMap fun l => ',' :: l.toList := by
  induction lines generalizing line with
  | nil => simp
  | cons next lines ih =>
    rw [String.intercalate_cons_cons, String.toList_append, ih]
    simp

theorem toList_bracket (opening closing : String) (level : Nat) (line : String)
    (lines : List String) :
    (bracket opening closing level (line :: lines)).toList =
      opening.toList ++ ((indent (level + 1)).toList ++ (line.toList ++
        ((lines.flatMap fun l => ',' :: ((indent (level + 1)).toList ++ l.toList)) ++
          ((indent level).toList ++ closing.toList)))) := by
  simp only [bracket, List.isEmpty_cons, Bool.false_eq_true, ↓reduceIte, List.map_cons,
    String.toList_append, toList_intercalate, List.flatMap_map, List.append_assoc]

theorem isBlank_indent (level : Nat) : ∀ c ∈ (indent level).toList, Tree.isBlank c = true := by
  intro c member
  simp only [indent, String.toList_ofList, List.mem_cons, List.mem_replicate] at member
  rcases member with rfl | ⟨_, rfl⟩ <;> decide

open Onboarding.Tree

theorem reads_number (n : Number) : Reads (writeNumber n).toList (.number n.reread) := by
  obtain ⟨c, cs, first, starts⟩ := n.starts
  constructor
  · exact ⟨c, by simp [first], shown_of_starts starts⟩
  · intro fuel rest enough ends
    obtain ⟨fuel, rfl⟩ : ∃ n, fuel = n + 1 := ⟨fuel - 1, by simp [first] at enough; omega⟩
    have read := n.number?_writeNumber ends
    rw [first, List.cons_append] at read ⊢
    rw [tree?_number starts, read]
    rfl

theorem reads_null : Reads "null".toList .null := by
  refine ⟨⟨'n', rfl, by decide, by decide⟩, fun fuel rest enough _ => ?_⟩
  obtain ⟨fuel, rfl⟩ : ∃ n, fuel = n + 1 := ⟨fuel - 1, by simp at enough; omega⟩
  simp [tree?, skipBlanks_cons (c := 'n') (by decide), word?]

theorem reads_bool (b : Bool) :
    Reads (if b then "true" else "false").toList (.bool b) := by
  cases b with
  | true =>
    refine ⟨⟨'t', rfl, by decide, by decide⟩, fun fuel rest enough _ => ?_⟩
    obtain ⟨fuel, rfl⟩ : ∃ n, fuel = n + 1 := ⟨fuel - 1, by simp at enough; omega⟩
    simp [tree?, skipBlanks_cons (c := 't') (by decide), word?]
  | false =>
    refine ⟨⟨'f', rfl, by decide, by decide⟩, fun fuel rest enough _ => ?_⟩
    obtain ⟨fuel, rfl⟩ : ∃ n, fuel = n + 1 := ⟨fuel - 1, by simp at enough; omega⟩
    simp [tree?, skipBlanks_cons (c := 'f') (by decide), word?]

theorem reads_text (s : String) : Reads (writeText s).toList (.text (some s)) := by
  constructor
  · exact ⟨'"', by simp [writeText], by decide, by decide⟩
  · intro fuel rest enough _
    obtain ⟨fuel, rfl⟩ : ∃ n, fuel = n + 1 := ⟨fuel - 1, by simp [writeText] at enough; omega⟩
    simp [writeText, tree?, skipBlanks_cons (c := '"') (by decide), text?_escaped]

def itemAt (level : Nat) (x : Value) : List Char × Tree := ((x.prettyAt level).toList, x.reread)

/-- The name of a field and the text of its value, with what that is read as. -/
def fieldAt (level : Nat) (f : String × Value) : String × List Char × Tree :=
  (f.1, itemAt level f.2)

theorem toList_list (level : Nat) (x : Value) (xs : List Value) :
    ((list (x :: xs)).prettyAt level).toList =
      '[' :: ((indent (level + 1)).toList ++ ((itemAt (level + 1) x).1 ++
        (following (indent (level + 1)).toList (xs.map (itemAt (level + 1))) ++
          ((indent level).toList ++ [']'])))) := by
  simp [prettyAt, prettyItems, toList_bracket, prettyItems_eq, following, itemAt, List.flatMap_map]

theorem toList_object (level : Nat) (f : String × Value) (fs : List (String × Value)) :
    ((object (f :: fs)).prettyAt level).toList =
      '\x7b' :: ((indent (level + 1)).toList ++
        (fieldChars f.1 (itemAt (level + 1) f.2).1 ++
          (followingFields (indent (level + 1)).toList (fs.map (fieldAt (level + 1))) ++
            ((indent level).toList ++ ['\x7d'])))) := by
  simp [prettyAt, prettyFields, toList_bracket, prettyFields_eq, followingFields, fieldChars,
    fieldAt, itemAt, writeText, List.flatMap_map]

theorem reads_list {level : Nat} {xs : List Value}
    (reads : ∀ x ∈ xs, Reads (x.prettyAt (level + 1)).toList x.reread) :
    Reads ((list xs).prettyAt level).toList (list xs).reread := by
  cases xs with
  | nil =>
    refine ⟨⟨'[', by simp [prettyAt, prettyItems, bracket], by decide, by decide⟩, ?_⟩
    intro fuel rest enough _
    obtain ⟨fuel, rfl⟩ : ∃ n, fuel = n + 1 :=
      ⟨fuel - 1, by simp [prettyAt, prettyItems, bracket] at enough; omega⟩
    simp [prettyAt, prettyItems, bracket, reread, rereadItems, tree?,
      skipBlanks_cons (c := '[') (by decide), skipBlanks_cons (c := ']') (by decide)]
  | cons x xs =>
    rw [toList_list]
    refine ⟨⟨'[', by simp, by decide, by decide⟩, ?_⟩
    intro fuel rest enough _
    obtain ⟨fuel, rfl⟩ : ∃ n, fuel = n + 1 := ⟨fuel - 1, by simp at enough; omega⟩
    have enoughInside : ((itemAt (level + 1) x).1 ++
        following (indent (level + 1)).toList (xs.map (itemAt (level + 1)))).length + 1 ≤ fuel := by
      simp only [List.length_cons, List.length_append] at enough ⊢
      omega
    have items := items?_reads (isBlank_indent (level + 1)) (isBlank_indent level)
      (itemAt (level + 1) x) (xs.map (itemAt (level + 1)))
      (List.forall_mem_map (l := x :: xs).mpr reads) rest enoughInside
    obtain ⟨c, first, shown⟩ := (reads x (by simp)).begins
    simp only [List.cons_append, List.append_assoc, List.nil_append]
    rw [tree?_list (isBlank_indent _) ⟨c, by simp [itemAt, first], shown⟩, items]
    simp [itemAt, reread, rereadItems, rereadItems_eq]

theorem reads_object {level : Nat} {fs : List (String × Value)}
    (reads : ∀ f ∈ fs, Reads (f.2.prettyAt (level + 1)).toList f.2.reread) :
    Reads ((object fs).prettyAt level).toList (object fs).reread := by
  cases fs with
  | nil =>
    refine ⟨⟨'\x7b', by simp [prettyAt, prettyFields, bracket], by decide, by decide⟩, ?_⟩
    intro fuel rest enough _
    obtain ⟨fuel, rfl⟩ : ∃ n, fuel = n + 1 :=
      ⟨fuel - 1, by simp [prettyAt, prettyFields, bracket] at enough; omega⟩
    simp [prettyAt, prettyFields, bracket, reread, rereadFields, tree?,
      skipBlanks_cons (c := '\x7b') (by decide), skipBlanks_cons (c := '\x7d') (by decide)]
  | cons f fs =>
    rw [toList_object]
    refine ⟨⟨'\x7b', by simp, by decide, by decide⟩, ?_⟩
    intro fuel rest enough _
    obtain ⟨fuel, rfl⟩ : ∃ n, fuel = n + 1 := ⟨fuel - 1, by simp at enough; omega⟩
    have enoughInside : (fieldChars f.1 (itemAt (level + 1) f.2).1 ++ followingFields
        (indent (level + 1)).toList (fs.map (fieldAt (level + 1)))).length ≤ fuel := by
      simp only [List.length_cons, List.length_append] at enough ⊢
      omega
    have fields := fields?_reads (isBlank_indent (level + 1)) (isBlank_indent level)
      (fieldAt (level + 1) f) (fs.map (fieldAt (level + 1)))
      (List.forall_mem_map (l := f :: fs).mpr reads) rest enoughInside
    simp only [List.cons_append, List.append_assoc, List.nil_append, fieldAt] at fields ⊢
    rw [fieldChars, List.cons_append, tree?_object (isBlank_indent _), ← List.cons_append,
      ← fieldChars, fields]
    simp [fieldAt, itemAt, reread, rereadFields, rereadFields_eq]

mutual

theorem reads_prettyAt (level : Nat) : ∀ v : Value, Reads (v.prettyAt level).toList v.reread
  | null => reads_null
  | bool b => reads_bool b
  | number n => reads_number n
  | text s => reads_text s
  | list xs => reads_list (reads_items (level + 1) xs)
  | object fs => reads_object (reads_fields (level + 1) fs)

theorem reads_items (level : Nat) :
    ∀ (xs : List Value), ∀ x ∈ xs, Reads (x.prettyAt level).toList x.reread
  | [] => by simp
  | x :: xs => List.forall_mem_cons.mpr ⟨reads_prettyAt level x, reads_items level xs⟩

theorem reads_fields (level : Nat) :
    ∀ (fs : List (String × Value)), ∀ f ∈ fs, Reads (f.2.prettyAt level).toList f.2.reread
  | [] => by simp
  | (name, x) :: fs => List.forall_mem_cons.mpr ⟨reads_prettyAt level x, reads_fields level fs⟩

end

/-- Every written value reads back as its tree. -/
theorem ofText?_pretty (v : Value) : Tree.ofText? v.pretty = some v.reread := by
  have length : v.pretty.toList.length ≤ v.pretty.length + 1 := by
    rw [String.length_toList]
    omega
  have ends : Numeral.Ends [] := by
    rintro _ ⟨⟩
  have read := (reads_prettyAt 0 v).reads _ [] length ends
  rw [List.append_nil, ← pretty] at read
  rw [Tree.ofText?, read]
  rfl

end Value

end Onboarding
