import Tengen.Json
/-!
# JSON text

`json.dumps`, pydantic's `model_dump_json` and `json.loads`, and the one fact the pipeline leans on wherever two
processes meet: what is dumped is read back (`loads_dumps`).  `Style` is the difference between the two writers: the
standard library puts a blank after each separator and escapes everything outside printable ASCII, pydantic does
neither.  The reader is the grammar's: JSON's blanks, its numbers with an optional fraction and exponent, `NaN`,
`Infinity` and `-Infinity`, and a repeated key keeping its last value.

It reads what was dumped, and any text where it does not matter which texts are read.  On other texts the interpreter
differs: it bounds how deep a value is nested and how many digits an integer has, rounds a float to a double, and takes an
escaped surrogate that stands alone.  What is said of every text is said of `PyJson.loads`, which does all that.

A float is written as its digits and its exponent, which reads back as the same decimal.
-/
namespace Tengen
namespace Json

/-! ## Strings -/

def hexChar (n : Nat) : Char := Nat.digitChar n

def hexVal (c : Char) : Option Nat :=
  if '0' ≤ c ∧ c ≤ '9' then some (c.toNat - 48)
  else if 'a' ≤ c ∧ c ≤ 'f' then some (c.toNat - 87)
  else if 'A' ≤ c ∧ c ≤ 'F' then some (c.toNat - 55)
  else none

def hex4 (a b c d : Char) : Option Nat := do
  let a ← hexVal a
  let b ← hexVal b
  let c ← hexVal c
  let d ← hexVal d
  return ((a * 16 + b) * 16 + c) * 16 + d

/-- `\uXXXX` for a UTF-16 code unit. -/
def escapeUnit (n : Nat) : List Char :=
  ['\\', 'u', hexChar (n / 4096 % 16), hexChar (n / 256 % 16), hexChar (n / 16 % 16), hexChar (n % 16)]

/-- A writer's spelling: blanks after separators, and whether everything but printable ASCII is escaped. -/
structure Style where
  blank : Bool
  ascii : Bool
  deriving DecidableEq, Repr

def Style.stdlib : Style := ⟨true, true⟩
def Style.pydantic : Style := ⟨false, false⟩

def escapeChar (st : Style) (c : Char) : List Char :=
  if c = '"' then ['\\', '"']
  else if c = '\\' then ['\\', '\\']
  else if c = '\n' then ['\\', 'n']
  else if c = '\r' then ['\\', 'r']
  else if c = '\t' then ['\\', 't']
  else if c.toNat = 8 then ['\\', 'b']
  else if c.toNat = 12 then ['\\', 'f']
  else if c.toNat < 32 ∨ (st.ascii = true ∧ 127 ≤ c.toNat) then
    if c.toNat < 65536 then escapeUnit c.toNat
    else escapeUnit (55296 + (c.toNat - 65536) / 1024) ++ escapeUnit (56320 + (c.toNat - 65536) % 1024)
  else [c]

def unescape (c : Char) : Option Char :=
  if c = '"' then some '"'
  else if c = '\\' then some '\\'
  else if c = '/' then some '/'
  else if c = 'n' then some '\n'
  else if c = 'r' then some '\r'
  else if c = 't' then some '\t'
  else if c = 'b' then some (Char.ofNat 8)
  else if c = 'f' then some (Char.ofNat 12)
  else none

/-- One `\uXXXX`, its backslash and letter already read. -/
def readUnit : List Char → Option (Nat × List Char)
  | a :: b :: c :: d :: s => (hex4 a b c d).map (·, s)
  | _ => none

/-- A `\u` escape, its backslash and letter already read: a high surrogate takes the low one that must follow. -/
def readUnicode (s : List Char) : Option (Char × List Char) := do
  let (n, s) ← readUnit s
  if 55296 ≤ n ∧ n ≤ 56319 then
    match s with
    | '\\' :: 'u' :: s => do
      let (m, s) ← readUnit s
      if 56320 ≤ m ∧ m ≤ 57343 then some (Char.ofNat (65536 + (n - 55296) * 1024 + (m - 56320)), s) else none
    | _ => none
  else if 56320 ≤ n ∧ n ≤ 57343 then none
  else some (Char.ofNat n, s)

/-- One character of a string literal, escaped or not. -/
def readChar : List Char → Option (Char × List Char)
  | [] => none
  | c :: s =>
    if c = '\\' then
      match s with
      | [] => none
      | e :: s => if e = 'u' then readUnicode s else (unescape e).map (·, s)
    else if c.toNat < 32 then none
    else some (c, s)

/-- A string literal up to its closing quote, its opening one already read. -/
def readString : Nat → List Char → Option (List Char × List Char)
  | 0, _ => none
  | _ + 1, [] => none
  | n + 1, c :: s =>
    if c = '"' then some ([], s)
    else do
      let (x, s) ← readChar (c :: s)
      let (xs, s) ← readString n s
      return (x :: xs, s)

theorem hexVal_hexChar : ∀ n, n < 16 → hexVal (hexChar n) = some n := by decide

theorem readUnit_escapeUnit (n : Nat) (h : n < 65536) (s : List Char) :
    ∃ a b c d, escapeUnit n = ['\\', 'u', a, b, c, d] ∧ readUnit (a :: b :: c :: d :: s) = some (n, s) := by
  refine ⟨_, _, _, _, rfl, ?_⟩
  simp only [readUnit, hex4, hexVal_hexChar _ (Nat.mod_lt _ (by decide : 0 < 16)), Option.bind_eq_bind,
    Option.bind_some, Option.pure_def, Option.map_some, Option.some.injEq, Prod.mk.injEq, and_true]
  omega

theorem Char.not_surrogate (c : Char) : ¬ (55296 ≤ c.toNat ∧ c.toNat ≤ 57343) ∧ c.toNat < 1114112 := by
  have h : c.toNat < 55296 ∨ 57343 < c.toNat ∧ c.toNat < 1114112 := c.valid
  omega

theorem readChar_escapeUnit (c : Char) (h : c.toNat < 65536) (s : List Char) :
    readChar (escapeUnit c.toNat ++ s) = some (c, s) := by
  obtain ⟨a, b, x, y, he, hr⟩ := readUnit_escapeUnit c.toNat h s
  have hs := (Char.not_surrogate c).1
  have h1 : ¬ (55296 ≤ c.toNat ∧ c.toNat ≤ 56319) := by omega
  have h2 : ¬ (56320 ≤ c.toNat ∧ c.toNat ≤ 57343) := by omega
  rw [he]
  simp [readChar, readUnicode, hr, h1, h2]

theorem readChar_pair (n m : Nat) (hn : 55296 ≤ n ∧ n ≤ 56319) (hm : 56320 ≤ m ∧ m ≤ 57343) (s : List Char) :
    readChar (escapeUnit n ++ (escapeUnit m ++ s))
      = some (Char.ofNat (65536 + (n - 55296) * 1024 + (m - 56320)), s) := by
  obtain ⟨a, b, x, y, he, hr⟩ := readUnit_escapeUnit m (by omega) s
  obtain ⟨a', b', x', y', he', hr'⟩ := readUnit_escapeUnit n (by omega) (escapeUnit m ++ s)
  rw [he']
  simp only [List.cons_append, List.nil_append, readChar, if_true, readUnicode, hr', Option.bind_eq_bind,
    Option.bind_some, if_pos hn]
  rw [he]
  simp only [List.cons_append, List.nil_append, hr, Option.bind_some, if_pos hm]

theorem readChar_escapePair (c : Char) (h : ¬ c.toNat < 65536) (s : List Char) :
    readChar (escapeUnit (55296 + (c.toNat - 65536) / 1024) ++
      (escapeUnit (56320 + (c.toNat - 65536) % 1024) ++ s)) = some (c, s) := by
  have hv := (Char.not_surrogate c).2
  rw [readChar_pair _ _ (by omega) (by omega)]
  have hc : 65536 + (55296 + (c.toNat - 65536) / 1024 - 55296) * 1024 + (56320 + (c.toNat - 65536) % 1024 - 56320)
      = c.toNat := by omega
  rw [hc, Char.ofNat_toNat]

/-- **One character written is one character read**, however it was spelled. -/
theorem readChar_escapeChar (st : Style) (c : Char) (s : List Char) : readChar (escapeChar st c ++ s) = some (c, s) := by
  unfold escapeChar
  split
  · rename_i h; subst h; rfl
  split
  · rename_i h; subst h; rfl
  split
  · rename_i h; subst h; rfl
  split
  · rename_i h; subst h; rfl
  split
  · rename_i h; subst h; rfl
  split
  · rename_i h
    rw [← Char.ofNat_toNat c, h]; rfl
  split
  · rename_i h
    rw [← Char.ofNat_toNat c, h]; rfl
  split
  · split
    · exact readChar_escapeUnit c (by assumption) s
    · rw [List.append_assoc]
      exact readChar_escapePair c (by assumption) s
  · rename_i hb _ _ _ _ _ hc
    simp only [not_or] at hc
    simp [readChar, hb, hc.1]

theorem escapeChar_head (st : Style) (c : Char) : ∃ x l, escapeChar st c = x :: l ∧ x ≠ '"' := by
  unfold escapeChar
  repeat' split
  all_goals first
    | exact ⟨_, _, rfl, by decide⟩
    | exact ⟨_, _, rfl, by assumption⟩

/-- **A string literal is read back.** -/
theorem readString_escape (st : Style) : ∀ (cs : List Char) (n : Nat) (s : List Char), cs.length < n →
    readString n (cs.flatMap (escapeChar st) ++ '"' :: s) = some (cs, s)
  | [], n + 1, s, _ => by simp [readString]
  | c :: cs, n + 1, s, h => by
    obtain ⟨x, l, he, hx⟩ := escapeChar_head st c
    have hr := readChar_escapeChar st c (cs.flatMap (escapeChar st) ++ '"' :: s)
    rw [List.flatMap_cons, List.append_assoc, he, List.cons_append, readString, if_neg hx, ← List.cons_append, ← he, hr]
    have ih := readString_escape st cs n s (by simpa using h)
    simp [ih]

/-! ## Numbers -/

def signed (neg : Bool) (n : Nat) : Int := if neg then -n else n

def intChars (i : Int) : List Char :=
  if i < 0 then '-' :: Nat.toDigits 10 i.natAbs else Nat.toDigits 10 i.natAbs

def digits (s : List Char) : List Char × List Char := (s.takeWhile Char.isDigit, s.dropWhile Char.isDigit)

def readMinus : List Char → Bool × List Char
  | [] => (false, [])
  | c :: s => if c = '-' then (true, s) else (false, c :: s)

/-- An exponent's sign, which may be written out. -/
def readSign : List Char → Bool × List Char
  | [] => (false, [])
  | c :: s => if c = '-' then (true, s) else if c = '+' then (false, s) else (false, c :: s)

/-- The integer part of a number: a lone zero, or digits that do not start with one. -/
def readIntPart : List Char → Option (List Char × List Char)
  | [] => none
  | c :: s => if c = '0' then some (['0'], s) else if c.isDigit then some (digits (c :: s)) else none

def readFrac : List Char → List Char × List Char
  | [] => ([], [])
  | c :: s => if c = '.' ∧ (digits s).1 ≠ [] then digits s else ([], c :: s)

def readExp : List Char → Option Int × List Char
  | [] => (none, [])
  | c :: s =>
    if (c = 'e' ∨ c = 'E') ∧ (digits (readSign s).2).1 ≠ [] then
      (some (signed (readSign s).1 (Nat.ofDigitChars 10 (digits (readSign s).2).1 0)), (digits (readSign s).2).2)
    else (none, c :: s)

/-- The number its parts spell: an integer without a fraction or an exponent, else a float. -/
def numberOf (neg : Bool) (ds fs : List Char) (e : Option Int) : Json :=
  if fs = [] ∧ e = none then .int (signed neg (Nat.ofDigitChars 10 ds 0))
  else .float (.dec (signed neg (Nat.ofDigitChars 10 (ds ++ fs) 0)) (e.getD 0 - fs.length))

def readNumber (s : List Char) : Option (Json × List Char) := do
  let (ds, r) ← readIntPart (readMinus s).2
  let (fs, r) := readFrac r
  let (e, r) := readExp r
  return (numberOf (readMinus s).1 ds fs e, r)

/-- What may follow a number without being read as more of it. -/
def Stops (s : List Char) : Prop := ∀ c ∈ s.head?, c.isDigit = false ∧ c ≠ '.' ∧ c ≠ 'e' ∧ c ≠ 'E'

theorem stops_nil : Stops [] := fun _ h => by cases h

theorem stops_cons {c : Char} {s : List Char} (h : c = ',' ∨ c = ']' ∨ c = '}') : Stops (c :: s) := by
  intro x hx
  cases hx
  rcases h with rfl | rfl | rfl <;> decide

theorem signed_natAbs (i : Int) : signed (decide (i < 0)) i.natAbs = i := by
  unfold signed
  by_cases h : i < 0
  · simp only [h, decide_true, if_true]; omega
  · simp only [h, decide_false, Bool.false_eq_true, if_false]; omega

theorem digits_append {ds s : List Char} (hd : ∀ c ∈ ds, c.isDigit = true) (hs : ∀ c ∈ s.head?, c.isDigit = false) :
    digits (ds ++ s) = (ds, s) := by
  have h2 : s.takeWhile Char.isDigit = [] ∧ s.dropWhile Char.isDigit = s := by
    cases s with
    | nil => simp
    | cons c s => simp [hs c rfl]
  rw [digits, List.takeWhile_append_of_pos hd, List.dropWhile_append_of_pos hd, h2.1, h2.2, List.append_nil]

theorem toDigits_isDigit (n : Nat) : ∀ c ∈ Nat.toDigits 10 n, c.isDigit = true := fun _ h =>
  Nat.isDigit_of_mem_toDigits (by decide) (by decide) h

theorem toDigits_cons (n : Nat) : ∃ c l, Nat.toDigits 10 n = c :: l ∧ c ≠ '-' ∧ c ≠ '+' := by
  cases h : Nat.toDigits 10 n with
  | nil => exact absurd h Nat.toDigits_ne_nil
  | cons c l =>
    have hc := toDigits_isDigit n c (by rw [h]; exact List.mem_cons_self)
    refine ⟨c, l, rfl, ?_, ?_⟩ <;> (rintro rfl; revert hc; decide)

theorem toDigits_head (n : Nat) : Nat.toDigits 10 n = ['0'] ∨ ∃ c l, Nat.toDigits 10 n = c :: l ∧ c ≠ '0' := by
  induction n using Nat.strongRecOn with
  | ind n ih =>
    by_cases hn : n < 10
    · rw [Nat.toDigits_of_lt_base hn]
      by_cases h : n.digitChar = '0'
      · exact Or.inl (by rw [h])
      · exact Or.inr ⟨_, _, rfl, h⟩
    · rw [Nat.toDigits_of_base_le (by decide) (by omega)]
      rcases ih (n / 10) (by omega) with h | ⟨c, l, h, hc⟩
      · have h0 := Nat.ofDigitChars_ten_toDigits (n := n / 10)
        rw [h] at h0
        have : n / 10 = 0 := h0.symm
        omega
      · exact Or.inr ⟨c, l ++ [(n % 10).digitChar], by rw [h, List.cons_append], hc⟩

theorem readIntPart_toDigits (n : Nat) (s : List Char) (hs : ∀ c ∈ s.head?, c.isDigit = false) :
    readIntPart (Nat.toDigits 10 n ++ s) = some (Nat.toDigits 10 n, s) := by
  rcases toDigits_head n with h | ⟨c, l, h, hc⟩
  · rw [h]; rfl
  · have hd := toDigits_isDigit n
    rw [h] at hd ⊢
    rw [List.cons_append, readIntPart, if_neg hc, if_pos (hd c List.mem_cons_self), ← List.cons_append,
      digits_append hd hs]

theorem readMinus_intChars (i : Int) (s : List Char) :
    readMinus (intChars i ++ s) = (decide (i < 0), Nat.toDigits 10 i.natAbs ++ s) := by
  unfold intChars
  by_cases h : i < 0
  · simp [h, readMinus]
  · obtain ⟨c, l, hc, hm, -⟩ := toDigits_cons i.natAbs
    simp [h, hc, readMinus, hm]

theorem readSign_intChars (i : Int) (s : List Char) :
    readSign (intChars i ++ s) = (decide (i < 0), Nat.toDigits 10 i.natAbs ++ s) := by
  unfold intChars
  by_cases h : i < 0
  · simp [h, readSign]
  · obtain ⟨c, l, hc, hm, hp⟩ := toDigits_cons i.natAbs
    simp [h, hc, readSign, hm, hp]

theorem readFrac_of_ne {s : List Char} (h : ∀ c ∈ s.head?, c ≠ '.') : readFrac s = ([], s) := by
  cases s with
  | nil => rfl
  | cons c s => simp [readFrac, h c rfl]

theorem readExp_of_ne {s : List Char} (h : ∀ c ∈ s.head?, c ≠ 'e' ∧ c ≠ 'E') : readExp s = (none, s) := by
  cases s with
  | nil => rfl
  | cons c s => simp [readExp, (h c rfl).1, (h c rfl).2]

theorem readExp_intChars (e : Int) (s : List Char) (hs : Stops s) :
    readExp ('e' :: (intChars e ++ s)) = (some e, s) := by
  have hd := digits_append (toDigits_isDigit e.natAbs) (fun c hc => (hs c hc).1)
  rw [readExp, readSign_intChars, hd]
  simp only [true_or, ne_eq, Nat.toDigits_ne_nil, not_false_eq_true, and_self, if_true,
    Nat.ofDigitChars_ten_toDigits, signed_natAbs]

/-- **An integer is read back.** -/
theorem readNumber_int (i : Int) (s : List Char) (hs : Stops s) : readNumber (intChars i ++ s) = some (.int i, s) := by
  have hi := readIntPart_toDigits i.natAbs s (fun c hc => (hs c hc).1)
  have hf := readFrac_of_ne (s := s) (fun c hc => (hs c hc).2.1)
  have he := readExp_of_ne (s := s) (fun c hc => (hs c hc).2.2)
  simp [readNumber, readMinus_intChars, hi, hf, he, numberOf, Nat.ofDigitChars_ten_toDigits, signed_natAbs]

/-- **A float is read back.** -/
theorem readNumber_dec (m e : Int) (s : List Char) (hs : Stops s) :
    readNumber (intChars m ++ 'e' :: (intChars e ++ s)) = some (.float (.dec m e), s) := by
  have he := readExp_intChars e s hs
  generalize hr : 'e' :: (intChars e ++ s) = r at he ⊢
  have hi := readIntPart_toDigits m.natAbs r (fun c hc => by subst hr; cases hc; decide)
  have hf := readFrac_of_ne (s := r) (fun c hc => by subst hr; cases hc; decide)
  simp [readNumber, readMinus_intChars, hi, hf, he, numberOf, Nat.ofDigitChars_ten_toDigits, signed_natAbs]

/-! ## Values -/

def isBlank (c : Char) : Bool := c == ' ' || c == '\n' || c == '\t' || c == '\r'

def skipBlanks (s : List Char) : List Char := s.dropWhile isBlank

def strChars (st : Style) (s : String) : List Char := '"' :: (s.toList.flatMap (escapeChar st) ++ ['"'])

def fltChars : Flt → List Char
  | .dec m e => intChars m ++ 'e' :: intChars e
  | .nan => ['N', 'a', 'N']
  | .inf neg => if neg then '-' :: "Infinity".toList else "Infinity".toList

def sep (st : Style) (c : Char) : List Char := if st.blank then [c, ' '] else [c]

mutual
def render (st : Style) : Json → List Char
  | .null => "null".toList
  | .bool b => if b then "true".toList else "false".toList
  | .int i => intChars i
  | .float f => fltChars f
  | .str s => strChars st s
  | .arr [] => ['[', ']']
  | .arr (j :: l) => '[' :: (render st j ++ renderElems st l)
  | .obj [] => ['{', '}']
  | .obj ((k, j) :: l) => '{' :: (strChars st k ++ (sep st ':' ++ (render st j ++ renderItems st l)))

def renderElems (st : Style) : List Json → List Char
  | [] => [']']
  | j :: l => sep st ',' ++ (render st j ++ renderElems st l)

def renderItems (st : Style) : List (String × Json) → List Char
  | [] => ['}']
  | (k, j) :: l => sep st ',' ++ (strChars st k ++ (sep st ':' ++ (render st j ++ renderItems st l)))
end

def readName (name : List Char) (j : Json) (s : List Char) : Option (Json × List Char) :=
  if name.isPrefixOf s then some (j, s.drop name.length) else none

/-- A key and its colon, up to the value. -/
def readKey : List Char → Option (String × List Char)
  | [] => none
  | c :: s =>
    if c = '"' then do
      let (k, s) ← readString (s.length + 1) s
      match skipBlanks s with
      | ':' :: s => some (String.ofList k, skipBlanks s)
      | _ => none
    else none

mutual
/-- One value at the head of the text.  The fuel is the text's length and one more: each step reads a character. -/
def readValue : Nat → List Char → Option (Json × List Char)
  | 0, _ => none
  | _ + 1, [] => none
  | n + 1, c :: s =>
    if c = '"' then (readString (s.length + 1) s).map (fun p => (.str (String.ofList p.1), p.2))
    else if c = '[' then
      match skipBlanks s with
      | ']' :: s => some (.arr [], s)
      | s => (readElems n s).map (fun p => (.arr p.1, p.2))
    else if c = '{' then
      match skipBlanks s with
      | '}' :: s => some (.obj [], s)
      | s => (readItems n s).map (fun p => (.obj (ofPairs p.1), p.2))
    else if c = 'n' then readName "null".toList .null (c :: s)
    else if c = 't' then readName "true".toList (.bool true) (c :: s)
    else if c = 'f' then readName "false".toList (.bool false) (c :: s)
    else if c = 'N' then readName "NaN".toList (.float .nan) (c :: s)
    else if c = 'I' then readName "Infinity".toList (.float (.inf false)) (c :: s)
    else (readName "-Infinity".toList (.float (.inf true)) (c :: s)).or (readNumber (c :: s))

def readElems : Nat → List Char → Option (List Json × List Char)
  | 0, _ => none
  | n + 1, s => do
    let (j, s) ← readValue n s
    match skipBlanks s with
    | ']' :: s => some ([j], s)
    | ',' :: s => do
      let (l, s) ← readElems n (skipBlanks s)
      return (j :: l, s)
    | _ => none

def readItems : Nat → List Char → Option (List (String × Json) × List Char)
  | 0, _ => none
  | n + 1, s => do
    let (k, s) ← readKey s
    let (j, s) ← readValue n s
    match skipBlanks s with
    | '}' :: s => some ([(k, j)], s)
    | ',' :: s => do
      let (l, s) ← readItems n (skipBlanks s)
      return ((k, j) :: l, s)
    | _ => none
end

/-- `json.loads`: one value and nothing else but blanks. -/
def loadsChars (s : List Char) : Option Json := do
  let (j, r) ← readValue (s.length + 1) (skipBlanks s)
  if (skipBlanks r).isEmpty then some j else none

def loads (s : String) : Option Json := loadsChars s.toList

theorem loads_empty : loads "" = none := by
  unfold loads loadsChars
  rfl

def dumpsIn (st : Style) (j : Json) : String := String.ofList (render st j)

def dumps (j : Json) : String := dumpsIn .stdlib j

/-! ## What is dumped is read back -/

mutual
/-- The fuel a value's text takes. -/
def depth : Json → Nat
  | .arr l => depthElems l + 1
  | .obj l => depthItems l + 1
  | _ => 1

def depthElems : List Json → Nat
  | [] => 0
  | j :: l => max j.depth (depthElems l) + 1

def depthItems : List (String × Json) → Nat
  | [] => 0
  | (_, j) :: l => max j.depth (depthItems l) + 1
end

theorem skipBlanks_of_head {s : List Char} (h : ∀ c ∈ s.head?, isBlank c = false) : skipBlanks s = s := by
  cases s with
  | nil => rfl
  | cons c s => simp [skipBlanks, h c rfl]

theorem skipBlanks_sep (st : Style) (c : Char) (s : List Char) (hs : ∀ c ∈ s.head?, isBlank c = false)
    (hc : isBlank c = false) : ∃ r, skipBlanks (sep st c ++ s) = c :: r ∧ skipBlanks r = s := by
  unfold sep
  split
  · refine ⟨' ' :: s, skipBlanks_of_head (fun x hx => by cases hx; exact hc), ?_⟩
    have := skipBlanks_of_head hs
    simpa [skipBlanks, List.dropWhile_cons, isBlank] using this
  · exact ⟨s, skipBlanks_of_head (fun x hx => by cases hx; exact hc), skipBlanks_of_head hs⟩

theorem intChars_head (i : Int) : ∃ c l, intChars i = c :: l ∧ (c = '-' ∨ c.isDigit = true) := by
  unfold intChars
  split
  · exact ⟨_, _, rfl, Or.inl rfl⟩
  · obtain ⟨c, l, h, -⟩ := toDigits_cons i.natAbs
    exact ⟨c, l, h, Or.inr (toDigits_isDigit _ c (by rw [h]; exact List.mem_cons_self))⟩

theorem render_head (st : Style) (j : Json) :
    ∃ c l, render st j = c :: l ∧ isBlank c = false ∧ c ≠ ']' ∧ c ≠ '}' := by
  have key : ∀ c : Char, c = '-' ∨ c.isDigit = true → isBlank c = false ∧ c ≠ ']' ∧ c ≠ '}' := by
    rintro c (rfl | h)
    · decide
    · refine ⟨?_, ?_, ?_⟩
      · simp only [isBlank, Bool.or_eq_false_iff, beq_eq_false_iff_ne]
        refine ⟨⟨⟨?_, ?_⟩, ?_⟩, ?_⟩ <;> (rintro rfl; revert h; decide)
      all_goals (rintro rfl; revert h; decide)
  match j with
  | .null => exact ⟨_, _, rfl, by decide⟩
  | .bool true => exact ⟨_, _, rfl, by decide⟩
  | .bool false => exact ⟨_, _, rfl, by decide⟩
  | .int i =>
    obtain ⟨c, l, h, hc⟩ := intChars_head i
    exact ⟨c, l, h, key c hc⟩
  | .float (.dec m e) =>
    obtain ⟨c, l, h, hc⟩ := intChars_head m
    exact ⟨c, l ++ 'e' :: intChars e, by rw [render, fltChars, h, List.cons_append], key c hc⟩
  | .float .nan => exact ⟨_, _, rfl, by decide⟩
  | .float (.inf true) => exact ⟨_, _, rfl, by decide⟩
  | .float (.inf false) => exact ⟨_, _, rfl, by decide⟩
  | .str s => exact ⟨_, _, rfl, by decide⟩
  | .arr [] => exact ⟨_, _, rfl, by decide⟩
  | .arr (_ :: _) => exact ⟨_, _, rfl, by decide⟩
  | .obj [] => exact ⟨_, _, rfl, by decide⟩
  | .obj ((_, _) :: _) => exact ⟨_, _, rfl, by decide⟩

theorem render_append_head (st : Style) (j : Json) (s : List Char) :
    ∀ c ∈ (render st j ++ s).head?, isBlank c = false := by
  obtain ⟨c, l, h, hb, -⟩ := render_head st j
  rw [h]
  intro x hx
  cases hx
  exact hb

theorem readString_strChars (st : Style) (k : String) (s : List Char) :
    ∃ r, strChars st k ++ s = '"' :: r ∧ readString (r.length + 1) r = some (k.toList, s) := by
  refine ⟨k.toList.flatMap (escapeChar st) ++ '"' :: s, by simp [strChars], ?_⟩
  refine readString_escape st k.toList _ s ?_
  have : ∀ cs : List Char, cs.length ≤ (cs.flatMap (escapeChar st)).length := by
    intro cs
    induction cs with
    | nil => simp
    | cons c cs ih =>
      obtain ⟨x, l, he, -⟩ := escapeChar_head st c
      rw [List.flatMap_cons, he, List.length_append, List.length_cons, List.length_cons]
      omega
  have := this k.toList
  simp only [List.length_append, List.length_cons]
  omega

theorem readKey_strChars (st : Style) (k : String) (s : List Char) (hs : ∀ c ∈ s.head?, isBlank c = false) :
    readKey (strChars st k ++ (sep st ':' ++ s)) = some (k, s) := by
  obtain ⟨r, hr, hread⟩ := readString_strChars st k (sep st ':' ++ s)
  obtain ⟨r', hr', hskip⟩ := skipBlanks_sep st ':' s hs (by decide)
  rw [hr, readKey, if_pos rfl, hread]
  simp [hr', hskip]

theorem readValue_number {n : Nat} {c : Char} {s : List Char} (hc : c = '-' ∨ c.isDigit = true)
    (hp : "-Infinity".toList.isPrefixOf (c :: s) = false) : readValue (n + 1) (c :: s) = readNumber (c :: s) := by
  have hne : ∀ x : Char, x ≠ '-' → x.isDigit = false → c ≠ x := by
    rintro x hx hxd rfl
    rcases hc with rfl | hc
    · exact hx rfl
    · rw [hxd] at hc; cases hc
  rw [readValue, if_neg (hne _ (by decide) (by decide)), if_neg (hne _ (by decide) (by decide)),
    if_neg (hne _ (by decide) (by decide)), if_neg (hne _ (by decide) (by decide)),
    if_neg (hne _ (by decide) (by decide)), if_neg (hne _ (by decide) (by decide)),
    if_neg (hne _ (by decide) (by decide)), if_neg (hne _ (by decide) (by decide)), readName, hp,
    if_neg Bool.false_ne_true, Option.none_or]

/-- An integer's text is a number's, and not `-Infinity`: its second character, if any, is a digit. -/
theorem intChars_cons (i : Int) (s : List Char) : ∃ c l, intChars i ++ s = c :: l ∧ (c = '-' ∨ c.isDigit = true) ∧
    "-Infinity".toList.isPrefixOf (c :: l) = false := by
  have hd := toDigits_isDigit i.natAbs
  obtain ⟨c, l, h, hm, -⟩ := toDigits_cons i.natAbs
  rw [h] at hd
  have hc := hd c List.mem_cons_self
  unfold intChars
  split
  · refine ⟨'-', c :: l ++ s, by rw [h, List.cons_append], Or.inl rfl, ?_⟩
    have hI : ('I' == c) = false := by
      rw [beq_eq_false_iff_ne]
      rintro rfl
      revert hc
      decide
    simp [List.isPrefixOf, hI]
  · refine ⟨c, l ++ s, by rw [h, List.cons_append], Or.inr hc, ?_⟩
    have hM : ('-' == c) = false := by
      rw [beq_eq_false_iff_ne]
      exact Ne.symm hm
    simp [List.isPrefixOf, hM]

theorem stops_renderElems (st : Style) (l : List Json) (s : List Char) : Stops (renderElems st l ++ s) := by
  cases l with
  | nil => exact stops_cons (by simp)
  | cons j l =>
    rw [renderElems, sep]
    split <;> exact stops_cons (by simp)

theorem stops_renderItems (st : Style) (l : List (String × Json)) (s : List Char) :
    Stops (renderItems st l ++ s) := by
  cases l with
  | nil => exact stops_cons (by simp)
  | cons p l =>
    obtain ⟨k, j⟩ := p
    rw [renderItems, sep]
    split <;> exact stops_cons (by simp)

mutual
/-- **A value's text is read back as the value**, whatever follows that cannot continue a number. -/
theorem readValue_render (st : Style) : ∀ (j : Json) (n : Nat) (s : List Char), j.wf = true → j.depth ≤ n → Stops s →
    readValue n (render st j ++ s) = some (j, s)
  | j, 0, _, _, h, _ => by cases j <;> simp [depth] at h
  | .null, n + 1, s, _, _, _ => by simp [render, readValue, readName]
  | .bool true, n + 1, s, _, _, _ => by simp [render, readValue, readName]
  | .bool false, n + 1, s, _, _, _ => by simp [render, readValue, readName]
  | .int i, n + 1, s, _, _, hs => by
    obtain ⟨c, l, h, hc, hp⟩ := intChars_cons i s
    rw [render, h, readValue_number hc hp, ← h]
    exact readNumber_int i s hs
  | .float (.dec m e), n + 1, s, _, _, hs => by
    obtain ⟨c, l, h, hc, hp⟩ := intChars_cons m ('e' :: (intChars e ++ s))
    have hr : render st (.float (.dec m e)) ++ s = intChars m ++ 'e' :: (intChars e ++ s) := by
      simp [render, fltChars]
    rw [hr, h, readValue_number hc hp, ← h]
    exact readNumber_dec m e s hs
  | .float .nan, n + 1, s, _, _, _ => by simp [render, fltChars, readValue, readName]
  | .float (.inf true), n + 1, s, _, _, _ => by simp [render, fltChars, readValue, readName]
  | .float (.inf false), n + 1, s, _, _, _ => by simp [render, fltChars, readValue, readName]
  | .str k, n + 1, s, _, _, _ => by
    obtain ⟨r, hr, hread⟩ := readString_strChars st k s
    rw [render, hr, readValue, if_pos rfl, hread]
    simp
  | .arr [], n + 1, s, _, _, _ => by simp [render, readValue, skipBlanks, isBlank]
  | .arr (j :: l), n + 1, s, hw, hn, _ => by
    have ih := readElems_render st l j n s (by rwa [wf] at hw) (by rw [depth] at hn; omega)
    obtain ⟨c, r, hr, hb, hne, -⟩ := render_head st j
    have hskip : skipBlanks (render st j ++ (renderElems st l ++ s)) = c :: (r ++ (renderElems st l ++ s)) := by
      rw [skipBlanks_of_head (render_append_head st j _), hr, List.cons_append]
    rw [hr, List.cons_append] at ih
    simp only [render, List.cons_append, List.append_assoc]
    rw [readValue, if_neg (by decide), if_pos rfl, hskip]
    split
    · rename_i h
      cases h
      exact absurd rfl hne
    · rw [ih]; rfl
  | .obj [], n + 1, s, _, _, _ => by simp [render, readValue, skipBlanks, isBlank]
  | .obj ((k, j) :: l), n + 1, s, hw, hn, _ => by
    have hw' := (wf_obj_iff _).1 hw
    have ih := readItems_render st l k j n s ((wfItems_iff _).2 hw'.2) (by rw [depth] at hn; omega)
    obtain ⟨r, hr, -⟩ := readString_strChars st k (sep st ':' ++ (render st j ++ (renderItems st l ++ s)))
    simp only [render, List.cons_append, List.append_assoc]
    rw [hr] at ih ⊢
    rw [readValue, if_neg (by decide), if_neg (by decide), if_pos rfl,
      skipBlanks_of_head (fun c hc => by cases hc; decide)]
    simp [ih, ofPairs_of_nodup _ hw'.1]

theorem readElems_render (st : Style) : ∀ (l : List Json) (j : Json) (n : Nat) (s : List Char),
    wfElems (j :: l) = true → depthElems (j :: l) ≤ n →
      readElems n (render st j ++ (renderElems st l ++ s)) = some (j :: l, s)
  | _, _, 0, _, _, hn => by simp [depthElems] at hn
  | [], j, n + 1, s, hw, hn => by
    rw [wfElems, Bool.and_eq_true] at hw
    rw [depthElems] at hn
    rw [readElems, readValue_render st j n _ hw.1 (by omega) (stops_renderElems st [] s)]
    simp [renderElems, skipBlanks, isBlank]
  | j' :: l, j, n + 1, s, hw, hn => by
    rw [wfElems, Bool.and_eq_true] at hw
    rw [depthElems] at hn
    have hv := readValue_render st j n _ hw.1 (by omega) (stops_renderElems st (j' :: l) s)
    have ih := readElems_render st l j' n s hw.2 (by omega)
    obtain ⟨r, hr, hskip⟩ := skipBlanks_sep st ',' _ (render_append_head st j' (renderElems st l ++ s)) (by decide)
    rw [readElems, hv]
    simp only [renderElems, List.append_assoc, Option.bind_eq_bind, Option.bind_some, hr, hskip, ih, Option.pure_def]

theorem readItems_render (st : Style) : ∀ (l : List (String × Json)) (k : String) (j : Json) (n : Nat) (s : List Char),
    wfItems ((k, j) :: l) = true → depthItems ((k, j) :: l) ≤ n →
      readItems n (strChars st k ++ (sep st ':' ++ (render st j ++ (renderItems st l ++ s)))) = some ((k, j) :: l, s)
  | _, _, _, 0, _, _, hn => by simp [depthItems] at hn
  | [], k, j, n + 1, s, hw, hn => by
    rw [wfItems, Bool.and_eq_true] at hw
    rw [depthItems] at hn
    rw [readItems, readKey_strChars st k _ (render_append_head st j _)]
    simp only [Option.bind_eq_bind, Option.bind_some]
    rw [readValue_render st j n _ hw.1 (by omega) (stops_renderItems st [] s)]
    simp [renderItems, skipBlanks, isBlank]
  | (k', j') :: l, k, j, n + 1, s, hw, hn => by
    rw [wfItems, Bool.and_eq_true] at hw
    rw [depthItems] at hn
    have hv := readValue_render st j n _ hw.1 (by omega) (stops_renderItems st ((k', j') :: l) s)
    have ih := readItems_render st l k' j' n s hw.2 (by omega)
    obtain ⟨r, hr, hskip⟩ := skipBlanks_sep st ','
      (strChars st k' ++ (sep st ':' ++ (render st j' ++ (renderItems st l ++ s))))
      (fun c hc => by cases hc; decide) (by decide)
    rw [readItems, readKey_strChars st k _ (render_append_head st j _)]
    simp only [Option.bind_eq_bind, Option.bind_some]
    rw [hv]
    simp only [renderItems, List.append_assoc, Option.bind_some, hr, hskip, ih, Option.pure_def]
end

/-! Every level of a value costs its text a character, so the text's length is fuel enough. -/

theorem length_sep (st : Style) (c : Char) : 1 ≤ (sep st c).length := by
  unfold sep
  split <;> simp

mutual
theorem depth_le_length (st : Style) : ∀ (j : Json), j.depth ≤ (render st j).length
  | .null => by simp [depth, render]
  | .bool b => by cases b <;> simp [depth, render]
  | .int i => by
    obtain ⟨c, l, h, -⟩ := intChars_head i
    simp [depth, render, h]
  | .float (.dec m e) => by simp [depth, render, fltChars]; omega
  | .float .nan => by simp [depth, render, fltChars]
  | .float (.inf b) => by cases b <;> simp [depth, render, fltChars]
  | .str s => by simp [depth, render, strChars]
  | .arr [] => by simp [depth, depthElems, render]
  | .arr (j :: l) => by
    have h1 := depth_le_length st j
    have h2 := depthElems_le_length st l
    simp only [depth, depthElems, render, List.length_cons, List.length_append]
    omega
  | .obj [] => by simp [depth, depthItems, render]
  | .obj ((k, j) :: l) => by
    have h1 := depth_le_length st j
    have h2 := depthItems_le_length st l
    have h3 := length_sep st ':'
    simp only [depth, depthItems, render, List.length_cons, List.length_append]
    omega

theorem depthElems_le_length (st : Style) : ∀ (l : List Json), depthElems l + 1 ≤ (renderElems st l).length
  | [] => by simp [depthElems, renderElems]
  | j :: l => by
    have h1 := depth_le_length st j
    have h2 := depthElems_le_length st l
    have h3 := length_sep st ','
    simp only [depthElems, renderElems, List.length_append]
    omega

theorem depthItems_le_length (st : Style) : ∀ (l : List (String × Json)), depthItems l + 1 ≤ (renderItems st l).length
  | [] => by simp [depthItems, renderItems]
  | (k, j) :: l => by
    have h1 := depth_le_length st j
    have h2 := depthItems_le_length st l
    have h3 := length_sep st ','
    simp only [depthItems, renderItems, List.length_append]
    omega
end

/-- **What either writer dumps, `json.loads` reads back.** -/
theorem loads_dumpsIn (st : Style) (j : Json) (h : j.wf = true) : loads (dumpsIn st j) = some j := by
  have hd := depth_le_length st j
  have hr := readValue_render st j ((render st j).length + 1) [] h (by omega) stops_nil
  have hs := skipBlanks_of_head (render_append_head st j [])
  rw [List.append_nil] at hr hs
  rw [loads, dumpsIn, String.toList_ofList, loadsChars, hs, hr]
  simp only [skipBlanks, Option.bind_eq_bind, Option.bind_some]
  exact if_pos rfl

theorem loads_dumps (j : Json) (h : j.wf = true) : loads (dumps j) = some j := loads_dumpsIn .stdlib j h

/-! ## What is read is well formed -/

theorem wf_of_readName {name s r : List Char} {j j' : Json} (hj : j.wf = true) (h : readName name j s = some (j', r)) :
    j'.wf = true := by
  unfold readName at h
  split at h
  · cases h; exact hj
  · cases h

theorem wf_of_readNumber {s r : List Char} {j : Json} (h : readNumber s = some (j, r)) : j.wf = true := by
  simp only [readNumber, Option.bind_eq_bind, Option.bind_eq_some_iff, Option.pure_def, Option.some.injEq,
    Prod.mk.injEq] at h
  obtain ⟨p, -, hj, -⟩ := h
  rw [← hj, numberOf]
  split <;> rfl

mutual
theorem wf_of_readValue : ∀ (n : Nat) (s : List Char) {r : List Char} {j : Json}, readValue n s = some (j, r) →
    j.wf = true
  | 0, _, _, _, h => by simp [readValue] at h
  | n + 1, [], _, _, h => by simp [readValue] at h
  | n + 1, c :: s, r, j, h => by
    rw [readValue] at h
    split at h
    · obtain ⟨p, -, hp⟩ := Option.map_eq_some_iff.1 h
      cases hp; rfl
    split at h
    · split at h
      · cases h; rfl
      · obtain ⟨p, hp, he⟩ := Option.map_eq_some_iff.1 h
        cases he
        exact (wf_arr_iff _).2 ((wfElems_iff _).1 (wf_of_readElems n _ hp))
    split at h
    · split at h
      · cases h; rfl
      · obtain ⟨p, hp, he⟩ := Option.map_eq_some_iff.1 h
        cases he
        exact wf_ofPairs _ ((wfItems_iff _).1 (wf_of_readItems n _ hp))
    split at h
    · exact wf_of_readName rfl h
    split at h
    · exact wf_of_readName rfl h
    split at h
    · exact wf_of_readName rfl h
    split at h
    · exact wf_of_readName rfl h
    split at h
    · exact wf_of_readName rfl h
    rcases Option.or_eq_some_iff.1 h with h | ⟨-, h⟩
    · exact wf_of_readName rfl h
    · exact wf_of_readNumber h

theorem wf_of_readElems : ∀ (n : Nat) (s : List Char) {r : List Char} {l : List Json}, readElems n s = some (l, r) →
    wfElems l = true
  | 0, _, _, _, h => by simp [readElems] at h
  | n + 1, s, r, l, h => by
    simp only [readElems, Option.bind_eq_bind, Option.bind_eq_some_iff] at h
    obtain ⟨⟨j, s'⟩, hj, h⟩ := h
    have hw := wf_of_readValue n s hj
    simp only at h
    split at h
    · cases h
      simp [wfElems, hw]
    · simp only [Option.bind_eq_some_iff, Option.pure_def, Option.some.injEq, Prod.mk.injEq] at h
      obtain ⟨p, hp, rfl, -⟩ := h
      simp [wfElems, hw, wf_of_readElems n _ hp]
    · cases h

theorem wf_of_readItems : ∀ (n : Nat) (s : List Char) {r : List Char} {l : List (String × Json)},
    readItems n s = some (l, r) → wfItems l = true
  | 0, _, _, _, h => by simp [readItems] at h
  | n + 1, s, r, l, h => by
    simp only [readItems, Option.bind_eq_bind, Option.bind_eq_some_iff] at h
    obtain ⟨⟨k, s₁⟩, -, ⟨j, s₂⟩, hj, h⟩ := h
    have hw := wf_of_readValue n s₁ hj
    simp only at h
    split at h
    · cases h
      simp [wfItems, hw]
    · simp only [Option.bind_eq_some_iff, Option.pure_def, Option.some.injEq, Prod.mk.injEq] at h
      obtain ⟨p, hp, rfl, -⟩ := h
      simp [wfItems, hw, wf_of_readItems n _ hp]
    · cases h
end

/-- **Every value `json.loads` returns is well formed.** -/
theorem wf_of_loads {s : String} {j : Json} (h : loads s = some j) : j.wf = true := by
  simp only [loads, loadsChars, Option.bind_eq_bind, Option.bind_eq_some_iff] at h
  obtain ⟨⟨j', r⟩, hj, h⟩ := h
  have hw := wf_of_readValue _ _ hj
  simp only at h
  split at h
  · cases h; exact hw
  · cases h

/-! ## A dumped value is one line -/

theorem newline_not_mem_escapeChar (st : Style) (c : Char) : '\n' ∉ escapeChar st c := by
  have hu : ∀ n, '\n' ∉ escapeUnit n := by
    intro n
    have hx : ∀ m, m < 16 → '\n' ≠ hexChar m := by decide
    simp only [escapeUnit, List.mem_cons, List.not_mem_nil, or_false, not_or]
    exact ⟨by decide, by decide, hx _ (Nat.mod_lt _ (by decide)), hx _ (Nat.mod_lt _ (by decide)),
      hx _ (Nat.mod_lt _ (by decide)), hx _ (Nat.mod_lt _ (by decide))⟩
  unfold escapeChar
  repeat' split
  all_goals first
    | decide
    | exact hu _
    | (rw [List.mem_append]; exact fun h => h.elim (hu _) (hu _))
    | skip
  rename_i h _ _ _ _ _
  exact fun hm => h (List.mem_singleton.1 hm).symm

theorem newline_not_mem_intChars (i : Int) : '\n' ∉ intChars i := by
  have hd : '\n' ∉ Nat.toDigits 10 i.natAbs := fun h => by
    have := toDigits_isDigit _ _ h
    revert this
    decide
  unfold intChars
  split
  · rw [List.mem_cons, not_or]; exact ⟨by decide, hd⟩
  · exact hd

theorem newline_not_mem_strChars (st : Style) (s : String) : '\n' ∉ strChars st s := by
  simp only [strChars, List.mem_cons, List.mem_append, List.mem_flatMap, List.not_mem_nil, or_false, not_or,
    not_exists, not_and]
  exact ⟨by decide, fun c _ => newline_not_mem_escapeChar st c, by decide⟩

theorem newline_not_mem_sep (st : Style) {c : Char} (h : c ≠ '\n') : '\n' ∉ sep st c := by
  unfold sep
  split <;> simp [Ne.symm h]

mutual
/-- **A dumped value holds no line break**, so values joined by line breaks can be told apart. -/
theorem newline_not_mem_render (st : Style) : ∀ (j : Json), '\n' ∉ render st j
  | .null => by simp [render]
  | .bool b => by cases b <;> simp [render]
  | .int i => newline_not_mem_intChars i
  | .float (.dec m e) => by simp [render, fltChars, newline_not_mem_intChars]
  | .float .nan => by simp [render, fltChars]
  | .float (.inf b) => by cases b <;> simp [render, fltChars]
  | .str s => newline_not_mem_strChars st s
  | .arr [] => by simp [render]
  | .arr (j :: l) => by
    have h1 := newline_not_mem_render st j
    have h2 := newline_not_mem_renderElems st l
    simp [render, h1, h2]
  | .obj [] => by simp [render]
  | .obj ((k, j) :: l) => by
    have h1 := newline_not_mem_render st j
    have h2 := newline_not_mem_renderItems st l
    simp [render, h1, h2, newline_not_mem_strChars, newline_not_mem_sep]

theorem newline_not_mem_renderElems (st : Style) : ∀ (l : List Json), '\n' ∉ renderElems st l
  | [] => by simp [renderElems]
  | j :: l => by
    have h1 := newline_not_mem_render st j
    have h2 := newline_not_mem_renderElems st l
    simp [renderElems, h1, h2, newline_not_mem_sep]

theorem newline_not_mem_renderItems (st : Style) : ∀ (l : List (String × Json)), '\n' ∉ renderItems st l
  | [] => by simp [renderItems]
  | (k, j) :: l => by
    have h1 := newline_not_mem_render st j
    have h2 := newline_not_mem_renderItems st l
    simp [renderItems, h1, h2, newline_not_mem_strChars, newline_not_mem_sep]
end

end Json
end Tengen
