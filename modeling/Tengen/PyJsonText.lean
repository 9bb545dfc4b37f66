import Tengen.JsonText
import Tengen.PyJson
import Tengen.Unicode
/-!
# JSON text in Python's strings

`json.loads` and `json.dumps` as CPython runs them on strings of code points.  Reading ends in a value or in one of three
exceptions, whichever is met first on the way through the text: `JSONDecodeError`; the `ValueError` of an integer of too
many digits; and the `RecursionError` of lists and objects nested deeper than there is room for on the interpreter's
stack.  An escape may be of a surrogate alone, and a float is rounded to a double.

`loads_dumps` is the round trip: what is written is read back, its surrogates joined, where there is room.
-/
namespace Tengen

/-- What `json.loads` raises: `JSONDecodeError`, `ValueError`, `RecursionError`. -/
inductive JsonError where
  | decode | digits | recursion
  deriving DecidableEq, Repr

def orElse {α : Type} (o : Option α) (e : Except JsonError α) : Except JsonError α := o.elim e .ok

/-- The `JSONDecodeError` of what does not read. -/
def orDecode {α : Type} (o : Option α) : Except JsonError α := orElse o (.error .decode)

@[simp] theorem orDecode_some {α : Type} (a : α) : orDecode (some a) = .ok a := rfl

theorem orElse_eq_ok {α : Type} {o : Option α} {e : Except JsonError α} {a : α} :
    orElse o e = .ok a ↔ o = some a ∨ o = none ∧ e = .ok a := by
  cases o <;> simp [orElse]

theorem bind_eq_ok {ε α β : Type} {x : Except ε α} {f : α → Except ε β} {b : β} :
    x >>= f = .ok b ↔ ∃ a, x = .ok a ∧ f a = .ok b := by
  cases x <;> simp [bind, Except.bind]

theorem map_eq_ok {ε α β : Type} {x : Except ε α} {f : α → β} {b : β} :
    x.map f = .ok b ↔ ∃ a, x = .ok a ∧ f a = b := by
  cases x <;> simp [Except.map]

theorem orDecode_eq_ok {α : Type} {o : Option α} {a : α} : orDecode o = .ok a ↔ o = some a := by
  simp [orDecode, orElse_eq_ok]

namespace PyJson

open CodePoint (Pairs paired)

/-! ## Strings -/

def isBlank : CodePoint → Bool
  | .char c => Json.isBlank c
  | .surrogate _ => false

def skipBlanks (s : PyStr) : PyStr := s.dropWhile isBlank

/-- The code point of a UTF-16 unit. -/
def ofUnit (n : Nat) : CodePoint :=
  if h : 55296 ≤ n ∧ n < 57344 then .surrogate ⟨n - 55296, by omega⟩ else .char (Char.ofNat n)

def readUnit : PyStr → Option (Nat × PyStr)
  | .char a :: .char b :: .char c :: .char d :: s => (Json.hex4 a b c d).map (·, s)
  | _ => none

/-- A `\u` escape, its backslash and letter already read; a high surrogate takes the low one that an escape after it
may be. -/
def readUnicode (s : PyStr) : Option (CodePoint × PyStr) := do
  let (n, s) ← readUnit s
  match ofUnit n, s with
  | .surrogate high, .char '\\' :: .char 'u' :: r => do
    let (m, r) ← readUnit r
    match ofUnit m with
    | .surrogate low => if Pairs high low then some (.char (paired high low), r) else some (.surrogate high, s)
    | .char _ => some (.surrogate high, s)
  | c, s => some (c, s)

/-- One code point of a string literal, escaped or not. -/
def readChar : PyStr → Option (CodePoint × PyStr)
  | [] => none
  | .surrogate n :: s => some (.surrogate n, s)
  | .char c :: s =>
    if c = '\\' then
      match s with
      | .char e :: s => if e = 'u' then readUnicode s else (Json.unescape e).map fun x => (.char x, s)
      | _ => none
    else if c.toNat < 32 then none
    else some (.char c, s)

/-- A string literal up to its closing quote, its opening one already read. -/
def readString : Nat → PyStr → Option (PyStr × PyStr)
  | 0, _ => none
  | _ + 1, [] => none
  | n + 1, c :: s =>
    if c = .char '"' then some ([], s)
    else do
      let (x, s) ← readChar (c :: s)
      let (xs, s) ← readString n s
      return (x :: xs, s)

def escapePoint (st : Json.Style) : CodePoint → List Char
  | .char c => Json.escapeChar st c
  | .surrogate n => Json.escapeUnit (55296 + n)

def strChars (st : Json.Style) (s : PyStr) : List Char := '"' :: (s.flatMap (escapePoint st) ++ ['"'])

theorem strChars_ofString (st : Json.Style) (s : String) : strChars st s = Json.strChars st s := by
  rw [strChars, Json.strChars, PyStr.ofString, PyStr.ofChars, List.flatMap_map]
  rfl

/-! ## Numbers -/

/-- The characters before the first surrogate, and the rest. -/
def leading : PyStr → List Char × PyStr
  | .char c :: s => (c :: (leading s).1, (leading s).2)
  | s => ([], s)

/-- The number its parts spell: an integer, if it is not too long, without a fraction or an exponent, else a float. -/
def numberOf (neg : Bool) (ds fs : List Char) (e : Option Int) : Except JsonError PyJson :=
  if fs = [] ∧ e = none then
    if ds.length ≤ maxStrDigits then .ok (.int (Json.signed neg (Nat.ofDigitChars 10 ds 0))) else .error .digits
  else .ok (.float (.ofDecimal (Json.signed neg (Nat.ofDigitChars 10 (ds ++ fs) 0)) (e.getD 0 - fs.length)))

def readNumber (s : PyStr) : Except JsonError (PyJson × PyStr) := do
  let (cs, rest) := leading s
  let (ds, r) ← orDecode (Json.readIntPart (Json.readMinus cs).2)
  let (fs, r) := Json.readFrac r
  let (e, r) := Json.readExp r
  (numberOf (Json.readMinus cs).1 ds fs e).map (·, PyStr.ofChars r ++ rest)

/-! ## Values -/

def readName (name : List Char) (v : PyJson) (s : PyStr) : Option (PyJson × PyStr) :=
  if (PyStr.ofChars name).isPrefixOf s then some (v, s.drop name.length) else none

/-- A key and its colon, up to the value. -/
def readKey : PyStr → Option (PyStr × PyStr)
  | [] => none
  | c :: s =>
    if c = .char '"' then do
      let (k, s) ← readString (s.length + 1) s
      match skipBlanks s with
      | .char ':' :: s => some (k, skipBlanks s)
      | _ => none
    else none

mutual
/-- One value at the head of the text, with room for that many lists and objects in one another.  The fuel is the text's
length and one more: each step reads a character. -/
def readValue : Nat → Nat → PyStr → Except JsonError (PyJson × PyStr)
  | 0, _, _ => .error .decode
  | _ + 1, _, [] => .error .decode
  | _ + 1, _, .surrogate _ :: _ => .error .decode
  | n + 1, room, .char c :: s =>
    if c = '"' then orDecode ((readString (s.length + 1) s).map fun p => (.str p.1, p.2))
    else if c = '[' then
      if room = 0 then .error .recursion
      else match skipBlanks s with
        | .char ']' :: s => .ok (.arr [], s)
        | s => (readElems n (room - 1) s).map fun p => (.arr p.1, p.2)
    else if c = '{' then
      if room = 0 then .error .recursion
      else match skipBlanks s with
        | .char '}' :: s => .ok (.obj [], s)
        | s => (readItems n (room - 1) s).map fun p => (.obj (Json.ofPairs p.1), p.2)
    else if c = 'n' then orDecode (readName "null".toList .null (.char c :: s))
    else if c = 't' then orDecode (readName "true".toList (.bool true) (.char c :: s))
    else if c = 'f' then orDecode (readName "false".toList (.bool false) (.char c :: s))
    else if c = 'N' then orDecode (readName "NaN".toList (.float .nan) (.char c :: s))
    else if c = 'I' then orDecode (readName "Infinity".toList (.float (.inf false)) (.char c :: s))
    else orElse (readName "-Infinity".toList (.float (.inf true)) (.char c :: s)) (readNumber (.char c :: s))

def readElems : Nat → Nat → PyStr → Except JsonError (List PyJson × PyStr)
  | 0, _, _ => .error .decode
  | n + 1, room, s => do
    let (v, s) ← readValue n room s
    match skipBlanks s with
    | .char ']' :: s => return ([v], s)
    | .char ',' :: s => do
      let (l, s) ← readElems n room (skipBlanks s)
      return (v :: l, s)
    | _ => throw .decode

def readItems : Nat → Nat → PyStr → Except JsonError (List (PyStr × PyJson) × PyStr)
  | 0, _, _ => .error .decode
  | n + 1, room, s => do
    let (k, s) ← orDecode (readKey s)
    let (v, s) ← readValue n room s
    match skipBlanks s with
    | .char '}' :: s => return ([(k, v)], s)
    | .char ',' :: s => do
      let (l, s) ← readItems n room (skipBlanks s)
      return ((k, v) :: l, s)
    | _ => throw .decode
end

/-- `json.loads`: one value and nothing else but blanks. -/
def loads (room : Nat) (s : PyStr) : Except JsonError PyJson := do
  let (v, r) ← readValue (s.length + 1) room (skipBlanks s)
  if (skipBlanks r).isEmpty then return v else throw .decode

mutual
def render (st : Json.Style) : PyJson → List Char
  | .null => "null".toList
  | .bool b => if b then "true".toList else "false".toList
  | .int i => Json.intChars i
  | .float f => Json.fltChars f
  | .str s => strChars st s
  | .arr [] => ['[', ']']
  | .arr (v :: l) => '[' :: (render st v ++ renderElems st l)
  | .obj [] => ['{', '}']
  | .obj ((k, v) :: l) => '{' :: (strChars st k ++ (Json.sep st ':' ++ (render st v ++ renderItems st l)))

def renderElems (st : Json.Style) : List PyJson → List Char
  | [] => [']']
  | v :: l => Json.sep st ',' ++ (render st v ++ renderElems st l)

def renderItems (st : Json.Style) : List (PyStr × PyJson) → List Char
  | [] => ['}']
  | (k, v) :: l => Json.sep st ',' ++ (strChars st k ++ (Json.sep st ':' ++ (render st v ++ renderItems st l)))
end

def dumpsIn (st : Json.Style) (v : PyJson) : String := String.ofList (render st v)

/-- `json.dumps`, of what is not nested too deep. -/
abbrev dumps (v : PyJson) : String := dumpsIn .stdlib v

/-! ## What is written is read back -/

theorem ofChars_append (l l' : List Char) : PyStr.ofChars (l ++ l') = PyStr.ofChars l ++ PyStr.ofChars l' :=
  List.map_append

theorem ofChars_cons (c : Char) (l : List Char) : PyStr.ofChars (c :: l) = .char c :: PyStr.ofChars l := rfl

variable {st : Json.Style}

section Strings

theorem readUnit_of_json {l l' : List Char} {n : Nat} (h : Json.readUnit l = some (n, l')) (s : PyStr) :
    readUnit (PyStr.ofChars l ++ s) = some (n, PyStr.ofChars l' ++ s) := by
  match l, h with
  | a :: b :: c :: d :: l, h =>
    obtain ⟨m, hm, heq⟩ := Option.map_eq_some_iff.1 h
    cases heq
    simp only [ofChars_cons, List.cons_append, readUnit, hm, Option.map_some]

theorem ofUnit_surrogate {n : Nat} (h : 55296 ≤ n ∧ n < 57344) : ofUnit n = .surrogate ⟨n - 55296, by omega⟩ := dif_pos h

theorem ofUnit_char {n : Nat} (h : ¬ (55296 ≤ n ∧ n < 57344)) : ofUnit n = .char (Char.ofNat n) := dif_neg h

theorem readUnicode_of_json {l l' : List Char} {c : Char} (h : Json.readUnicode l = some (c, l')) (s : PyStr) :
    readUnicode (PyStr.ofChars l ++ s) = some (.char c, PyStr.ofChars l' ++ s) := by
  obtain ⟨⟨n, r⟩, hn, h⟩ := Option.bind_eq_some_iff.1 h
  rw [readUnicode, readUnit_of_json hn s]
  dsimp only [Option.bind_eq_bind, Option.bind_some] at h ⊢
  split at h
  · rename_i hhigh
    rw [ofUnit_surrogate (by omega)]
    split at h
    · rename_i r'
      obtain ⟨⟨m, r''⟩, hm, h⟩ := Option.bind_eq_some_iff.1 h
      dsimp only at h
      split at h
      · rename_i hlow
        rw [Option.some.injEq, Prod.mk.injEq] at h
        obtain ⟨hc, hr⟩ := h
        have hpairs : Pairs ⟨n - 55296, by omega⟩ ⟨m - 55296, by omega⟩ := by
          refine ⟨?_, ?_⟩
          · change n - 55296 < 1024
            omega
          · change 1024 ≤ m - 55296
            omega
        have hpaired : paired ⟨n - 55296, by omega⟩ ⟨m - 55296, by omega⟩ = c := by
          rw [← hc, paired, Nat.sub_sub]
        simp only [ofChars_cons, List.cons_append, readUnit_of_json hm s, Option.bind_some]
        rw [ofUnit_surrogate (by omega)]
        simp only [if_pos hpairs, hpaired, hr]
      · cases h
    · cases h
  · split at h
    · cases h
    · cases h
      rw [ofUnit_char (by omega)]

theorem readChar_of_json {l l' : List Char} {c : Char} (h : Json.readChar l = some (c, l')) (s : PyStr) :
    readChar (PyStr.ofChars l ++ s) = some (.char c, PyStr.ofChars l' ++ s) := by
  cases l with
  | nil => cases h
  | cons x l =>
    unfold Json.readChar at h
    rw [ofChars_cons, List.cons_append]
    unfold readChar
    dsimp only at h ⊢
    split at h
    · rename_i hx
      rw [if_pos hx]
      cases l with
      | nil => cases h
      | cons e l =>
        dsimp only at h
        dsimp only [ofChars_cons, List.cons_append]
        split at h
        · rename_i he
          rw [if_pos he]
          exact readUnicode_of_json h s
        · rename_i he
          obtain ⟨y, hy, heq⟩ := Option.map_eq_some_iff.1 h
          cases heq
          rw [if_neg he, hy, Option.map_some]
    · rename_i hx
      rw [if_neg hx]
      split at h
      · cases h
      · rename_i hc
        cases h
        rw [if_neg hc]

theorem readChar_escapeChar (c : Char) (s : PyStr) :
    readChar (PyStr.ofChars (Json.escapeChar st c) ++ s) = some (.char c, s) := by
  have h := Json.readChar_escapeChar st c []
  rw [List.append_nil] at h
  exact readChar_of_json h s

theorem readUnit_escapeUnit {n : Nat} (h : n < 65536) (s : PyStr) : ∃ r,
    PyStr.ofChars (Json.escapeUnit n) ++ s = .char '\\' :: .char 'u' :: r ∧ readUnit r = some (n, s) := by
  obtain ⟨a, b, c, d, he, hr⟩ := Json.readUnit_escapeUnit n h []
  refine ⟨PyStr.ofChars [a, b, c, d] ++ s, ?_, readUnit_of_json hr s⟩
  rw [he]
  rfl

theorem ofUnit_add (n : Fin 2048) : ofUnit (55296 + n) = .surrogate n := by
  have hn := n.isLt
  have hsub : 55296 + n.val - 55296 = n.val := by omega
  rw [ofUnit_surrogate (by omega)]
  exact congrArg CodePoint.surrogate (Fin.ext hsub)

/-- The text begins with an escape of a surrogate that joins with a high one before it. -/
def Completes (high : Fin 2048) (s : PyStr) : Prop :=
  ∃ r m r' low, s = .char '\\' :: .char 'u' :: r ∧ readUnit r = some (m, r') ∧ ofUnit m = .surrogate low ∧ Pairs high low

/-- The text does not begin with a broken escape. -/
def Escapes (s : PyStr) : Prop := ∀ r, s = .char '\\' :: .char 'u' :: r → (readUnit r).isSome = true

theorem readChar_surrogate {high : Fin 2048} {s : PyStr} (hs : Escapes s) (hc : ¬ Completes high s) :
    readChar (PyStr.ofChars (Json.escapeUnit (55296 + high)) ++ s) = some (.surrogate high, s) := by
  have hlt := high.isLt
  obtain ⟨r, hr, hread⟩ := readUnit_escapeUnit (n := 55296 + high) (by omega) s
  rw [hr]
  unfold readChar
  dsimp only
  rw [if_pos rfl, if_pos rfl, readUnicode, hread, Option.bind_eq_bind, Option.bind_some]
  dsimp only
  rw [ofUnit_add]
  split
  · rename_i high' r' heq
    cases heq
    obtain ⟨⟨m, r''⟩, hm⟩ := Option.isSome_iff_exists.1 (hs r' rfl)
    rw [hm, Option.bind_some]
    dsimp only
    split
    · rename_i low hlow
      rw [if_neg]
      exact fun hpairs => hc ⟨r', m, r'', low, rfl, hm, hlow, hpairs⟩
    · rfl
  · rfl

/-- The first unit that a character's escape spells is no low surrogate. -/
theorem escapeChar_starts {c : Char} {s r : PyStr}
    (h : PyStr.ofChars (Json.escapeChar st c) ++ s = .char '\\' :: .char 'u' :: r) :
    ∃ m r', readUnit r = some (m, r') ∧ ∀ low : Fin 2048, ofUnit m = .surrogate low → ¬ 1024 ≤ low := by
  have hv := Json.Char.not_surrogate c
  unfold Json.escapeChar at h
  iterate 7
    split at h
    · simp [ofChars_cons] at h
  split at h
  · split at h
    · rename_i hc
      obtain ⟨r', hr, hread⟩ := readUnit_escapeUnit hc s
      rw [h] at hr
      cases hr
      refine ⟨_, _, hread, fun low hlow => ?_⟩
      rw [ofUnit_char (by omega)] at hlow
      cases hlow
    · rw [ofChars_append, List.append_assoc] at h
      obtain ⟨r', hr, hread⟩ := readUnit_escapeUnit (n := 55296 + (c.toNat - 65536) / 1024) (by omega)
        (PyStr.ofChars (Json.escapeUnit (56320 + (c.toNat - 65536) % 1024)) ++ s)
      rw [h] at hr
      cases hr
      refine ⟨_, _, hread, fun low hlow => ?_⟩
      rw [ofUnit_surrogate (by omega), CodePoint.surrogate.injEq] at hlow
      rw [← hlow]
      change ¬ 1024 ≤ 55296 + (c.toNat - 65536) / 1024 - 55296
      omega
  · rename_i hslash _ _ _ _ _ _
    rw [ofChars_cons, List.cons_append, List.cons.injEq, CodePoint.char.injEq] at h
    exact absurd h.1 hslash

theorem escapes_char (c : Char) (s : PyStr) : Escapes (PyStr.ofChars (escapePoint st (.char c)) ++ s) := by
  intro r hr
  obtain ⟨m, r', hm, -⟩ := escapeChar_starts hr
  rw [hm]
  rfl

theorem not_completes_char (high : Fin 2048) (c : Char) (s : PyStr) :
    ¬ Completes high (PyStr.ofChars (escapePoint st (.char c)) ++ s) := by
  rintro ⟨r, m, r', low, hr, hm, hlow, hpairs⟩
  obtain ⟨m', r'', hm', hno⟩ := escapeChar_starts hr
  rw [hm] at hm'
  cases hm'
  exact hno low hlow hpairs.2

theorem escapes_surrogate (n : Fin 2048) (s : PyStr) : Escapes (PyStr.ofChars (escapePoint st (.surrogate n)) ++ s) := by
  intro r hr
  have hlt := n.isLt
  obtain ⟨r', hr', hread⟩ := readUnit_escapeUnit (n := 55296 + n) (by omega) s
  change PyStr.ofChars (Json.escapeUnit (55296 + n)) ++ s = _ at hr
  rw [hr] at hr'
  cases hr'
  rw [hread]
  rfl

theorem not_completes_surrogate {high low : Fin 2048} (h : ¬ Pairs high low) (s : PyStr) :
    ¬ Completes high (PyStr.ofChars (escapePoint st (.surrogate low)) ++ s) := by
  rintro ⟨r, m, r', low', hr, hm, hlow, hpairs⟩
  have hlt := low.isLt
  obtain ⟨r'', hr', hread⟩ := readUnit_escapeUnit (n := 55296 + low) (by omega) s
  change PyStr.ofChars (Json.escapeUnit (55296 + low)) ++ s = _ at hr
  rw [hr] at hr'
  cases hr'
  rw [hm] at hread
  cases hread
  rw [ofUnit_add] at hlow
  cases hlow
  exact h hpairs

theorem readChar_pair {high low : Fin 2048} (h : Pairs high low) (s : PyStr) :
    readChar (PyStr.ofChars (escapePoint st (.surrogate high)) ++ (PyStr.ofChars (escapePoint st (.surrogate low)) ++ s)) =
      some (.char (paired high low), s) := by
  have hhigh := high.isLt
  have hlow := low.isLt
  obtain ⟨r, hr, hread⟩ := readUnit_escapeUnit (n := 55296 + low) (by omega) s
  obtain ⟨r', hr', hread'⟩ := readUnit_escapeUnit (n := 55296 + high) (by omega)
    (PyStr.ofChars (Json.escapeUnit (55296 + low)) ++ s)
  change readChar (PyStr.ofChars (Json.escapeUnit (55296 + high)) ++
    (PyStr.ofChars (Json.escapeUnit (55296 + low)) ++ s)) = _
  rw [hr']
  unfold readChar
  dsimp only
  rw [if_pos rfl, if_pos rfl, readUnicode, hread', Option.bind_eq_bind, Option.bind_some]
  dsimp only
  rw [ofUnit_add, hr]
  simp only [hread, Option.bind_some, ofUnit_add, if_pos h]

theorem escapePoint_head (c : CodePoint) : ∃ x l, escapePoint st c = x :: l ∧ x ≠ '"' := by
  cases c with
  | char c => exact Json.escapeChar_head st c
  | surrogate n => exact ⟨_, _, rfl, by decide⟩

theorem readString_step {c x : CodePoint} {s s' xs t : PyStr} {n : Nat}
    (hchar : readChar (PyStr.ofChars (escapePoint st c) ++ s) = some (x, s')) (hrest : readString n s' = some (xs, t)) :
    readString (n + 1) (PyStr.ofChars (escapePoint st c) ++ s) = some (x :: xs, t) := by
  obtain ⟨y, l, hl, hy⟩ := escapePoint_head c
  rw [hl, ofChars_cons, List.cons_append] at hchar ⊢
  have hquote : CodePoint.char y ≠ .char '"' := fun h => hy (CodePoint.char.inj h)
  rw [readString, if_neg hquote, hchar, Option.bind_eq_bind, Option.bind_some]
  dsimp only
  rw [hrest]
  rfl

/-- **A string literal is read back**, its surrogates joined. -/
theorem readString_escape (s : PyStr) : ∀ (cs : PyStr) (n : Nat), cs.length < n →
    readString n (PyStr.ofChars (cs.flatMap (escapePoint st)) ++ .char '"' :: s) = some (cs.join, s)
  | [], n + 1, _ => by
    simp [PyStr.ofChars, readString, PyStr.join]
  | .char c :: cs, n + 1, h => by
    rw [List.flatMap_cons, ofChars_append, List.append_assoc, PyStr.join]
    exact readString_step (readChar_escapeChar c _) (readString_escape s cs n (Nat.lt_of_succ_lt_succ h))
  | [.surrogate k], n + 1, h => by
    rw [List.flatMap_cons, ofChars_append, List.append_assoc, PyStr.join]
    refine readString_step (readChar_surrogate ?_ ?_) (readString_escape s [] n (Nat.lt_of_succ_lt_succ h))
    · intro r hr
      cases hr
    · rintro ⟨r, -, -, -, hr, -⟩
      cases hr
  | .surrogate k :: .char c :: cs, n + 1, h => by
    have ih := readString_escape s (.char c :: cs) n (Nat.lt_of_succ_lt_succ h)
    rw [List.flatMap_cons, ofChars_append, List.append_assoc, PyStr.join]
    refine readString_step (readChar_surrogate ?_ ?_) ih
    · rw [List.flatMap_cons, ofChars_append, List.append_assoc]
      exact escapes_char c _
    · rw [List.flatMap_cons, ofChars_append, List.append_assoc]
      exact not_completes_char k c _
  | .surrogate k :: .surrogate m :: cs, n + 1, h => by
    rw [PyStr.join]
    by_cases hpairs : Pairs k m
    · have ih := readString_escape s cs n (by simp only [List.length_cons] at h; omega)
      rw [if_pos hpairs, List.flatMap_cons, List.flatMap_cons, ofChars_append, ofChars_append, List.append_assoc,
        List.append_assoc]
      exact readString_step (readChar_pair hpairs _) ih
    · have ih := readString_escape s (.surrogate m :: cs) n (Nat.lt_of_succ_lt_succ h)
      rw [if_neg hpairs, List.flatMap_cons, ofChars_append, List.append_assoc]
      refine readString_step (readChar_surrogate ?_ ?_) ih
      · rw [List.flatMap_cons, ofChars_append, List.append_assoc]
        exact escapes_surrogate m _
      · rw [List.flatMap_cons, ofChars_append, List.append_assoc]
        exact not_completes_surrogate hpairs _

end Strings

section Numbers

theorem leading_append (l : List Char) (s : PyStr) :
    leading (PyStr.ofChars l ++ s) = (l ++ (leading s).1, (leading s).2) := by
  induction l with
  | nil => rfl
  | cons c l ih =>
    rw [ofChars_cons, List.cons_append, leading, ih]
    rfl

theorem ofChars_leading (s : PyStr) : PyStr.ofChars (leading s).1 ++ (leading s).2 = s := by
  induction s with
  | nil => rfl
  | cons c s ih =>
    cases c with
    | surrogate n => rfl
    | char c =>
      rw [leading, ofChars_cons, List.cons_append, ih]

/-- The number the text begins with ends where the written one does. -/
def Stops (s : PyStr) : Prop := Json.Stops (leading s).1

theorem stops_cons {c : Char} {s : PyStr} (h : c = ',' ∨ c = ']' ∨ c = '}') : Stops (.char c :: s) := by
  unfold Stops
  rw [leading]
  exact Json.stops_cons h

/-- Whether Python writes an integer, and reads it again. -/
def intFits (i : Int) : Bool := decide ((Nat.toDigits 10 i.natAbs).length ≤ maxStrDigits)

/-- **An integer is read back.** -/
theorem readNumber_int {i : Int} (hi : intFits i = true) {s : PyStr} (hs : Stops s) :
    readNumber (PyStr.ofChars (Json.intChars i) ++ s) = .ok (.int i, s) := by
  have hint := Json.readIntPart_toDigits i.natAbs (leading s).1 (fun c hc => (hs c hc).1)
  have hfrac := Json.readFrac_of_ne (s := (leading s).1) (fun c hc => (hs c hc).2.1)
  have hexp := Json.readExp_of_ne (s := (leading s).1) (fun c hc => (hs c hc).2.2)
  have hfits : (Nat.toDigits 10 i.natAbs).length ≤ maxStrDigits := of_decide_eq_true hi
  have hnumber : numberOf (decide (i < 0)) (Nat.toDigits 10 i.natAbs) [] none = .ok (.int i) := by
    rw [numberOf, if_pos ⟨rfl, rfl⟩, if_pos hfits, Nat.ofDigitChars_ten_toDigits, Json.signed_natAbs]
  rw [readNumber, leading_append]
  dsimp only
  rw [Json.readMinus_intChars]
  dsimp only
  rw [hint]
  simp only [orDecode_some, hfrac, hexp, bind, Except.bind, hnumber, Except.map, ofChars_leading]

/-- **A float is read back** as the double it is. -/
theorem readNumber_dec (m e : Int) {s : PyStr} (hs : Stops s) :
    readNumber (PyStr.ofChars (Json.intChars m ++ 'e' :: Json.intChars e) ++ s) = .ok (.float (.ofDecimal m e), s) := by
  have hexp := Json.readExp_intChars e (leading s).1 hs
  have hint := Json.readIntPart_toDigits m.natAbs ('e' :: (Json.intChars e ++ (leading s).1))
    (fun c hc => by
      cases hc
      decide)
  have hfrac := Json.readFrac_of_ne (s := 'e' :: (Json.intChars e ++ (leading s).1))
    (fun c hc => by
      cases hc
      decide)
  have hnumber : numberOf (decide (m < 0)) (Nat.toDigits 10 m.natAbs) [] (some e) = .ok (.float (.ofDecimal m e)) := by
    rw [numberOf, if_neg (fun h => by cases h.2), List.append_nil, Nat.ofDigitChars_ten_toDigits, Json.signed_natAbs]
    simp
  rw [readNumber, leading_append, List.append_assoc, List.cons_append]
  dsimp only
  rw [Json.readMinus_intChars]
  dsimp only
  rw [hint]
  simp only [orDecode_some, hfrac, hexp, bind, Except.bind, hnumber, Except.map, ofChars_leading]

end Numbers

section Values

variable (st)

mutual
/-- What Python holds and writes: no integer is too long, and every float is a double. -/
def fits : PyJson → Bool
  | .int i => intFits i
  | .float f => decide (f.reread = f)
  | .arr l => fitsElems l
  | .obj l => fitsItems l
  | _ => true

def fitsElems : List PyJson → Bool
  | [] => true
  | v :: l => v.fits && fitsElems l

def fitsItems : List (PyStr × PyJson) → Bool
  | [] => true
  | (_, v) :: l => v.fits && fitsItems l
end

theorem skipBlanks_of_head {s : PyStr} (h : ∀ c ∈ s.head?, isBlank c = false) : skipBlanks s = s := by
  cases s with
  | nil => rfl
  | cons c s => simp [skipBlanks, h c rfl]

theorem skipBlanks_sep {c : Char} {s : PyStr} (hs : ∀ c ∈ s.head?, isBlank c = false) (hc : Json.isBlank c = false) :
    ∃ r, skipBlanks (PyStr.ofChars (Json.sep st c) ++ s) = .char c :: r ∧ skipBlanks r = s := by
  have hself := skipBlanks_of_head hs
  unfold Json.sep
  split
  · refine ⟨.char ' ' :: s, skipBlanks_of_head (fun x hx => ?_), ?_⟩
    · cases hx
      exact hc
    · rw [skipBlanks] at hself ⊢
      rw [List.dropWhile_cons, if_pos (by decide), hself]
  · refine ⟨s, skipBlanks_of_head (fun x hx => ?_), hself⟩
    cases hx
    exact hc

theorem render_head (v : PyJson) : ∃ c l, render st v = c :: l ∧ Json.isBlank c = false ∧ c ≠ ']' ∧ c ≠ '}' := by
  cases v with
  | int i => exact Json.render_head st (.int i)
  | float f => exact Json.render_head st (.float f)
  | bool b => exact Json.render_head st (.bool b)
  | arr l => cases l <;> exact ⟨_, _, rfl, by decide⟩
  | obj l => cases l <;> exact ⟨_, _, rfl, by decide⟩
  | null | str _ => exact ⟨_, _, rfl, by decide⟩

theorem render_append_head (v : PyJson) (s : PyStr) :
    ∀ c ∈ (PyStr.ofChars (render st v) ++ s).head?, isBlank c = false := by
  obtain ⟨c, l, h, hb, -⟩ := render_head st v
  rw [h]
  intro x hx
  cases hx
  exact hb

theorem length_flatMap_escapePoint (cs : PyStr) : cs.length ≤ (cs.flatMap (escapePoint st)).length := by
  induction cs with
  | nil => exact Nat.le_refl _
  | cons c cs ih =>
    obtain ⟨x, l, hl, -⟩ : ∃ x l, escapePoint st c = x :: l ∧ x ≠ '"' := escapePoint_head c
    rw [List.flatMap_cons, hl, List.length_append, List.length_cons, List.length_cons]
    omega

theorem readString_strChars (k s : PyStr) : ∃ r, PyStr.ofChars (strChars st k) ++ s = .char '"' :: r ∧
    readString (r.length + 1) r = some (k.join, s) := by
  refine ⟨PyStr.ofChars (k.flatMap (escapePoint st)) ++ .char '"' :: s, ?_, readString_escape s k _ ?_⟩
  · rw [strChars, ofChars_cons, ofChars_append, List.cons_append, List.append_assoc]
    rfl
  · have hlen := length_flatMap_escapePoint st k
    rw [List.length_append, PyStr.ofChars, List.length_map]
    omega

theorem sep_cons (c : Char) : ∃ l, Json.sep st c = c :: l := by
  unfold Json.sep
  split <;> exact ⟨_, rfl⟩

theorem length_sep (c : Char) : 1 ≤ (Json.sep st c).length := by
  obtain ⟨l, hl⟩ := sep_cons st c
  rw [hl]
  exact Nat.succ_pos _

theorem readKey_strChars (k : PyStr) {s : PyStr} (hs : ∀ c ∈ s.head?, isBlank c = false) :
    readKey (PyStr.ofChars (strChars st k) ++ (PyStr.ofChars (Json.sep st ':') ++ s)) = some (k.join, s) := by
  obtain ⟨r, hr, hread⟩ := readString_strChars st k (PyStr.ofChars (Json.sep st ':') ++ s)
  obtain ⟨r', hr', hskip⟩ := skipBlanks_sep st hs (by decide : Json.isBlank ':' = false)
  rw [hr, readKey, if_pos rfl, hread]
  simp [hr', hskip]

theorem readValue_number {n room : Nat} {c : Char} {s : PyStr} (hc : c = '-' ∨ c.isDigit = true)
    (hp : (PyStr.ofChars "-Infinity".toList).isPrefixOf (.char c :: s) = false) :
    readValue (n + 1) room (.char c :: s) = readNumber (.char c :: s) := by
  have hne : ∀ x : Char, x ≠ '-' → x.isDigit = false → c ≠ x := by
    rintro x hx hxd rfl
    rcases hc with rfl | hc
    · exact hx rfl
    · rw [hxd] at hc
      cases hc
  rw [readValue, if_neg (hne _ (by decide) (by decide)), if_neg (hne _ (by decide) (by decide)),
    if_neg (hne _ (by decide) (by decide)), if_neg (hne _ (by decide) (by decide)),
    if_neg (hne _ (by decide) (by decide)), if_neg (hne _ (by decide) (by decide)),
    if_neg (hne _ (by decide) (by decide)), if_neg (hne _ (by decide) (by decide)), readName, hp,
    if_neg Bool.false_ne_true]
  rfl

/-- An integer's text is a number's, and not `-Infinity`. -/
theorem intChars_cons (i : Int) (s : PyStr) : ∃ c l, PyStr.ofChars (Json.intChars i) ++ s = .char c :: l ∧
    (c = '-' ∨ c.isDigit = true) ∧ (PyStr.ofChars "-Infinity".toList).isPrefixOf (.char c :: l) = false := by
  have hd := Json.toDigits_isDigit i.natAbs
  obtain ⟨c, l, h, hm, -⟩ := Json.toDigits_cons i.natAbs
  rw [h] at hd
  have hc := hd c List.mem_cons_self
  unfold Json.intChars
  split
  · refine ⟨'-', .char c :: (PyStr.ofChars l ++ s), by rw [h]; rfl, Or.inl rfl, ?_⟩
    have hI : ¬ 'I' = c := by
      rintro rfl
      revert hc
      decide
    simp [PyStr.ofChars, List.isPrefixOf, hI]
  · refine ⟨c, PyStr.ofChars l ++ s, by rw [h]; rfl, Or.inr hc, ?_⟩
    simp [PyStr.ofChars, List.isPrefixOf, Ne.symm hm]

theorem stops_renderElems (l : List PyJson) (s : PyStr) : Stops (PyStr.ofChars (renderElems st l) ++ s) := by
  cases l with
  | nil => exact stops_cons (Or.inr (Or.inl rfl))
  | cons v l =>
    obtain ⟨r, hr⟩ := sep_cons st ','
    rw [renderElems, hr]
    exact stops_cons (Or.inl rfl)

theorem stops_renderItems (l : List (PyStr × PyJson)) (s : PyStr) : Stops (PyStr.ofChars (renderItems st l) ++ s) := by
  cases l with
  | nil => exact stops_cons (Or.inr (Or.inr rfl))
  | cons p l =>
    obtain ⟨r, hr⟩ := sep_cons st ','
    rw [renderItems, hr]
    exact stops_cons (Or.inl rfl)

theorem readName_self (name : List Char) (v : PyJson) (s : PyStr) :
    readName name v (PyStr.ofChars name ++ s) = some (v, s) := by
  have hprefix : (PyStr.ofChars name).isPrefixOf (PyStr.ofChars name ++ s) = true :=
    List.isPrefixOf_iff_prefix.2 (List.prefix_append _ _)
  have hlen : name.length = (PyStr.ofChars name).length := (List.length_map _).symm
  rw [readName, if_pos hprefix, hlen, List.drop_left]

/-- The values that are written as words. -/
def Word (word : List Char) (v : PyJson) : Prop :=
  (word = ['n', 'u', 'l', 'l'] ∧ v = .null) ∨ (word = ['t', 'r', 'u', 'e'] ∧ v = .bool true) ∨
  (word = ['f', 'a', 'l', 's', 'e'] ∧ v = .bool false) ∨ (word = ['N', 'a', 'N'] ∧ v = .float .nan) ∨
  (word = ['I', 'n', 'f', 'i', 'n', 'i', 't', 'y'] ∧ v = .float (.inf false)) ∨
  (word = ['-', 'I', 'n', 'f', 'i', 'n', 'i', 't', 'y'] ∧ v = .float (.inf true))

theorem readValue_word {word : List Char} {v : PyJson} (h : Word word v) (n room : Nat) (s : PyStr) :
    readValue (n + 1) room (PyStr.ofChars word ++ s) = .ok (v, s) := by
  have hself := readName_self word v s
  rcases h with ⟨rfl, rfl⟩ | ⟨rfl, rfl⟩ | ⟨rfl, rfl⟩ | ⟨rfl, rfl⟩ | ⟨rfl, rfl⟩ | ⟨rfl, rfl⟩
  · exact congrArg orDecode hself
  · exact congrArg orDecode hself
  · exact congrArg orDecode hself
  · exact congrArg orDecode hself
  · exact congrArg orDecode hself
  · exact congrArg
      (fun o => orElse o (readNumber (PyStr.ofChars ['-', 'I', 'n', 'f', 'i', 'n', 'i', 't', 'y'] ++ s))) hself

/-- A list's elements are read with one room less. -/
theorem readValue_arr (v : PyJson) (l : List PyJson) (n room : Nat) (s : PyStr) :
    readValue (n + 1) (room + 1) (PyStr.ofChars (render st (.arr (v :: l))) ++ s) =
      (readElems n room (PyStr.ofChars (render st v) ++ (PyStr.ofChars (renderElems st l) ++ s))).map
        fun p => (.arr p.1, p.2) := by
  obtain ⟨c, r, hr, hb, hne, -⟩ := render_head st v
  have hskip := skipBlanks_of_head (render_append_head st v (PyStr.ofChars (renderElems st l) ++ s))
  rw [hr, ofChars_cons, List.cons_append] at hskip
  rw [render, hr, ofChars_cons, List.cons_append, ofChars_append, List.append_assoc, ofChars_cons, List.cons_append,
    readValue, if_neg (by decide), if_pos rfl, if_neg (Nat.succ_ne_zero room), hskip, Nat.add_sub_cancel]
  split
  · rename_i h
    cases h
    exact absurd rfl hne
  · rfl

/-- An object's items are read with one room less. -/
theorem readValue_obj (k : PyStr) (v : PyJson) (l : List (PyStr × PyJson)) (n room : Nat) (s : PyStr) :
    readValue (n + 1) (room + 1) (PyStr.ofChars (render st (.obj ((k, v) :: l))) ++ s) =
      (readItems n room (PyStr.ofChars (strChars st k) ++ (PyStr.ofChars (Json.sep st ':') ++
        (PyStr.ofChars (render st v) ++ (PyStr.ofChars (renderItems st l) ++ s))))).map
        fun p => (.obj (Json.ofPairs p.1), p.2) := by
  obtain ⟨r, hr, -⟩ := readString_strChars st k
    (PyStr.ofChars (Json.sep st ':') ++ (PyStr.ofChars (render st v) ++ (PyStr.ofChars (renderItems st l) ++ s)))
  rw [render, ofChars_cons, List.cons_append, ofChars_append, List.append_assoc, ofChars_append, List.append_assoc,
    ofChars_append, List.append_assoc, hr, readValue, if_neg (by decide), if_neg (by decide), if_pos rfl,
    if_neg (Nat.succ_ne_zero room), skipBlanks_of_head (fun c hc => by cases hc; decide), Nat.add_sub_cancel]
  simp

mutual
/-- **A value's text is read back as the value**, whatever follows that cannot continue a number. -/
theorem readValue_render : ∀ (v : PyJson) (n room : Nat) (s : PyStr), v.fits = true → (render st v).length ≤ n →
    v.nesting ≤ room → Stops s → readValue n room (PyStr.ofChars (render st v) ++ s) = .ok (v.rejoin, s)
  | v, 0, _, _, _, hn, _, _ => by
    obtain ⟨c, l, h, -⟩ := render_head st v
    rw [h, List.length_cons] at hn
    omega
  | .null, n + 1, room, s, _, _, _, _ => readValue_word (Or.inl ⟨rfl, rfl⟩) n room s
  | .bool true, n + 1, room, s, _, _, _, _ => readValue_word (Or.inr (Or.inl ⟨rfl, rfl⟩)) n room s
  | .bool false, n + 1, room, s, _, _, _, _ => readValue_word (Or.inr (Or.inr (Or.inl ⟨rfl, rfl⟩))) n room s
  | .int i, n + 1, _, s, hf, _, _, hs => by
    obtain ⟨c, l, h, hc, hp⟩ := intChars_cons i s
    rw [render, h, readValue_number hc hp, ← h]
    exact readNumber_int hf hs
  | .float (.dec m e), n + 1, _, s, hf, _, _, hs => by
    have hself : Flt.ofDecimal m e = .dec m e := of_decide_eq_true hf
    obtain ⟨c, l, h, hc, hp⟩ := intChars_cons m (PyStr.ofChars ('e' :: Json.intChars e) ++ s)
    have hnumber := readNumber_dec m e hs
    rw [ofChars_append, List.append_assoc] at hnumber
    rw [render, Json.fltChars, ofChars_append, List.append_assoc, h, readValue_number hc hp, ← h, hnumber, hself]
    rfl
  | .float .nan, n + 1, room, s, _, _, _, _ => readValue_word (Or.inr (Or.inr (Or.inr (Or.inl ⟨rfl, rfl⟩)))) n room s
  | .float (.inf false), n + 1, room, s, _, _, _, _ =>
    readValue_word (Or.inr (Or.inr (Or.inr (Or.inr (Or.inl ⟨rfl, rfl⟩))))) n room s
  | .float (.inf true), n + 1, room, s, _, _, _, _ =>
    readValue_word (Or.inr (Or.inr (Or.inr (Or.inr (Or.inr ⟨rfl, rfl⟩))))) n room s
  | .str k, n + 1, _, s, _, _, _, _ => by
    obtain ⟨r, hr, hread⟩ := readString_strChars st k s
    rw [render, hr, readValue, if_pos rfl, hread, Option.map_some, rejoin]
    rfl
  | .arr [], n + 1, room, s, _, _, hroom, _ => by
    have hne : room ≠ 0 := by
      rw [nesting, nestingElems] at hroom
      omega
    simp [render, PyStr.ofChars, readValue, hne, skipBlanks, isBlank, Json.isBlank, rejoin, rejoinElems]
  | .arr (v :: l), n + 1, 0, _, _, _, hroom, _ => absurd hroom (Nat.not_succ_le_zero _)
  | .arr (v :: l), n + 1, room + 1, s, hf, hn, hroom, _ => by
    rw [render, List.length_cons] at hn
    rw [nesting] at hroom
    rw [readValue_arr st, readElems_render l v n room s (by rwa [fits] at hf) (by omega) (by omega), rejoin]
    rfl
  | .obj [], n + 1, room, s, _, _, hroom, _ => by
    have hne : room ≠ 0 := by
      rw [nesting, nestingItems] at hroom
      omega
    simp [render, PyStr.ofChars, readValue, hne, skipBlanks, isBlank, Json.isBlank, rejoin, rejoinItems, Json.ofPairs]
  | .obj ((k, v) :: l), n + 1, 0, _, _, _, hroom, _ => absurd hroom (Nat.not_succ_le_zero _)
  | .obj ((k, v) :: l), n + 1, room + 1, s, hf, hn, hroom, _ => by
    rw [render, List.length_cons] at hn
    rw [nesting] at hroom
    rw [readValue_obj st, readItems_render l k v n room s (by rwa [fits] at hf) (by omega) (by omega), rejoin]
    rfl

theorem readElems_render : ∀ (l : List PyJson) (v : PyJson) (n room : Nat) (s : PyStr), fitsElems (v :: l) = true →
    (render st v ++ renderElems st l).length ≤ n → nestingElems (v :: l) ≤ room →
    readElems n room (PyStr.ofChars (render st v) ++ (PyStr.ofChars (renderElems st l) ++ s)) =
      .ok (rejoinElems (v :: l), s)
  | l, v, 0, _, _, _, hn, _ => by
    obtain ⟨c, r, h, -⟩ := render_head st v
    rw [h, List.cons_append, List.length_cons] at hn
    omega
  | [], v, n + 1, room, s, hf, hn, hroom => by
    rw [fitsElems, Bool.and_eq_true] at hf
    rw [nestingElems] at hroom
    rw [List.length_append, renderElems, List.length_singleton] at hn
    rw [readElems, readValue_render v n room _ hf.1 (by omega) (by omega) (stops_renderElems st [] s)]
    simp [renderElems, PyStr.ofChars, bind, Except.bind, pure, Except.pure, skipBlanks, isBlank, Json.isBlank, rejoinElems]
  | v' :: l, v, n + 1, room, s, hf, hn, hroom => by
    rw [fitsElems, Bool.and_eq_true] at hf
    rw [nestingElems] at hroom
    have hcomma := length_sep st ','
    rw [List.length_append, renderElems, List.length_append] at hn
    have hv := readValue_render v n room _ hf.1 (by omega) (by omega) (stops_renderElems st (v' :: l) s)
    have ih := readElems_render l v' n room s hf.2 (by omega) (by omega)
    obtain ⟨r, hr, hskip⟩ := skipBlanks_sep st (render_append_head st v' (PyStr.ofChars (renderElems st l) ++ s))
      (by decide : Json.isBlank ',' = false)
    rw [readElems, hv]
    simp only [renderElems, ofChars_append, List.append_assoc, bind, Except.bind, hr, hskip, ih, pure, Except.pure,
      rejoinElems]

theorem readItems_render : ∀ (l : List (PyStr × PyJson)) (k : PyStr) (v : PyJson) (n room : Nat) (s : PyStr),
    fitsItems ((k, v) :: l) = true →
    (strChars st k ++ (Json.sep st ':' ++ (render st v ++ renderItems st l))).length ≤ n →
    nestingItems ((k, v) :: l) ≤ room →
    readItems n room (PyStr.ofChars (strChars st k) ++ (PyStr.ofChars (Json.sep st ':') ++
      (PyStr.ofChars (render st v) ++ (PyStr.ofChars (renderItems st l) ++ s)))) = .ok (rejoinItems ((k, v) :: l), s)
  | l, k, v, 0, _, _, _, hn, _ => by
    rw [strChars, List.cons_append, List.length_cons] at hn
    omega
  | [], k, v, n + 1, room, s, hf, hn, hroom => by
    rw [fitsItems, Bool.and_eq_true] at hf
    rw [nestingItems] at hroom
    have hcolon := length_sep st ':'
    rw [List.length_append, List.length_append, List.length_append] at hn
    rw [readItems, readKey_strChars st k (render_append_head st v _)]
    simp only [orDecode_some, bind, Except.bind]
    rw [readValue_render v n room _ hf.1 (by omega) (by omega) (stops_renderItems st [] s)]
    simp [renderItems, PyStr.ofChars, pure, Except.pure, skipBlanks, isBlank, Json.isBlank, rejoinItems]
  | (k', v') :: l, k, v, n + 1, room, s, hf, hn, hroom => by
    rw [fitsItems, Bool.and_eq_true] at hf
    rw [nestingItems] at hroom
    have hcolon := length_sep st ':'
    have hcomma := length_sep st ','
    rw [List.length_append, List.length_append, List.length_append, renderItems, List.length_append] at hn
    have hv := readValue_render v n room _ hf.1 (by omega) (by omega) (stops_renderItems st ((k', v') :: l) s)
    have ih := readItems_render l k' v' n room s hf.2 (by omega) (by omega)
    obtain ⟨r, hr, hskip⟩ := skipBlanks_sep st (c := ',')
      (s := PyStr.ofChars (strChars st k') ++ (PyStr.ofChars (Json.sep st ':') ++
        (PyStr.ofChars (render st v') ++ (PyStr.ofChars (renderItems st l) ++ s))))
      (fun c hc => by cases hc; decide) (by decide)
    rw [readItems, readKey_strChars st k (render_append_head st v _)]
    simp only [orDecode_some, bind, Except.bind]
    rw [hv]
    simp only [renderItems, ofChars_append, List.append_assoc, hr, hskip, ih, pure, Except.pure, rejoinItems]
end

mutual
/-- **What is nested deeper than there is room for is not read.** -/
theorem readValue_deep : ∀ (v : PyJson) (n room : Nat) (s : PyStr), v.fits = true → (render st v).length ≤ n →
    room < v.nesting → readValue n room (PyStr.ofChars (render st v) ++ s) = .error .recursion
  | v, 0, _, _, _, hn, _ => by
    obtain ⟨c, l, h, -⟩ := render_head st v
    rw [h, List.length_cons] at hn
    omega
  | .null, _ + 1, _, _, _, _, h | .bool _, _ + 1, _, _, _, _, h | .int _, _ + 1, _, _, _, _, h
  | .float _, _ + 1, _, _, _, _, h | .str _, _ + 1, _, _, _, _, h => absurd h (Nat.not_lt_zero _)
  | .arr [], n + 1, 0, _, _, _, _ | .arr (_ :: _), n + 1, 0, _, _, _, _ | .obj [], n + 1, 0, _, _, _, _
  | .obj (_ :: _), n + 1, 0, _, _, _, _ => rfl
  | .arr [], _ + 1, room + 1, _, _, _, h | .obj [], _ + 1, room + 1, _, _, _, h =>
    absurd (Nat.lt_of_succ_lt_succ h) (Nat.not_lt_zero room)
  | .arr (v :: l), n + 1, room + 1, s, hf, hn, h => by
    rw [render, List.length_cons] at hn
    rw [nesting] at h
    rw [readValue_arr st, readElems_deep l v n room s (by rwa [fits] at hf) (by omega) (by omega)]
    rfl
  | .obj ((k, v) :: l), n + 1, room + 1, s, hf, hn, h => by
    rw [render, List.length_cons] at hn
    rw [nesting] at h
    rw [readValue_obj st, readItems_deep l k v n room s (by rwa [fits] at hf) (by omega) (by omega)]
    rfl

theorem readElems_deep : ∀ (l : List PyJson) (v : PyJson) (n room : Nat) (s : PyStr), fitsElems (v :: l) = true →
    (render st v ++ renderElems st l).length ≤ n → room < nestingElems (v :: l) →
    readElems n room (PyStr.ofChars (render st v) ++ (PyStr.ofChars (renderElems st l) ++ s)) = .error .recursion
  | l, v, 0, _, _, _, hn, _ => by
    obtain ⟨c, r, h, -⟩ := render_head st v
    rw [h, List.cons_append, List.length_cons] at hn
    omega
  | l, v, n + 1, room, s, hf, hn, h => by
    rw [fitsElems, Bool.and_eq_true] at hf
    rw [nestingElems] at h
    rw [List.length_append] at hn
    by_cases hv : room < v.nesting
    · have hlen : 0 < (renderElems st l).length := by
        cases l with
        | nil => exact Nat.zero_lt_one
        | cons v' l =>
          have hcomma := length_sep st ','
          rw [renderElems, List.length_append]
          omega
      rw [readElems, readValue_deep v n room _ hf.1 (by omega) hv]
      rfl
    · cases l with
      | nil =>
        rw [nestingElems] at h
        omega
      | cons v' l =>
        have hcomma := length_sep st ','
        rw [renderElems, List.length_append] at hn
        have ih := readElems_deep l v' n room s hf.2 (by omega) (by omega)
        obtain ⟨r, hr, hskip⟩ := skipBlanks_sep st (render_append_head st v' (PyStr.ofChars (renderElems st l) ++ s))
          (by decide : Json.isBlank ',' = false)
        rw [readElems, readValue_render st v n room _ hf.1 (by omega) (by omega) (stops_renderElems st (v' :: l) s)]
        simp only [renderElems, ofChars_append, List.append_assoc, bind, Except.bind, hr, hskip, ih]

theorem readItems_deep : ∀ (l : List (PyStr × PyJson)) (k : PyStr) (v : PyJson) (n room : Nat) (s : PyStr),
    fitsItems ((k, v) :: l) = true →
    (strChars st k ++ (Json.sep st ':' ++ (render st v ++ renderItems st l))).length ≤ n →
    room < nestingItems ((k, v) :: l) →
    readItems n room (PyStr.ofChars (strChars st k) ++ (PyStr.ofChars (Json.sep st ':') ++
      (PyStr.ofChars (render st v) ++ (PyStr.ofChars (renderItems st l) ++ s)))) = .error .recursion
  | l, k, v, 0, _, _, _, hn, _ => by
    rw [strChars, List.cons_append, List.length_cons] at hn
    omega
  | l, k, v, n + 1, room, s, hf, hn, h => by
    rw [fitsItems, Bool.and_eq_true] at hf
    rw [nestingItems] at h
    have hcolon := length_sep st ':'
    rw [List.length_append, List.length_append, List.length_append] at hn
    rw [readItems, readKey_strChars st k (render_append_head st v _)]
    simp only [orDecode_some, bind, Except.bind]
    by_cases hv : room < v.nesting
    · rw [readValue_deep v n room _ hf.1 (by omega) hv]
    · rw [readValue_render st v n room _ hf.1 (by omega) (by omega) (stops_renderItems st l s)]
      cases l with
      | nil =>
        rw [nestingItems] at h
        omega
      | cons p l =>
        obtain ⟨k', v'⟩ := p
        have hcomma := length_sep st ','
        rw [renderItems, List.length_append] at hn
        have ih := readItems_deep l k' v' n room s hf.2 (by omega) (by omega)
        obtain ⟨r, hr, hskip⟩ := skipBlanks_sep st (c := ',')
          (s := PyStr.ofChars (strChars st k') ++ (PyStr.ofChars (Json.sep st ':') ++
            (PyStr.ofChars (render st v') ++ (PyStr.ofChars (renderItems st l) ++ s))))
          (fun c hc => by cases hc; decide) (by decide)
        simp only [renderItems, ofChars_append, List.append_assoc, hr, hskip, ih]
end

/-- **What is written is read back**, its surrogates joined, where there is room. -/
theorem loads_dumpsIn {v : PyJson} (hf : v.fits = true) (room : Nat) : loads room (dumpsIn st v) =
    if v.nesting ≤ room then .ok v.rejoin else .error .recursion := by
  have htext : PyStr.ofString (dumpsIn st v) = PyStr.ofChars (render st v) := by
    rw [PyStr.ofString, dumpsIn, String.toList_ofList]
  have hhead := skipBlanks_of_head (render_append_head st v [])
  have hlen : (render st v).length ≤ (PyStr.ofChars (render st v)).length + 1 := by
    rw [PyStr.ofChars, List.length_map]
    omega
  rw [List.append_nil] at hhead
  rw [loads, htext, hhead]
  split
  · rename_i hroom
    have hread := readValue_render st v _ room [] hf hlen hroom (fun c hc => by cases hc)
    rw [List.append_nil] at hread
    rw [hread]
    rfl
  · rename_i hroom
    have hread := readValue_deep st v _ room [] hf hlen (Nat.lt_of_not_le hroom)
    rw [List.append_nil] at hread
    rw [hread]
    rfl

theorem loads_dumps {v : PyJson} (hf : v.fits = true) (room : Nat) : loads room (dumps v) =
    if v.nesting ≤ room then .ok v.rejoin else .error .recursion :=
  loads_dumpsIn .stdlib hf room

end Values

/-! ## What is read -/

section Held

/-- What every value that was read has. -/
structure Held (room : Nat) (v : PyJson) : Prop where
  fits : v.fits = true
  nodup : v.wf = true
  nesting : v.nesting ≤ room

theorem ofDigitChars_lt : ∀ (ds : List Char) (init : Nat), (∀ d ∈ ds, d.isDigit = true) →
    Nat.ofDigitChars 10 ds init < (init + 1) * 10 ^ ds.length
  | [], init, _ => by
    rw [Nat.ofDigitChars_nil, List.length_nil, Nat.pow_zero]
    omega
  | d :: ds, init, h => by
    have ih := ofDigitChars_lt ds (10 * init + (d.toNat - '0'.toNat)) fun x hx => h x (List.mem_cons_of_mem d hx)
    have hd : d.toNat - '0'.toNat < 10 := by
      have hdigit := h d List.mem_cons_self
      simp only [Char.isDigit, Bool.and_eq_true, decide_eq_true_eq] at hdigit
      have hhigh : d.toNat ≤ 57 := hdigit.2
      change d.toNat - 48 < 10
      omega
    rw [Nat.ofDigitChars_cons]
    refine ih.trans_le ?_
    rw [List.length_cons, Nat.pow_succ', ← Nat.mul_assoc]
    exact Nat.mul_le_mul_right _ (by omega)

theorem digits_of_readIntPart {s ds r : List Char} (h : Json.readIntPart s = some (ds, r)) :
    ds ≠ [] ∧ ∀ d ∈ ds, d.isDigit = true := by
  cases s with
  | nil => cases h
  | cons c s =>
    rw [Json.readIntPart] at h
    split at h
    · cases h
      exact ⟨List.cons_ne_nil _ _, fun d hd => by
        rw [List.mem_singleton.1 hd]
        rfl⟩
    · split at h
      · rename_i hc
        rw [Option.some.injEq, Json.digits, Prod.mk.injEq] at h
        rw [← h.1]
        refine ⟨?_, fun d hd => List.all_eq_true.1 List.all_takeWhile d hd⟩
        rw [List.takeWhile_cons, if_pos hc]
        exact List.cons_ne_nil _ _
      · cases h

theorem natAbs_signed (neg : Bool) (n : Nat) : (Json.signed neg n).natAbs = n := by
  cases neg <;> simp [Json.signed]

theorem held_of_numberOf {neg : Bool} {ds fs : List Char} {e : Option Int} {v : PyJson} (room : Nat) (hne : ds ≠ [])
    (hdigit : ∀ d ∈ ds, d.isDigit = true) (h : numberOf neg ds fs e = .ok v) : Held room v := by
  unfold numberOf at h
  split at h
  · split at h
    · rename_i hlen
      cases h
      refine ⟨decide_eq_true ?_, rfl, Nat.zero_le _⟩
      have hlt := ofDigitChars_lt ds 0 hdigit
      rw [Nat.zero_add, Nat.one_mul] at hlt
      rw [natAbs_signed]
      exact ((Nat.length_toDigits_le_iff (by decide) (List.length_pos_iff.2 hne)).2 hlt).trans hlen
    · cases h
  · cases h
    exact ⟨decide_eq_true (Flt.reread_ofDecimal _ _), rfl, Nat.zero_le _⟩

theorem held_of_readNumber {s r : PyStr} {v : PyJson} (room : Nat) (h : readNumber s = .ok (v, r)) : Held room v := by
  obtain ⟨⟨ds, t⟩, hds, h⟩ := bind_eq_ok.1 h
  obtain ⟨hne, hdigit⟩ := digits_of_readIntPart (orDecode_eq_ok.1 hds)
  obtain ⟨number, hnumber, heq⟩ := map_eq_ok.1 h
  cases heq
  exact held_of_numberOf room hne hdigit hnumber

theorem held_of_readName {name : List Char} {s r : PyStr} {v v' : PyJson} {room : Nat} (hv : Held room v)
    (h : orDecode (readName name v s) = .ok (v', r)) : Held room v' := by
  have h := orDecode_eq_ok.1 h
  unfold readName at h
  split at h
  · cases h
    exact hv
  · cases h

/-- What the elements of a list have, the list has. -/
theorem held_arr {room : Nat} : ∀ {l : List PyJson}, (∀ v ∈ l, Held room v) → Held (room + 1) (.arr l) := by
  intro l h
  have hlist : fitsElems l = true ∧ wfElems l = true ∧ nestingElems l ≤ room := by
    induction l with
    | nil => exact ⟨rfl, rfl, Nat.zero_le _⟩
    | cons v l ih =>
      have hv := h v List.mem_cons_self
      obtain ⟨hfits, hwf, hnesting⟩ := ih fun x hx => h x (List.mem_cons_of_mem v hx)
      rw [fitsElems, wfElems, nestingElems, hv.fits, hv.nodup]
      exact ⟨hfits, hwf, Nat.max_le.2 ⟨hv.nesting, hnesting⟩⟩
  exact ⟨hlist.1, hlist.2.1, Nat.succ_le_succ hlist.2.2⟩

theorem held_obj {room : Nat} {l : List (PyStr × PyJson)} (hkeys : (l.map Prod.fst).Nodup)
    (h : ∀ p ∈ l, Held room p.2) : Held (room + 1) (.obj l) := by
  have hlist : fitsItems l = true ∧ wfItems l = true ∧ nestingItems l ≤ room := by
    clear hkeys
    induction l with
    | nil => exact ⟨rfl, rfl, Nat.zero_le _⟩
    | cons p l ih =>
      have hp := h p List.mem_cons_self
      obtain ⟨hfits, hwf, hnesting⟩ := ih fun x hx => h x (List.mem_cons_of_mem p hx)
      obtain ⟨k, v⟩ := p
      rw [fitsItems, wfItems, nestingItems, hp.fits, hp.nodup]
      exact ⟨hfits, hwf, Nat.max_le.2 ⟨hp.nesting, hnesting⟩⟩
  refine ⟨hlist.1, ?_, Nat.succ_le_succ hlist.2.2⟩
  rw [wf, hlist.2.1, decide_eq_true hkeys]
  rfl

mutual
theorem held_of_readValue : ∀ (n room : Nat) (s : PyStr) {r : PyStr} {v : PyJson},
    readValue n room s = .ok (v, r) → Held room v
  | 0, _, _, _, _, h => by simp [readValue] at h
  | n + 1, _, [], _, _, h => by simp [readValue] at h
  | n + 1, _, .surrogate _ :: _, _, _, h => by simp [readValue] at h
  | n + 1, room, .char c :: s, r, v, h => by
    have hleaf : ∀ {w : PyJson}, w.fits = true → w.wf = true → w.nesting = 0 → Held room w :=
      fun hfits hwf hnesting => ⟨hfits, hwf, by omega⟩
    rw [readValue] at h
    split at h
    · obtain ⟨p, -, hp⟩ := Option.map_eq_some_iff.1 (orDecode_eq_ok.1 h)
      cases hp
      exact hleaf rfl rfl rfl
    split at h
    · split at h
      · cases h
      · rename_i hroom
        obtain ⟨room, rfl⟩ := Nat.exists_eq_succ_of_ne_zero hroom
        split at h
        · cases h
          exact held_arr fun _ hv => by cases hv
        · obtain ⟨p, hp, heq⟩ := map_eq_ok.1 h
          cases heq
          exact held_arr (held_of_readElems n room _ hp)
    split at h
    · split at h
      · cases h
      · rename_i hroom
        obtain ⟨room, rfl⟩ := Nat.exists_eq_succ_of_ne_zero hroom
        split at h
        · cases h
          exact held_obj List.nodup_nil fun _ hp => by cases hp
        · obtain ⟨p, hp, heq⟩ := map_eq_ok.1 h
          cases heq
          exact held_obj (Json.nodup_ofPairs _) fun q hq => held_of_readItems n room _ hp q (Json.mem_of_mem_ofPairs hq)
    iterate 5
      split at h
      · exact held_of_readName (hleaf rfl rfl rfl) h
    rcases orElse_eq_ok.1 h with h | ⟨-, h⟩
    · exact held_of_readName (hleaf rfl rfl rfl) (orDecode_eq_ok.2 h)
    · exact held_of_readNumber room h

theorem held_of_readElems : ∀ (n room : Nat) (s : PyStr) {r : PyStr} {l : List PyJson},
    readElems n room s = .ok (l, r) → ∀ v ∈ l, Held room v
  | 0, _, _, _, _, h => by simp [readElems] at h
  | n + 1, room, s, r, l, h => by
    obtain ⟨⟨v, s'⟩, hv, h⟩ := bind_eq_ok.1 (by rwa [readElems] at h)
    have hheld := held_of_readValue n room s hv
    dsimp only at h
    split at h
    · cases h
      exact fun w hw => List.mem_singleton.1 hw ▸ hheld
    · obtain ⟨⟨l', s''⟩, hl, h⟩ := bind_eq_ok.1 h
      cases h
      exact List.forall_mem_cons.2 ⟨hheld, held_of_readElems n room _ hl⟩
    · cases h

theorem held_of_readItems : ∀ (n room : Nat) (s : PyStr) {r : PyStr} {l : List (PyStr × PyJson)},
    readItems n room s = .ok (l, r) → ∀ p ∈ l, Held room p.2
  | 0, _, _, _, _, h => by simp [readItems] at h
  | n + 1, room, s, r, l, h => by
    obtain ⟨⟨k, s₁⟩, -, h⟩ := bind_eq_ok.1 (by rwa [readItems] at h)
    obtain ⟨⟨v, s₂⟩, hv, h⟩ := bind_eq_ok.1 h
    have hheld := held_of_readValue n room s₁ hv
    dsimp only at h
    split at h
    · cases h
      exact fun p hp => List.mem_singleton.1 hp ▸ hheld
    · obtain ⟨⟨l', s''⟩, hl, h⟩ := bind_eq_ok.1 h
      cases h
      exact List.forall_mem_cons.2 ⟨hheld, held_of_readItems n room _ hl⟩
    · cases h
end

/-- **What is read fits, repeats no key, and is not nested deeper than there was room for.** -/
theorem held_of_loads {room : Nat} {s : PyStr} {v : PyJson} (h : loads room s = .ok v) : Held room v := by
  obtain ⟨⟨w, r⟩, hw, h⟩ := bind_eq_ok.1 h
  dsimp only at h
  split at h
  · cases h
    exact held_of_readValue _ room _ hw
  · cases h

/-- **What is read without surrogates repeats no key.** -/
theorem wf_of_loads {room : Nat} {s : PyStr} {j : Json} (h : loads room s = .ok (ofJson j)) : j.wf = true := by
  rw [← wf_ofJson]
  exact (held_of_loads h).nodup

end Held

/-! ## Values without surrogates -/

mutual
theorem render_ofJson : ∀ j : Json, render st (ofJson j) = Json.render st j
  | .null | .bool _ | .int _ | .float _ => rfl
  | .str s => by rw [ofJson, render, Json.render, strChars_ofString]
  | .arr [] => rfl
  | .arr (j :: l) => by rw [ofJson, ofElems, render, Json.render, render_ofJson j, renderElems_ofElems l]
  | .obj [] => rfl
  | .obj ((k, j) :: l) => by
    rw [ofJson, ofItems, render, Json.render, strChars_ofString, render_ofJson j, renderItems_ofItems l]

theorem renderElems_ofElems : ∀ l : List Json, renderElems st (ofElems l) = Json.renderElems st l
  | [] => rfl
  | j :: l => by rw [ofElems, renderElems, Json.renderElems, render_ofJson j, renderElems_ofElems l]

theorem renderItems_ofItems : ∀ l : List (String × Json), renderItems st (ofItems l) = Json.renderItems st l
  | [] => rfl
  | (k, j) :: l => by
    rw [ofItems, renderItems, Json.renderItems, strChars_ofString, render_ofJson j, renderItems_ofItems l]
end

/-- **Both writers write the same.** -/
theorem dumpsIn_ofJson (st : Json.Style) (j : Json) : dumpsIn st (ofJson j) = Json.dumpsIn st j :=
  congrArg String.ofList (render_ofJson j)

theorem dumps_ofJson (j : Json) : dumps (ofJson j) = Json.dumps j := dumpsIn_ofJson .stdlib j

/-- **What is written of a value without surrogates is read as itself**, where there is room. -/
theorem loads_dumpsIn_ofJson (st : Json.Style) {j : Json} (hwf : j.wf = true) (hf : (ofJson j).fits = true)
    (room : Nat) : loads room (Json.dumpsIn st j) =
      if (ofJson j).nesting ≤ room then .ok (ofJson j) else .error .recursion := by
  rw [← dumpsIn_ofJson, loads_dumpsIn st hf, rejoin_ofJson hwf]

theorem loads_dumps_ofJson {j : Json} {room : Nat} (hwf : j.wf = true) (hf : (ofJson j).fits = true)
    (hroom : (ofJson j).nesting ≤ room) : loads room (Json.dumps j) = .ok (ofJson j) := by
  rw [Json.dumps, loads_dumpsIn_ofJson .stdlib hwf hf, if_pos hroom]

end PyJson
end Tengen
