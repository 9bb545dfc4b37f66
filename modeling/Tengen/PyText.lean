import Tengen.JsonText
/-!
# Python's texts

`str` and `repr` of a JSON value, and the string methods the normalizers and the UDM tools call.  What rests on the
Unicode tables, or on how Python writes and reads numbers, is `PyText`, with what is documented of it for ASCII;
`PyText.ascii` is one for texts of ASCII characters.

A method called on a value that has none, and a subscript out of range, raise: nothing.
-/
namespace Tengen

/-! ## Characters -/

/-- Whether all characters of a text are such is decided one by one. -/
instance decidableAllChars (l : List Char) (P : Char → Prop) [DecidablePred P] : Decidable (∀ c ∈ l, P c) :=
  List.decidableBAll P l

instance decidableSomeChar (l : List Char) (P : Char → Prop) [DecidablePred P] : Decidable (∃ c ∈ l, P c) :=
  List.decidableBEx P l

def isAscii (c : Char) : Prop := c.toNat < 128

/-- What holds of each of the ASCII characters, checked one by one. -/
@[elab_as_elim]
theorem forall_ascii {motive : Char → Prop} {c : Char} (hc : isAscii c) (h : ∀ n < 128, motive (Char.ofNat n)) :
    motive c := by
  have hn := h c.toNat hc
  rwa [Char.ofNat_toNat] at hn

theorem isAscii_of_isAlphanum {c : Char} (h : c.isAlphanum = true) : isAscii c := by
  change (decide (c.val ≥ 'A'.val ∧ c.val ≤ 'Z'.val) || (decide (c.val ≥ 'a'.val) && decide (c.val ≤ 'z'.val)) ||
    (decide (c.val ≥ '0'.val) && decide (c.val ≤ '9'.val))) = true at h
  simp only [Bool.or_eq_true, Bool.and_eq_true, decide_eq_true_eq, UInt32.le_iff_toNat_le, ge_iff_le] at h
  change ((65 ≤ c.toNat ∧ c.toNat ≤ 90) ∨ (97 ≤ c.toNat ∧ c.toNat ≤ 122)) ∨ (48 ≤ c.toNat ∧ c.toNat ≤ 57) at h
  unfold isAscii
  omega

structure PyText where
  floatRepr : Flt → String
  floatOfText : String → Option Flt
  intOfText : String → Option Int
  isPrintable : Char → Bool
  isDigit : Char → Bool
  lower : String → String
  upper : String → String
  lower_ascii : ∀ s, (∀ c ∈ s.toList, isAscii c) → lower s = String.ofList (s.toList.map Char.toLower)
  upper_ascii : ∀ s, (∀ c ∈ s.toList, isAscii c) → upper s = String.ofList (s.toList.map Char.toUpper)

namespace PyText

def asciiFloatRepr : Flt → List Char
  | .dec m e => Json.intChars m ++ 'e' :: Json.intChars e
  | .nan => "nan".toList
  | .inf neg => if neg then "-inf".toList else "inf".toList

/-- Python's functions on ASCII texts; a float is written by its mantissa and its exponent. -/
def ascii : PyText where
  floatRepr f := String.ofList (asciiFloatRepr f)
  floatOfText s := s.toInt?.map fun i => .dec i 0
  intOfText s := s.toInt?
  isPrintable c := decide (32 ≤ c.toNat ∧ c.toNat < 127)
  isDigit c := c.isDigit
  lower s := String.ofList (s.toList.map Char.toLower)
  upper s := String.ofList (s.toList.map Char.toUpper)
  lower_ascii _ _ := rfl
  upper_ascii _ _ := rfl

end PyText

/-! ## Strings -/

/-- The characters `str.strip` strips. -/
def isSpace (c : Char) : Bool :=
  decide ((9 ≤ c.toNat ∧ c.toNat ≤ 13) ∨ (28 ≤ c.toNat ∧ c.toNat ≤ 32) ∨ (8192 ≤ c.toNat ∧ c.toNat ≤ 8202) ∨
    c.toNat ∈ [133, 160, 5760, 8232, 8233, 8239, 8287, 12288])

def strStrip (s : String) : String :=
  String.ofList ((((s.toList.dropWhile isSpace).reverse).dropWhile isSpace).reverse)

def startsWith (pre s : String) : Bool := pre.toList.isPrefixOf s.toList

def endsWith (suf s : String) : Bool := suf.toList.isSuffixOf s.toList

/-- `needle in s`. -/
def inStr (needle s : String) : Bool := Json.isInfix needle.toList s.toList

theorem isInfix_iff (needle : List Char) : ∀ (text : List Char), Json.isInfix needle text = true ↔ needle <:+: text
  | [] => by rw [Json.isInfix, List.isEmpty_iff, List.infix_nil]
  | c :: text => by
    rw [Json.isInfix, Bool.or_eq_true, List.isPrefixOf_iff_prefix, isInfix_iff needle text, List.infix_cons_iff]

/-- A text that ends in another holds every part of it. -/
theorem inStr_of_endsWith {needle suf s : String} (hneedle : needle.toList <:+: suf.toList)
    (h : endsWith suf s = true) : inStr needle s = true :=
  (isInfix_iff _ _).2 (hneedle.trans (List.isSuffixOf_iff_suffix.1 h).isInfix)

/-- `s.split(".")`: never empty. -/
def splitOn (sep : Char) : List Char → List (List Char)
  | [] => [[]]
  | c :: s =>
    if c = sep then [] :: splitOn sep s
    else match splitOn sep s with
      | [] => [[c]]
      | part :: parts => (c :: part) :: parts

theorem splitOn_ne_nil (sep : Char) : ∀ (s : List Char), splitOn sep s ≠ []
  | [] => List.cons_ne_nil _ _
  | c :: s => by
    unfold splitOn
    split
    · exact List.cons_ne_nil _ _
    · split <;> exact List.cons_ne_nil _ _

theorem splitOn_of_not_mem {sep : Char} : ∀ {s : List Char}, sep ∉ s → splitOn sep s = [s]
  | [], _ => rfl
  | c :: s, h => by
    rw [List.mem_cons, not_or] at h
    rw [splitOn, if_neg (Ne.symm h.1), splitOn_of_not_mem h.2]

/-- A separator parts what stands on its two sides. -/
theorem splitOn_append (sep : Char) (b : List Char) : ∀ (a : List Char),
    splitOn sep (a ++ sep :: b) = splitOn sep a ++ splitOn sep b
  | [] => by simp [splitOn]
  | c :: a => by
    rw [List.cons_append, splitOn, splitOn_append sep b a]
    by_cases hc : c = sep
    · rw [if_pos hc, splitOn, if_pos hc, List.cons_append]
    · rw [if_neg hc, splitOn, if_neg hc]
      cases h : splitOn sep a with
      | nil => exact absurd h (splitOn_ne_nil sep a)
      | cons part parts => rfl

/-- `s.split(".")[-1]`. -/
def lastPart (sep : Char) (s : List Char) : List Char := (splitOn sep s).getLast (splitOn_ne_nil sep s)

/-- `s.partition(":")`, without the separator. -/
def partition (sep : Char) : List Char → List Char × List Char
  | [] => ([], [])
  | c :: s => if c = sep then ([], s) else (c :: (partition sep s).1, (partition sep s).2)

/-- **The first separator splits**: what stands before it, if that has none, is given back, whatever stands after. -/
theorem partition_append {sep : Char} (b : List Char) : ∀ {a : List Char}, sep ∉ a →
    partition sep (a ++ sep :: b) = (a, b)
  | [], _ => if_pos rfl
  | c :: a, h => by
    rw [List.mem_cons, not_or] at h
    rw [List.cons_append, partition, if_neg (Ne.symm h.1), partition_append b h.2]

/-- `s.replace("[]", "")`. -/
def dropBrackets : List Char → List Char
  | '[' :: ']' :: s => dropBrackets s
  | c :: s => c :: dropBrackets s
  | [] => []

/-! ## `str` and `repr` -/

/-- `repr` quotes with an apostrophe, unless the text has one and no quotation mark. -/
def quoteOf (s : List Char) : Char := if '\'' ∈ s ∧ '"' ∉ s then '"' else '\''

/-- `n` in hexadecimal, padded to a width. -/
def hexPadded (width n : Nat) : List Char :=
  List.replicate (width - (Nat.toDigits 16 n).length) '0' ++ Nat.toDigits 16 n

def reprChar (py : PyText) (quote c : Char) : List Char :=
  if c = quote ∨ c = '\\' then ['\\', c]
  else if c = '\t' then ['\\', 't']
  else if c = '\n' then ['\\', 'n']
  else if c = '\r' then ['\\', 'r']
  else if c.toNat < 32 ∨ c.toNat = 127 then '\\' :: 'x' :: hexPadded 2 c.toNat
  else if c.toNat < 127 then [c]
  else if py.isPrintable c = true then [c]
  else if c.toNat < 256 then '\\' :: 'x' :: hexPadded 2 c.toNat
  else if c.toNat < 65536 then '\\' :: 'u' :: hexPadded 4 c.toNat
  else '\\' :: 'U' :: hexPadded 8 c.toNat

def reprStr (py : PyText) (s : String) : List Char :=
  quoteOf s.toList :: (s.toList.flatMap (reprChar py (quoteOf s.toList)) ++ [quoteOf s.toList])

mutual
/-- `repr(j)`. -/
def reprJson (py : PyText) : Json → List Char
  | .null => "None".toList
  | .bool b => if b then "True".toList else "False".toList
  | .int i => Json.intChars i
  | .float f => (py.floatRepr f).toList
  | .str s => reprStr py s
  | .arr [] => ['[', ']']
  | .arr (j :: l) => '[' :: (reprJson py j ++ reprElems py l)
  | .obj [] => ['{', '}']
  | .obj ((k, j) :: l) => '{' :: (reprStr py k ++ (':' :: ' ' :: (reprJson py j ++ reprItems py l)))

def reprElems (py : PyText) : List Json → List Char
  | [] => [']']
  | j :: l => ',' :: ' ' :: (reprJson py j ++ reprElems py l)

def reprItems (py : PyText) : List (String × Json) → List Char
  | [] => ['}']
  | (k, j) :: l => ',' :: ' ' :: (reprStr py k ++ (':' :: ' ' :: (reprJson py j ++ reprItems py l)))
end

/-- `str(j)`: a string is itself. -/
def pyStr (py : PyText) : Json → String
  | .str s => s
  | j => String.ofList (reprJson py j)

end Tengen
