import Mathlib.Tactic.NormNum
/-!
# Date and time

Python's `datetime` as the pipeline uses it: `isoformat`, `fromisoformat` and the comparison of two values.  A value
is its civil fields and, when it is aware, its offset from UTC in microseconds; `DateTime` carries the ranges Python's
constructor enforces, and no offset but UTC's of less than a second, which the pipeline never makes.

`fromisoformat` is CPython 3.11's, step by step as its C code goes over the text's UTF-8: calendar and week dates with
or without dashes, any one character between date and time, a time cut short or with a fraction after any of its parts,
and an offset or `Z`, before which it may pass over what is no part of the time.  `fromisoformat_isoformat` is that what
is formatted is read back.

Comparing an aware value with a naive one raises `TypeError`, which is `none` here (`DateTime.lt?`).
-/
namespace Tengen

structure Civil where
  year : Nat
  month : Nat
  day : Nat
  hour : Nat
  minute : Nat
  second : Nat
  micro : Nat
  offset : Option Int
  deriving DecidableEq, Repr

namespace Civil

def isLeap (y : Nat) : Bool := y % 4 == 0 && (y % 100 != 0 || y % 400 == 0)

def daysInMonth (y m : Nat) : Nat :=
  if m = 2 then (if isLeap y then 29 else 28) else if m = 4 ∨ m = 6 ∨ m = 9 ∨ m = 11 then 30 else 31

/-- Days before January 1 of the year, the first of year 1 being day 1. -/
def daysBeforeYear (y : Nat) : Nat := (y - 1) * 365 + (y - 1) / 4 - (y - 1) / 100 + (y - 1) / 400

def daysBeforeMonth (y m : Nat) : Nat := ((List.range (m - 1)).map (fun i => daysInMonth y (i + 1))).sum

def ordinal (y m d : Nat) : Nat := daysBeforeYear y + daysBeforeMonth y m + d

def dayMicros : Int := 86400000000

def Valid (c : Civil) : Prop :=
  (1 ≤ c.year ∧ c.year ≤ 9999) ∧ (1 ≤ c.month ∧ c.month ≤ 12) ∧ (1 ≤ c.day ∧ c.day ≤ daysInMonth c.year c.month) ∧
  c.hour < 24 ∧ c.minute < 60 ∧ c.second < 60 ∧ c.micro < 1000000 ∧
  ∀ o ∈ c.offset, -dayMicros < o ∧ o < dayMicros ∧ (o = 0 ∨ 1000000 ≤ o.natAbs)

instance (c : Civil) : Decidable c.Valid := by unfold Valid; exact inferInstance

/-- The fields' own reading, in microseconds. -/
def localMicros (c : Civil) : Int :=
  ((((ordinal c.year c.month c.day * 24 + c.hour) * 60 + c.minute) * 60 + c.second) * 1000000 + c.micro : Nat)

end Civil

structure DateTime extends Civil where
  valid : toCivil.Valid
  deriving DecidableEq

namespace DateTime

/-- The instant an aware value stands for. -/
def utcMicros (t : DateTime) : Int := t.localMicros - t.offset.getD 0

def mk? (c : Civil) : Option DateTime := if h : c.Valid then some ⟨c, h⟩ else none

/-- 1970-01-01T00:00:00+00:00. -/
def epoch : DateTime := ⟨⟨1970, 1, 1, 0, 0, 0, 0, some 0⟩, by decide⟩

theorem mk?_toCivil (t : DateTime) : mk? t.toCivil = some t := by rw [mk?, dif_pos t.valid]

/-! ## Formatting -/

/-- The last `w` digits of `n`. -/
def fixed : Nat → Nat → List Char
  | 0, _ => []
  | w + 1, n => fixed w (n / 10) ++ [(n % 10).digitChar]

/-- `HH:MM`, and `:SS` and `.ffffff` where they are not zero. -/
def offsetChars (o : Int) : List Char :=
  let n := o.natAbs
  (if o < 0 then '-' else '+') :: (fixed 2 (n / 3600000000) ++ ':' :: (fixed 2 (n / 60000000 % 60) ++
    (if n % 60000000 = 0 then [] else ':' :: (fixed 2 (n / 1000000 % 60) ++
      (if n % 1000000 = 0 then [] else '.' :: fixed 6 (n % 1000000))))))

def clockChars (t : DateTime) : List Char :=
  fixed 2 t.hour ++ ':' :: (fixed 2 t.minute ++ ':' :: (fixed 2 t.second ++
    (if t.micro = 0 then [] else '.' :: fixed 6 t.micro)))

def isoChars (t : DateTime) : List Char :=
  fixed 4 t.year ++ '-' :: (fixed 2 t.month ++ '-' :: (fixed 2 t.day ++ 'T' :: (clockChars t ++
    match t.offset with
    | none => []
    | some o => offsetChars o)))

def isoformat (t : DateTime) : String := String.ofList (isoChars t)

/-! ## Reading -/

/-- What a pointer past the end of a C string reads. -/
def nul : Char := '\x00'

/-- `parse_digits`. -/
def readDigits (w : Nat) (s : List Char) : Option (Nat × List Char) :=
  if (s.take w).length = w ∧ (s.take w).all Char.isDigit = true then some (Nat.ofDigitChars 10 (s.take w) 0, s.drop w)
  else none

/-- Day 1 of ISO week 1: the Monday of the week with the year's first Thursday. -/
def isoWeek1Monday (y : Nat) : Nat :=
  let first := Civil.ordinal y 1 1
  let weekday := (first + 6) % 7
  if 3 < weekday then first - weekday + 7 else first - weekday

/-- The month and day of the `n`th day of a year, counted from zero. -/
def monthDay (y : Nat) : Nat → Nat → Nat → Nat × Nat
  | 0, m, n => (m, n + 1)
  | k + 1, m, n => if n < Civil.daysInMonth y m then (m, n + 1) else monthDay y k (m + 1) (n - Civil.daysInMonth y m)

/-- The year, month and day of an ordinal within a year of the given one. -/
def ofOrdinal (y n : Nat) : Nat × Nat × Nat :=
  let y := if n < Civil.ordinal y 1 1 then y - 1 else if Civil.ordinal (y + 1) 1 1 ≤ n then y + 1 else y
  (y, monthDay y 11 1 (n - Civil.ordinal y 1 1))

def isLongIsoYear (y : Nat) : Bool :=
  let w := Civil.ordinal y 1 1 % 7
  w == 4 || (w == 3 && Civil.isLeap y)

/-- `date.fromisocalendar`. -/
def ofIsoWeek (y w d : Nat) : Option (Nat × Nat × Nat) :=
  if 1 ≤ y ∧ y ≤ 9999 ∧ (1 ≤ w ∧ w ≤ 52 ∨ w = 53 ∧ isLongIsoYear y = true) ∧ 1 ≤ d ∧ d ≤ 7 then
    some (ofOrdinal y (isoWeek1Monday y + (w - 1) * 7 + (d - 1)))
  else none

/-- Where the date ends and the separator stands. -/
def separatorAt (s : List Char) : Nat :=
  if s.length = 7 then 7
  else if s[4]? = some '-' then
    if s[5]? = some 'W' then
      if s[8]? = some '-' then
        -- `-dd` is read as a time after a dash, not as a day before a digit
        if (s[10]?.map Char.isDigit).getD false then 8 else 10
      else 8
    else 10
  else if s[4]? = some 'W' then
    let stop := 7 + ((s.drop 7).takeWhile Char.isDigit).length
    if stop < 9 then stop else if stop % 2 = 0 then 7 else 8
  else 8

def skipDash (dashed : Bool) (s : List Char) : Option (List Char) :=
  if dashed then (if s.head? = some '-' then some (s.drop 1) else none) else some s

/-- `parse_isoformat_date`, of a text whose date ends at `stop`. -/
def readDate (stop : Nat) (s : List Char) : Option (Nat × Nat × Nat) := do
  let (y, s) ← readDigits 4 s
  let dashed := decide (s.head? = some '-')
  let s ← skipDash dashed s
  if s.head? = some 'W' then
    let (w, s) ← readDigits 2 (s.drop 1)
    if (if dashed then 8 else 7) < stop then do
      let s ← skipDash dashed s
      let (d, _) ← readDigits 1 s
      ofIsoWeek y w d
    else ofIsoWeek y w 1
  else do
    let (m, s) ← readDigits 2 s
    let s ← skipDash dashed s
    let (d, _) ← readDigits 2 s
    return (y, m, d)

/-- How the loop over hours, minutes and seconds ends: with the clock, something unread behind it or not, or before a
fraction in the first `n` characters of what is left. -/
inductive Left where
  | clock (more : Bool)
  | fraction (s : List Char) (n : Nat)

/-- The loop of `parse_hh_mm_ss_ff`, for `k` more fields in the first `n` characters.  `colons` is whether a colon stands
after the hours, once they are read. -/
def readFields : Nat → Option Bool → List Char → Nat → Option (List Nat × Left)
  | 0, _, s, n => some ([], .fraction s n)
  | k + 1, colons, s, n => do
    let (v, s) ← readDigits 2 s
    let c := s.headD nul
    let colons := colons.getD (c == ':')
    if n ≤ 3 then some ([v], .clock (c != nul))
    else if colons ∧ c = ':' then do
      let (vs, left) ← readFields k (some colons) (s.drop 1) (n - 3)
      return (v :: vs, left)
    else if c = '.' ∨ c = ',' then some ([v], .fraction (s.drop 1) (n - 3))
    else if colons then none
    else do
      let (vs, left) ← readFields k (some colons) s (n - 2)
      return (v :: vs, left)

/-- Six digits at most, the others dropped, and whether something is unread behind them. -/
def readFraction (s : List Char) (n : Nat) : Option (Nat × Bool) := do
  let (f, s) ← readDigits (min n 6) s
  return (f * 10 ^ (6 - min n 6), (s.dropWhile Char.isDigit).headD nul != nul)

/-- `parse_hh_mm_ss_ff`, of the first `n` characters: the clock, and whether something is unread behind it. -/
def readClock (s : List Char) (n : Nat) : Option ((Nat × Nat × Nat × Nat) × Bool) := do
  let (fields, left) ← readFields 3 none s n
  match left with
  | .clock more => some ((fields.getD 0 0, fields.getD 1 0, fields.getD 2 0, 0), more)
  | .fraction s n => do
    let (f, more) ← readFraction s n
    return ((fields.getD 0 0, fields.getD 1 0, fields.getD 2 0, f), more)

/-- The offset after its sign: UTC when it is less than a second. -/
def readOffset (neg : Bool) (s : List Char) : Option Int := do
  let ((h, m, sec, f), more) ← readClock s s.length
  if more then none
  else
    let n : Nat := if h * 3600 + m * 60 + sec = 0 then 0 else (h * 3600 + m * 60 + sec) * 1000000 + f
    return if neg then -n else n

def isZone (c : Char) : Bool := c == '+' || c == '-' || c == 'Z'

/-- `parse_isoformat_time`: the clock, with its offset when it has one.  What is unread between the two is passed over. -/
def readTime (s : List Char) : Option ((Nat × Nat × Nat × Nat) × Option Int) := do
  let n := (s.takeWhile (!isZone ·)).length
  let (clock, more) ← readClock s n
  match s.drop n with
  | [] => if more then none else return (clock, none)
  | zone :: z =>
    if zone = 'Z' then (if z.headD nul = nul then return (clock, some 0) else none)
    else return (clock, some (← readOffset (zone == '-') z))

/-- How many bytes the character has that begins with this one. -/
def byteCount (lead : Char) : Nat :=
  if lead.toNat < 128 then 1 else if lead.toNat / 16 = 14 then 3 else if lead.toNat / 16 = 15 then 4 else 2

/-- Midnight, when the text ends with the date. -/
def timePart (s : List Char) : Option ((Nat × Nat × Nat × Nat) × Option Int) :=
  if s.length ≤ separatorAt s then some ((0, 0, 0, 0), none)
  else readTime (s.drop (separatorAt s + byteCount ((s.drop (separatorAt s)).headD nul)))

def ofIsoChars (s : List Char) : Option DateTime := do
  let (y, m, d) ← readDate (separatorAt s) s
  let ((h, mi, sec, f), off) ← timePart s
  mk? ⟨y, m, d, h, mi, sec, f, off⟩

/-- The text's UTF-8, each byte a character. -/
def utf8Chars (s : String) : List Char :=
  s.toList.flatMap fun c => (String.utf8EncodeChar c).map fun b => Char.ofNat b.toNat

/-- `datetime.fromisoformat`; `none` is `ValueError`. -/
def fromisoformat (s : String) : Option DateTime := if s.length < 7 then none else ofIsoChars (utf8Chars s)

/-- A fraction may follow the hours, and a blank may stand before the offset. -/
example : (fromisoformat "1970-01-01T00,0").map (·.offset) = some none ∧
    fromisoformat "1970-01-01T00:00:00 +00:00" = some epoch := by decide +kernel

/-! ## What is formatted is read back -/

theorem length_fixed : ∀ (w n : Nat), (fixed w n).length = w
  | 0, _ => rfl
  | w + 1, n => by rw [fixed, List.length_append, length_fixed w, List.length_singleton]

theorem fixed_isDigit : ∀ (w n : Nat), ∀ c ∈ fixed w n, c.isDigit = true
  | 0, _, _, h => by cases h
  | w + 1, n, c, h => by
    rcases List.mem_append.1 h with h | h
    · exact fixed_isDigit w _ c h
    · have key : ∀ m, m < 10 → (Nat.digitChar m).isDigit = true := by decide
      rw [List.mem_singleton.1 h]
      exact key _ (Nat.mod_lt _ (by decide))

theorem ofDigitChars_fixed : ∀ (w n : Nat), Nat.ofDigitChars 10 (fixed w n) 0 = n % 10 ^ w
  | 0, n => by simp [fixed, Nat.mod_one]
  | w + 1, n => by
    rw [fixed, Nat.ofDigitChars_append, ofDigitChars_fixed w,
      Nat.ofDigitChars_cons_digitChar_of_lt_ten (Nat.mod_lt _ (by decide)), Nat.ofDigitChars_nil, Nat.pow_succ,
      Nat.mul_comm (10 ^ w) 10, Nat.mod_mul]
    omega

/-- **Digits of a fixed width are read back.** -/
theorem readDigits_fixed {w n : Nat} (h : n < 10 ^ w) (s : List Char) : readDigits w (fixed w n ++ s) = some (n, s) := by
  have hl := length_fixed w n
  have ht : (fixed w n ++ s).take w = fixed w n := by
    rw [List.take_append_of_le_length (by omega), List.take_of_length_le (by omega)]
  have hd : (fixed w n ++ s).drop w = s := by
    rw [List.drop_append_of_le_length (by omega), List.drop_of_length_le (by omega), List.nil_append]
  rw [readDigits, ht, hd, if_pos ⟨hl, List.all_eq_true.2 (fixed_isDigit w n)⟩, ofDigitChars_fixed,
    Nat.mod_eq_of_lt h]

theorem headD_dropWhile_isDigit {s : List Char} (h : (s.headD nul).isDigit = false) :
    (s.dropWhile Char.isDigit).headD nul = s.headD nul := by
  cases s with
  | nil => rfl
  | cons c s => rw [List.dropWhile_cons_of_neg (by rw [show c.isDigit = false from h]; decide)]

theorem readFraction_fixed {n : Nat} (h : n < 1000000) {s : List Char} (hs : (s.headD nul).isDigit = false) :
    readFraction (fixed 6 n ++ s) 6 = some (n, s.headD nul != nul) := by
  rw [← headD_dropWhile_isDigit hs]
  simp [readFraction, readDigits_fixed (w := 6) h]

section Clock

variable {h m s f : Nat} (hh : h < 100) (hm : m < 100) (hs : s < 100) (rest : List Char)
include hh hm

theorem readClock_minutes :
    readClock (fixed 2 h ++ ':' :: (fixed 2 m ++ rest)) 5 = some ((h, m, 0, 0), rest.headD nul != nul) := by
  simp [readClock, readFields, readDigits_fixed (w := 2) hh, readDigits_fixed (w := 2) hm]

include hs

theorem readClock_seconds :
    readClock (fixed 2 h ++ ':' :: (fixed 2 m ++ ':' :: (fixed 2 s ++ rest))) 8 =
      some ((h, m, s, 0), rest.headD nul != nul) := by
  simp [readClock, readFields, readDigits_fixed (w := 2) hh, readDigits_fixed (w := 2) hm, readDigits_fixed (w := 2) hs]

theorem readClock_micros (hf : f < 1000000) (hrest : (rest.headD nul).isDigit = false) :
    readClock (fixed 2 h ++ ':' :: (fixed 2 m ++ ':' :: (fixed 2 s ++ '.' :: (fixed 6 f ++ rest)))) 15 =
      some ((h, m, s, f), rest.headD nul != nul) := by
  simp [readClock, readFields, readDigits_fixed (w := 2) hh, readDigits_fixed (w := 2) hm,
    readDigits_fixed (w := 2) hs, readFraction_fixed hf hrest]

end Clock

theorem readClock_clockChars (t : DateTime) {rest : List Char} (hrest : (rest.headD nul).isDigit = false) :
    readClock (clockChars t ++ rest) (clockChars t).length =
      some ((t.hour, t.minute, t.second, t.micro), rest.headD nul != nul) := by
  obtain ⟨-, -, -, hh, hm, hs, hf, -⟩ := t.valid
  unfold clockChars
  split
  · rename_i h0
    rw [h0]
    simpa [length_fixed] using readClock_seconds (by omega) (by omega) (by omega) rest
  · simpa [length_fixed] using readClock_micros (by omega) (by omega) (by omega) rest hf hrest

def isClockChar (c : Char) : Bool := c.isDigit || c == ':' || c == '.'

theorem isClockChar_fixed (w n : Nat) : ∀ c ∈ fixed w n, isClockChar c = true := fun c h => by
  simp [isClockChar, fixed_isDigit w n c h]

theorem isClockChar_clockChars (t : DateTime) : ∀ c ∈ clockChars t, isClockChar c = true := by
  intro c hc
  unfold clockChars at hc
  simp only [List.mem_append, List.mem_cons] at hc
  rcases hc with h | rfl | h | rfl | h | h
  · exact isClockChar_fixed _ _ c h
  · rfl
  · exact isClockChar_fixed _ _ c h
  · rfl
  · exact isClockChar_fixed _ _ c h
  · split at h
    · cases h
    · rcases List.mem_cons.1 h with rfl | h
      · rfl
      · exact isClockChar_fixed _ _ c h

theorem isZone_of_isClockChar {c : Char} (h : isClockChar c = true) : isZone c = false := by
  cases hz : isZone c with
  | false => rfl
  | true =>
    simp only [isZone, Bool.or_eq_true, beq_iff_eq, or_assoc] at hz
    rcases hz with rfl | rfl | rfl <;> (revert h; decide)

/-- What an offset has after its sign. -/
def offsetClock (n : Nat) : List Char :=
  fixed 2 (n / 3600000000) ++ ':' :: (fixed 2 (n / 60000000 % 60) ++
    (if n % 60000000 = 0 then [] else ':' :: (fixed 2 (n / 1000000 % 60) ++
      (if n % 1000000 = 0 then [] else '.' :: fixed 6 (n % 1000000)))))

theorem isClockChar_offsetClock (n : Nat) : ∀ c ∈ offsetClock n, isClockChar c = true := by
  intro c hc
  unfold offsetClock at hc
  simp only [List.mem_append, List.mem_cons] at hc
  rcases hc with h | rfl | h | h
  · exact isClockChar_fixed _ _ c h
  · rfl
  · exact isClockChar_fixed _ _ c h
  · split at h
    · cases h
    rcases List.mem_cons.1 h with rfl | h
    · rfl
    rcases List.mem_append.1 h with h | h
    · exact isClockChar_fixed _ _ c h
    · split at h
      · cases h
      · rcases List.mem_cons.1 h with rfl | h
        · rfl
        · exact isClockChar_fixed _ _ c h

theorem readClock_offsetClock {n : Nat} (hn : n < 86400000000) : readClock (offsetClock n) (offsetClock n).length =
    some ((n / 3600000000, n / 60000000 % 60, n / 1000000 % 60, n % 1000000), false) := by
  unfold offsetClock
  by_cases h0 : n % 60000000 = 0
  · rw [if_pos h0, show n / 1000000 % 60 = 0 by omega, show n % 1000000 = 0 by omega]
    simpa [length_fixed] using readClock_minutes (h := n / 3600000000) (m := n / 60000000 % 60) (by omega) (by omega) []
  rw [if_neg h0]
  by_cases h1 : n % 1000000 = 0
  · rw [if_pos h1, h1]
    simpa [length_fixed] using readClock_seconds (h := n / 3600000000) (m := n / 60000000 % 60)
      (s := n / 1000000 % 60) (by omega) (by omega) (by omega) []
  · rw [if_neg h1]
    simpa [length_fixed] using readClock_micros (h := n / 3600000000) (m := n / 60000000 % 60)
      (s := n / 1000000 % 60) (by omega) (by omega) (by omega) [] (Nat.mod_lt _ (by decide)) rfl

theorem readOffset_offsetClock {o : Int} (hlow : -Civil.dayMicros < o) (hhigh : o < Civil.dayMicros)
    (hsec : o = 0 ∨ 1000000 ≤ o.natAbs) : readOffset (decide (o < 0)) (offsetClock o.natAbs) = some o := by
  simp only [Civil.dayMicros] at hlow hhigh
  have hback : ∀ k : Nat, k = o.natAbs → (if decide (o < 0) = true then -(k : Int) else (k : Int)) = o := by
    rintro k rfl
    by_cases h : o < 0
    · simp only [h, decide_true, if_true]; omega
    · simp only [h, decide_false, Bool.false_eq_true, if_false]; omega
  rw [readOffset, readClock_offsetClock (by omega)]
  simp only [Option.bind_eq_bind, Option.bind_some, Bool.false_eq_true, if_false, Option.pure_def, Option.some.injEq]
  refine hback _ ?_
  split <;> omega

/-- The text splits where the zone begins. -/
theorem take_zone {t z : List Char} (ht : ∀ c ∈ t, isZone c = false) (hz : z = [] ∨ isZone (z.headD nul) = true) :
    (t ++ z).takeWhile (!isZone ·) = t := by
  rw [List.takeWhile_append_of_pos fun c hc => by rw [ht c hc]; rfl]
  rcases hz with rfl | hz
  · simp
  · cases z with
    | nil => simp
    | cons c z => rw [List.takeWhile_cons_of_neg (by rw [show isZone c = true from hz]; decide), List.append_nil]

theorem readTime_clockChars (t : DateTime) :
    readTime (clockChars t ++ match t.offset with
      | none => []
      | some o => offsetChars o) = some ((t.hour, t.minute, t.second, t.micro), t.offset) := by
  have hc : ∀ c ∈ clockChars t, isZone c = false := fun c h => isZone_of_isClockChar (isClockChar_clockChars t c h)
  cases ho : t.offset with
  | none =>
    rw [readTime, take_zone hc (.inl rfl), readClock_clockChars t rfl]
    simp
  | some o =>
    have hsign : offsetChars o = (if o < 0 then '-' else '+') :: offsetClock o.natAbs := rfl
    obtain ⟨hlow, hhigh, hsec⟩ := t.valid.2.2.2.2.2.2.2 o ho
    have hread := readOffset_offsetClock hlow hhigh hsec
    simp only [hsign]
    by_cases hneg : o < 0
    · simp only [hneg, decide_true] at hread
      rw [if_pos hneg, readTime, take_zone hc (.inr rfl), readClock_clockChars t rfl]
      simp [hread]
    · simp only [hneg, decide_false] at hread
      rw [if_neg hneg, readTime, take_zone hc (.inr rfl), readClock_clockChars t rfl]
      simp [hread]

/-! ## The date -/

def dateChars (t : DateTime) : List Char := fixed 4 t.year ++ '-' :: (fixed 2 t.month ++ '-' :: fixed 2 t.day)

theorem length_dateChars (t : DateTime) : (dateChars t).length = 10 := by
  simp [dateChars, length_fixed]

theorem day_lt (t : DateTime) : t.day < 100 := by
  obtain ⟨-, -, hd, -⟩ := t.valid
  have hmax : Civil.daysInMonth t.year t.month ≤ 31 := by
    unfold Civil.daysInMonth
    split
    · split <;> decide
    · split <;> decide
  omega

/-- No number begins as a week does. -/
theorem head?_fixed (n : Nat) (l : List Char) : (fixed 2 n ++ l).head? ≠ some 'W' := by
  have hdigits : ∀ n, n < 10 → Nat.digitChar n ≠ 'W' := by decide
  simp only [fixed, List.nil_append, List.cons_append, List.head?_cons, ne_eq, Option.some.injEq]
  exact hdigits _ (Nat.mod_lt _ (by decide))

theorem readDate_dateChars (t : DateTime) (stop : Nat) (rest : List Char) :
    readDate stop (dateChars t ++ rest) = some (t.year, t.month, t.day) := by
  obtain ⟨hy, hm, -⟩ := t.valid
  rw [dateChars, readDate]
  simp only [List.append_assoc, List.cons_append]
  rw [readDigits_fixed (w := 4) (by omega)]
  simp only [Option.bind_eq_bind, Option.bind_some, List.head?_cons, decide_true, skipDash, if_true, List.drop_succ_cons,
    List.drop_zero, if_neg (head?_fixed t.month _)]
  rw [readDigits_fixed (w := 2) (by omega)]
  simp only [Option.bind_some, List.head?_cons, if_true, List.drop_succ_cons, List.drop_zero,
    readDigits_fixed (w := 2) (day_lt t)]
  rfl

/-- The date is in the extended form, of ten characters. -/
theorem separatorAt_isoChars (t : DateTime) : separatorAt (isoChars t) = 10 := by
  have hlen : 10 < (isoChars t).length := by
    simp [isoChars, length_fixed]
    omega
  have h4 : (isoChars t)[4]? = some '-' := by
    rw [isoChars, List.getElem?_append_right (by rw [length_fixed]), length_fixed]
    rfl
  have h5 : (isoChars t)[5]? ≠ some 'W' := by
    rw [isoChars, List.getElem?_append_right (by rw [length_fixed]; omega), length_fixed]
    simp only [Nat.reduceSub, List.getElem?_cons_succ, ← List.head?_eq_getElem?]
    exact head?_fixed t.month _
  rw [separatorAt, if_neg (by omega), if_pos h4, if_neg h5]

/-! ## The text -/

theorem utf8EncodeChar_of_lt {c : Char} (h : c.toNat < 128) :
    (String.utf8EncodeChar c).map (fun b => Char.ofNat b.toNat) = [c] := by
  have hv : c.val.toNat < 128 := h
  rw [String.utf8EncodeChar, if_pos (by omega), List.map_singleton, UInt8.toNat_ofNat', Nat.mod_eq_of_lt (by omega)]
  exact congrArg (fun c => [c]) (Char.ofNat_toNat c)

theorem utf8Chars_ofList : ∀ {l : List Char}, (∀ c ∈ l, c.toNat < 128) → utf8Chars (String.ofList l) = l := by
  intro l h
  rw [utf8Chars, String.toList_ofList]
  induction l with
  | nil => rfl
  | cons c l ih =>
    rw [List.flatMap_cons, utf8EncodeChar_of_lt (h c List.mem_cons_self),
      ih fun c hc => h c (List.mem_cons_of_mem _ hc), List.singleton_append]

theorem lt_of_isDigit {c : Char} (h : c.isDigit = true) : c.toNat < 128 := by
  simp only [Char.isDigit, Bool.and_eq_true, decide_eq_true_eq] at h
  have h9 : c.val.toNat ≤ 57 := UInt32.le_iff_toNat_le.1 h.2
  exact Nat.lt_of_le_of_lt h9 (by decide)

theorem lt_of_isClockChar {c : Char} (h : isClockChar c = true) : c.toNat < 128 := by
  simp only [isClockChar, Bool.or_eq_true, beq_iff_eq, or_assoc] at h
  rcases h with h | rfl | rfl
  · exact lt_of_isDigit h
  · decide
  · decide

theorem isoChars_lt (t : DateTime) : ∀ c ∈ isoChars t, c.toNat < 128 := by
  have hd : ∀ w n, ∀ c ∈ fixed w n, c.toNat < 128 := fun w n c h => lt_of_isDigit (fixed_isDigit w n c h)
  intro c hc
  simp only [isoChars, List.mem_append, List.mem_cons] at hc
  rcases hc with h | rfl | h | rfl | h | rfl | h | h
  · exact hd _ _ c h
  · decide
  · exact hd _ _ c h
  · decide
  · exact hd _ _ c h
  · decide
  · exact lt_of_isClockChar (isClockChar_clockChars t c h)
  · cases ho : t.offset with
    | none => rw [ho] at h; cases h
    | some o =>
      rw [ho] at h
      rcases List.mem_cons.1 h with rfl | h
      · split <;> decide
      · exact lt_of_isClockChar (isClockChar_offsetClock _ c h)

/-- **What is formatted is read back.** -/
theorem fromisoformat_isoformat (t : DateTime) : fromisoformat (isoformat t) = some t := by
  generalize htail : (clockChars t ++ match t.offset with
      | none => []
      | some o => offsetChars o) = tail
  have htime := readTime_clockChars t
  rw [htail] at htime
  have hsplit : isoChars t = dateChars t ++ 'T' :: tail := by
    rw [isoChars, htail]
    simp [dateChars]
  have hdate := length_dateChars t
  have hsep := separatorAt_isoChars t
  have hlen : 10 < (isoChars t).length := by
    rw [hsplit, List.length_append, hdate, List.length_cons]
    omega
  have hdrop : (isoChars t).drop 10 = 'T' :: tail := by
    rw [hsplit, List.drop_append, List.drop_of_length_le (by omega), hdate, List.nil_append, Nat.sub_self, List.drop_zero]
  have htp : timePart (isoChars t) = some ((t.hour, t.minute, t.second, t.micro), t.offset) := by
    rw [timePart, hsep, if_neg (by omega), ← List.drop_drop, hdrop]
    exact htime
  rw [fromisoformat, isoformat, String.length_ofList, if_neg (by omega), utf8Chars_ofList (isoChars_lt t), ofIsoChars,
    hsep, htp, hsplit, readDate_dateChars]
  exact mk?_toCivil t

end DateTime
end Tengen
