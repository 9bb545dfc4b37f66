import Tengen.Suggestion
import Tengen.Unicode
/-!
# IP addresses as text

What an IP address looks like, apart from `_looks_like_ip`: a dotted quad, or groups of hexadecimal digits between
colons, of which `::` leaves some out.  The two agree on every text but a few kinds, which `recognises_iff` lists.
-/
namespace Tengen

/-- A decimal number from 0 to 255. -/
def IsByte (part : List Char) : Prop :=
  part ≠ [] ∧ (∀ c ∈ part, c.isDigit = true) ∧ decimal part ≤ 255

/-- Four parts, with a dot between each two. -/
def Quad (P : List Char → Prop) (s : List Char) : Prop :=
  ∃ a b c d, s = a ++ '.' :: (b ++ '.' :: (c ++ '.' :: d)) ∧ P a ∧ P b ∧ P c ∧ P d

def IsIpv4 (s : List Char) : Prop := Quad IsByte s

/-- One to four hexadecimal digits. -/
def IsGroup (g : List Char) : Prop := g ≠ [] ∧ g.length ≤ 4 ∧ ∀ c ∈ g, c ∈ hexDigits

/-- An octet as it stands in an IPv6 address: no zero leads it. -/
def IsPlainByte (part : List Char) : Prop :=
  IsByte part ∧ part.length ≤ 3 ∧ (part.head? = some '0' → part.length = 1)

/-- So many groups, with a colon between each two; the last two may be written as a dotted quad. -/
inductive Groups (quad : Bool) : Nat → List Char → Prop
  | none : Groups quad 0 []
  | last {g} : IsGroup g → Groups quad 1 g
  | quad {s} : quad = true → Quad IsPlainByte s → Groups quad 2 s
  | cons {g n s} : IsGroup g → Groups quad (n + 1) s → Groups quad (n + 2) (g ++ ':' :: s)

/-- Eight groups; or fewer, where `::` stands for those left out. -/
inductive IsIpv6 : List Char → Prop
  | full {s} : Groups true 8 s → IsIpv6 s
  | shortened {n m a b} : Groups false n a → Groups true m b → n + m ≤ 7 → IsIpv6 (a ++ ':' :: ':' :: b)

/-! ## What IPv6 addresses have in common -/

theorem length_of_groups {quad : Bool} {n : Nat} {s : List Char} (h : Groups quad n s) :
    s.length ≤ 5 * n + if quad = true then 5 else 0 := by
  induction h with
  | none => exact Nat.zero_le _
  | last hg => have := hg.2.1; omega
  | quad hquad hs =>
    obtain ⟨a, b, c, d, rfl, ha, hb, hc, hd⟩ := hs
    have := ha.2.1; have := hb.2.1; have := hc.2.1; have := hd.2.1
    simp only [List.length_append, List.length_cons, if_pos hquad]
    omega
  | cons hg _ ih =>
    have := hg.2.1
    simp only [List.length_append, List.length_cons]
    omega

theorem length_of_ipv6 {s : List Char} (h : IsIpv6 s) : s.length ≤ 45 := by
  cases h with
  | full h => exact length_of_groups h
  | shortened ha hb hn =>
    have hla := length_of_groups ha
    have hlb := length_of_groups hb
    simp only [List.length_append, List.length_cons, Bool.false_eq_true, if_false, if_true] at hla hlb ⊢
    omega

theorem colons_of_groups {quad : Bool} {n : Nat} {s : List Char} (h : Groups quad n s) : n ≤ s.count ':' + 2 := by
  induction h with
  | none => exact Nat.zero_le _
  | last _ => omega
  | quad _ _ => omega
  | cons _ _ ih =>
    rw [List.count_append, List.count_cons_self]
    omega

/-- An IPv6 address has two colons at the least; a time of day has one. -/
theorem colons_of_ipv6 {s : List Char} (h : IsIpv6 s) : 2 ≤ s.count ':' := by
  cases h with
  | full h => have := colons_of_groups h; omega
  | shortened _ _ _ =>
    rw [List.count_append, List.count_cons_self, List.count_cons_self]
    omega

theorem isDigit_mem_hexDigits {c : Char} (h : c.isDigit = true) : c ∈ hexDigits := by
  have hascii : isAscii c := isAscii_of_isDigit h
  revert h
  refine forall_ascii hascii ?_
  decide

theorem hexDigit_of_groups {quad : Bool} {n : Nat} {s : List Char} (h : Groups quad n s) :
    n = 0 ∧ s = [] ∨ ∃ c ∈ s, c ∈ hexDigits := by
  have hmem : ∀ {g : List Char}, g ≠ [] → (∀ c ∈ g, c ∈ hexDigits) → ∃ c ∈ g, c ∈ hexDigits := by
    intro g hne hg
    obtain ⟨c, hc⟩ := List.exists_mem_of_ne_nil g hne
    exact ⟨c, hc, hg c hc⟩
  cases h with
  | none => exact Or.inl ⟨rfl, rfl⟩
  | last hg => exact Or.inr (hmem hg.1 hg.2.2)
  | quad _ hs =>
    obtain ⟨a, b, c, d, rfl, ha, -⟩ := hs
    obtain ⟨x, hx, hhex⟩ := hmem ha.1.1 fun c hc => isDigit_mem_hexDigits (ha.1.2.1 c hc)
    exact Or.inr ⟨x, List.mem_append_left _ hx, hhex⟩
  | cons hg _ =>
    obtain ⟨x, hx, hhex⟩ := hmem hg.1 hg.2.2
    exact Or.inr ⟨x, List.mem_append_left _ hx, hhex⟩

/-- Only the unspecified address is written without a digit. -/
theorem hexDigit_of_ipv6 {s : List Char} (h : IsIpv6 s) (hs : s ≠ [':', ':']) : ∃ c ∈ s, c ∈ hexDigits := by
  cases h with
  | full h => exact (hexDigit_of_groups h).resolve_left nofun
  | shortened ha hb _ =>
    rcases hexDigit_of_groups ha with ⟨-, rfl⟩ | ⟨c, hc, hhex⟩
    · rcases hexDigit_of_groups hb with ⟨-, rfl⟩ | ⟨c, hc, hhex⟩
      · exact absurd rfl hs
      · exact ⟨c, by simp [hc], hhex⟩
    · exact ⟨c, by simp [hc], hhex⟩

/-! ## Four octets -/

variable {py : UnicodeText}

theorem intercalate_splitOn (sep : Char) : ∀ (s : List Char), [sep].intercalate (splitOn sep s) = s
  | [] => rfl
  | c :: s => by
    have ih := intercalate_splitOn sep s
    rw [splitOn]
    by_cases hc : c = sep
    · rw [if_pos hc, List.intercalate_cons_of_ne_nil (splitOn_ne_nil sep s), ih, hc]
      rfl
    · rw [if_neg hc]
      cases h : splitOn sep s with
      | nil => exact absurd h (splitOn_ne_nil sep s)
      | cons part parts =>
        rw [h] at ih
        cases parts with
        | nil => simpa using ih
        | cons p ps => simpa using ih

/-- A text has four parts exactly when it splits into four. -/
theorem quad_iff {P : List Char → Prop} (hP : ∀ q, P q → '.' ∉ q) (s : List Char) :
    Quad P s ↔ (splitOn '.' s).length = 4 ∧ ∀ q ∈ splitOn '.' s, P q := by
  constructor
  · rintro ⟨a, b, c, d, rfl, ha, hb, hc, hd⟩
    have hsplit : splitOn '.' (a ++ '.' :: (b ++ '.' :: (c ++ '.' :: d))) = [a, b, c, d] := by
      rw [splitOn_append, splitOn_append, splitOn_append, splitOn_of_not_mem (hP a ha), splitOn_of_not_mem (hP b hb),
        splitOn_of_not_mem (hP c hc), splitOn_of_not_mem (hP d hd)]
      rfl
    rw [hsplit]
    exact ⟨rfl, by simp [ha, hb, hc, hd]⟩
  · rintro ⟨hlen, hparts⟩
    have hjoin := intercalate_splitOn '.' s
    match hsplit : splitOn '.' s with
    | [] | [_] | [_, _] | [_, _, _] | _ :: _ :: _ :: _ :: _ :: _ => simp [hsplit] at hlen
    | [a, b, c, d] =>
      rw [hsplit] at hjoin hparts
      exact ⟨a, b, c, d, by rw [← hjoin]; simp, hparts a (by simp), hparts b (by simp), hparts c (by simp),
        hparts d (by simp)⟩

theorem not_mem_of_quad {P : List Char → Prop} {x : Char} (hP : ∀ q, P q → x ∉ q) (hx : x ≠ '.') {s : List Char}
    (h : Quad P s) : x ∉ s := by
  obtain ⟨a, b, c, d, rfl, ha, hb, hc, hd⟩ := h
  simp [hx, hP a ha, hP b hb, hP c hc, hP d hd]

theorem not_digit_of_octet {part : List Char} (h : IsOctet py.toPyText part) {x : Char} (hx : isAscii x)
    (hdigit : x.isDigit = false) : x ∉ part := by
  intro hmem
  have hpart : py.isDigit x = true := List.all_eq_true.1 h.2.1 _ hmem
  rw [py.isDigit_ascii x hx, hdigit] at hpart
  cases hpart

theorem not_digit_of_byte {part : List Char} (h : IsByte part) {x : Char} (hdigit : x.isDigit = false) : x ∉ part := by
  intro hmem
  rw [h.2.1 x hmem] at hdigit
  cases hdigit

/-- A byte is an octet, or too long for `int` to read. -/
theorem octet_of_byte {part : List Char} (h : IsByte part) :
    IsOctet py.toPyText part ∨ IsNoNumber py.toPyText part := by
  obtain ⟨hne, hdigits, hrange⟩ := h
  have hall : part.all py.isDigit = true := List.all_eq_true.2 fun c hc => by
    rw [py.isDigit_ascii c (isAscii_of_isDigit (hdigits c hc)), hdigits c hc]
  rcases py.intOfText_digits part hne hdigits with h | ⟨-, h⟩
  · exact Or.inl ⟨hne, hall, _, h, Int.natCast_nonneg _, by exact_mod_cast hrange⟩
  · exact Or.inr ⟨hne, hall, h⟩

theorem byte_of_octet {part : List Char} (h : IsOctet py.toPyText part) (hascii : ∀ c ∈ part, isAscii c) :
    IsByte part := by
  obtain ⟨hne, hall, n, hn, hrange⟩ := h
  have hdigits : ∀ c ∈ part, c.isDigit = true := fun c hc => by
    rw [← py.isDigit_ascii c (hascii c hc), List.all_eq_true.1 hall c hc]
  refine ⟨hne, hdigits, ?_⟩
  rcases py.intOfText_digits part hne hdigits with h | ⟨-, h⟩
  · rw [hn] at h
    cases h
    exact_mod_cast hrange.2
  · rw [hn] at h
    cases h

theorem octets_of_readable : ∀ {parts : List (List Char)}, (∀ q ∈ parts, IsByte q) →
    ¬ StopsAtNoNumber py.toPyText parts → ∀ q ∈ parts, IsOctet py.toPyText q
  | [], _, _ => by simp
  | part :: parts, h, hstop => by
    obtain ⟨hpart, hparts⟩ := List.forall_mem_cons.1 h
    rw [stopsAtNoNumber_cons, not_or, not_and] at hstop
    have hoctet : IsOctet py.toPyText part := (octet_of_byte hpart).resolve_right hstop.1
    exact List.forall_mem_cons.2 ⟨hoctet, octets_of_readable hparts (hstop.2 hoctet)⟩

theorem octet_quad_iff (s : List Char) : Quad (IsOctet py.toPyText) s ↔
    (splitOn '.' s).length = 4 ∧ ∀ q ∈ splitOn '.' s, IsOctet py.toPyText q :=
  quad_iff (fun _ h => not_digit_of_octet h (by unfold isAscii; decide) rfl) s

theorem quadForm_eq_true_iff (s : String) :
    quadForm py.toPyText s = some true ↔ Quad (IsOctet py.toPyText) s.toList := by
  rw [octet_quad_iff, quadForm, ← allOctets_eq_true_iff]
  split
  · rename_i hlen
    simp [hlen]
  · rename_i hlen
    simp [hlen]

theorem ascii_of_ipv4 {s : List Char} (h : IsIpv4 s) : ∀ x ∈ s, isAscii x := by
  have hbyte : ∀ {part}, IsByte part → ∀ x ∈ part, isAscii x := fun h x hx => isAscii_of_isDigit (h.2.1 x hx)
  have hdot : isAscii '.' := by
    unfold isAscii
    decide
  obtain ⟨a, b, c, d, rfl, ha, hb, hc, hd⟩ := h
  simp only [List.forall_mem_append, List.forall_mem_cons]
  exact ⟨hbyte ha, hdot, hbyte hb, hdot, hbyte hc, hdot, hbyte hd⟩

/-- **The quads that can be read and are ASCII are the IPv4 addresses.** -/
theorem ipv4_iff {s : String} (hreadable : ¬ Unreadable py.toPyText (.str s)) :
    IsIpv4 s.toList ↔ Quad (IsOctet py.toPyText) s.toList ∧ ∀ c ∈ s.toList, isAscii c := by
  constructor
  · intro h
    obtain ⟨hlen, hparts⟩ := (quad_iff (fun _ h => not_digit_of_byte h rfl) s.toList).1 h
    have hstop : ¬ StopsAtNoNumber py.toPyText (splitOn '.' s.toList) := fun hstop => hreadable ⟨s, rfl, hlen, hstop⟩
    exact ⟨(octet_quad_iff _).2 ⟨hlen, octets_of_readable hparts hstop⟩, ascii_of_ipv4 h⟩
  · rintro ⟨⟨a, b, c, d, hs, ha, hb, hc, hd⟩, hascii⟩
    rw [hs] at hascii
    exact ⟨a, b, c, d, hs, byte_of_octet ha fun x hx => hascii x (by simp [hx]),
      byte_of_octet hb fun x hx => hascii x (by simp [hx]), byte_of_octet hc fun x hx => hascii x (by simp [hx]),
      byte_of_octet hd fun x hx => hascii x (by simp [hx])⟩

/-! ## The recogniser -/

/-- The value is a text, and an IP address. -/
def IsIp (value : Json) : Prop := ∃ s, value = .str s ∧ (IsIpv4 s.toList ∨ IsIpv6 s.toList)

/-- `_looks_like_ip` answers, with what the value is, and no suggestion for it raises. -/
structure Recognises (py : PyText) (value : Json) : Prop where
  answers : ∃ b, looksLikeIp py value = some b ∧ (b = true ↔ IsIp value)
  suggests : ∀ rawPath, Returns (suggestUdmField py rawPath value)

/-- What may go wrong does not: the text can be read; if it is four octets they are in ASCII; and if it has a colon it is
an IPv6 address with a digit in it, or no address, and then too long or without a hexadecimal digit. -/
structure ToldApart (py : PyText) (s : String) : Prop where
  readable : ¬ Unreadable py (.str s)
  ascii : Quad (IsOctet py) s.toList → ∀ c ∈ s.toList, isAscii c
  colon : ':' ∈ s.toList → IsIpv6 s.toList ∧ s ≠ "::" ∨
    ¬ IsIpv6 s.toList ∧ (45 < s.toList.length ∨ ∀ c ∈ s.toList, c ∉ hexDigits)

theorem colon_mem_of_ipv6 {s : List Char} (h : IsIpv6 s) : ':' ∈ s :=
  List.count_pos_iff.1 (Nat.lt_of_lt_of_le Nat.zero_lt_two (colons_of_ipv6 h))

theorem colon_not_mem_of_ipv4 {s : List Char} (h : IsIpv4 s) : ':' ∉ s :=
  not_mem_of_quad (fun _ h => not_digit_of_byte h rfl) (by decide) h

theorem colon_not_mem_of_octets {s : List Char} (h : Quad (IsOctet py.toPyText) s) : ':' ∉ s :=
  not_mem_of_quad (fun _ h => not_digit_of_octet h (by unfold isAscii; decide) rfl) (by decide) h

theorem colonForm_eq_true_iff (s : String) : colonForm s = true ↔
    ':' ∈ s.toList ∧ s.toList.length ≤ 45 ∧ ∃ c ∈ s.toList, c ∈ hexDigits := by
  simp [colonForm, and_assoc]

theorem isIp_str (s : String) : IsIp (.str s) ↔ IsIpv4 s.toList ∨ IsIpv6 s.toList := by
  constructor
  · rintro ⟨t, ht, h⟩
    cases ht
    exact h
  · exact fun h => ⟨s, rfl, h⟩

/-- What a text with a colon is taken for, it is. -/
theorem colonForm_iff_of_toldApart {s : String} (h : ToldApart py.toPyText s) (hcolon : ':' ∈ s.toList) :
    colonForm s = true ↔ IsIpv6 s.toList := by
  rw [colonForm_eq_true_iff]
  rcases h.colon hcolon with ⟨hip, hs⟩ | ⟨hip, hno⟩
  · have hne : s.toList ≠ [':', ':'] := fun heq => hs (by rw [← String.ofList_toList (s := s), heq])
    exact ⟨fun _ => hip, fun _ => ⟨hcolon, length_of_ipv6 hip, hexDigit_of_ipv6 hip hne⟩⟩
  · refine ⟨fun ⟨_, hlen, c, hc, hhex⟩ => ?_, fun h => absurd h hip⟩
    rcases hno with hno | hno
    · omega
    · exact absurd hhex (hno c hc)

theorem not_unreadable_iff (s : String) : ¬ Unreadable py.toPyText (.str s) ↔ ∃ q, quadForm py.toPyText s = some q := by
  rw [← quadForm_eq_none_iff, ← ne_eq, Option.ne_none_iff_exists']

theorem quadForm_of_colon {s : String} {q : Bool} (hq : quadForm py.toPyText s = some q) (hcolon : ':' ∈ s.toList) :
    q = false :=
  eq_false_of_ne_true fun h => colon_not_mem_of_octets ((quadForm_eq_true_iff s).1 (h ▸ hq)) hcolon

theorem toldApart_of_recognises {s : String} (h : Recognises py.toPyText (.str s)) : ToldApart py.toPyText s := by
  obtain ⟨b, hb, hip⟩ := h.answers
  have hreadable : ¬ Unreadable py.toPyText (.str s) := fun hno => by
    rw [(looksLikeIp_eq_none_iff _).2 hno] at hb
    cases hb
  obtain ⟨q, hq⟩ := (not_unreadable_iff s).1 hreadable
  rw [looksLikeIp_str, hq, Option.map_some, Option.some.injEq] at hb
  rw [isIp_str] at hip
  refine ⟨hreadable, fun hquad => ?_, fun hcolon => ?_⟩
  · have htrue : b = true := by
      rw [(quadForm_eq_true_iff s).2 hquad, Option.some.injEq] at hq
      rw [← hb, ← hq, Bool.true_or]
    exact (hip.1 htrue).elim ascii_of_ipv4 fun h => absurd (colon_mem_of_ipv6 h) (colon_not_mem_of_octets hquad)
  · rw [quadForm_of_colon hq hcolon, Bool.false_or] at hb
    rw [← hb, colonForm_eq_true_iff] at hip
    by_cases h6 : IsIpv6 s.toList
    · obtain ⟨-, -, c, hc, hhex⟩ := hip.2 (Or.inr h6)
      refine Or.inl ⟨h6, ?_⟩
      rintro rfl
      revert c
      decide
    · refine Or.inr ⟨h6, ?_⟩
      by_contra hno
      push Not at hno
      exact (hip.1 ⟨hcolon, hno⟩).elim (fun h4 => colon_not_mem_of_ipv4 h4 hcolon) h6

theorem recognises_of_toldApart {s : String} (h : ToldApart py.toPyText s) : Recognises py.toPyText (.str s) := by
  obtain ⟨q, hq⟩ := (not_unreadable_iff s).1 h.readable
  refine ⟨⟨q || colonForm s, by rw [looksLikeIp_str, hq, Option.map_some], ?_⟩, fun rawPath => ?_⟩
  · rw [isIp_str, Bool.or_eq_true]
    by_cases hcolon : ':' ∈ s.toList
    · rw [quadForm_of_colon hq hcolon, colonForm_iff_of_toldApart h hcolon]
      exact or_congr_left ⟨nofun, fun h4 => absurd hcolon (colon_not_mem_of_ipv4 h4)⟩
    · have hform : ¬ colonForm s = true := fun h => hcolon ((colonForm_eq_true_iff s).1 h).1
      have hquad : q = true ↔ Quad (IsOctet py.toPyText) s.toList := by
        rw [← quadForm_eq_true_iff, hq, Option.some.injEq]
      rw [hquad, ipv4_iff h.readable]
      constructor
      · rintro (h4 | h6)
        · exact Or.inl ⟨h4, h.ascii h4⟩
        · exact absurd h6 hform
      · rintro (h4 | h6)
        · exact Or.inl h4.1
        · exact absurd (colon_mem_of_ipv6 h6) hcolon
  · rw [returns_iff_ne_none, ne_eq, suggestUdmField_eq_none_iff, not_and]
    exact fun _ => h.readable

/-- **The recogniser is right about a value exactly when**, if it is a text, nothing goes wrong. -/
theorem recognises_iff (py : UnicodeText) (value : Json) :
    Recognises py.toPyText value ↔ ∀ s, value = .str s → ToldApart py.toPyText s := by
  constructor
  · rintro h s rfl
    exact toldApart_of_recognises h
  · intro h
    cases value with
    | str s => exact recognises_of_toldApart (h s rfl)
    | _ =>
      refine ⟨⟨false, rfl, nofun, ?_⟩, fun rawPath => ?_⟩
      · rintro ⟨s, hs, -⟩
        cases hs
      · rw [returns_iff_ne_none, ne_eq, suggestUdmField_eq_none_iff]
        rintro ⟨-, s, hs, -⟩
        cases hs

/-- A superscript is a digit that `int` refuses; a time of day is taken for an address; and the unspecified address is
not. -/
theorem not_recognised :
    ¬ Recognises UnicodeText.superscript.toPyText (.str "1.2.3.²") ∧
      ¬ Recognises UnicodeText.superscript.toPyText (.str "12:30") ∧
        ¬ Recognises UnicodeText.superscript.toPyText (.str "::") := by
  refine ⟨fun h => ?_, fun h => ?_, fun h => ?_⟩
  · obtain ⟨b, hb, -⟩ := h.answers
    have hnone : looksLikeIp UnicodeText.superscript.toPyText (.str "1.2.3.²") = none := by decide
    rw [hnone] at hb
    cases hb
  · obtain ⟨b, hb, hip⟩ := h.answers
    have htrue : looksLikeIp UnicodeText.superscript.toPyText (.str "12:30") = some true := by decide
    rw [htrue] at hb
    cases hb
    rcases (isIp_str _).1 (hip.1 rfl) with h4 | h6
    · exact colon_not_mem_of_ipv4 h4 (by decide)
    · exact absurd (colons_of_ipv6 h6) (by decide)
  · obtain ⟨b, hb, hip⟩ := h.answers
    have hfalse : looksLikeIp UnicodeText.superscript.toPyText (.str "::") = some false := by decide
    have h6 : IsIpv6 [':', ':'] := .shortened .none .none (Nat.zero_le 7)
    rw [hfalse] at hb
    cases hb
    cases hip.2 ((isIp_str "::").2 (Or.inr h6))

end Tengen
