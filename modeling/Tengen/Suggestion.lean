import Tengen.Mappings
import Tengen.Returns
/-!
# What `suggest_udm_field` answers

A suggestion comes from one of two places: the IP fields, for a last segment that holds `ip`, and the rules, for every
other and for those whose value is no address (`suggestUdmField_eq`).  It raises for one kind of value, a text that
`_looks_like_ip` splits into four parts and `int` refuses to read one of (`suggestUdmField_eq_none_iff`).
-/
namespace Tengen

variable {py : PyText}

/-! ## Octets -/

/-- A part that is read as a number from 0 to 255. -/
def IsOctet (py : PyText) (part : List Char) : Prop :=
  part ≠ [] ∧ part.all py.isDigit = true ∧ ∃ n, py.intOfText (String.ofList part) = some n ∧ 0 ≤ n ∧ n ≤ 255

/-- A part of digits that `int` refuses. -/
def IsNoNumber (py : PyText) (part : List Char) : Prop :=
  part ≠ [] ∧ part.all py.isDigit = true ∧ py.intOfText (String.ofList part) = none

/-- The first part that is no octet is one of digits that `int` refuses. -/
def StopsAtNoNumber (py : PyText) (parts : List (List Char)) : Prop :=
  ∃ before part after, parts = before ++ part :: after ∧ (∀ q ∈ before, IsOctet py q) ∧ IsNoNumber py part

theorem not_isOctet_of_isNoNumber {part : List Char} (h : IsNoNumber py part) : ¬ IsOctet py part := by
  rintro ⟨-, -, n, hn, -⟩
  rw [h.2.2] at hn
  cases hn

theorem stopsAtNoNumber_cons {part : List Char} {parts : List (List Char)} : StopsAtNoNumber py (part :: parts) ↔
    IsNoNumber py part ∨ IsOctet py part ∧ StopsAtNoNumber py parts := by
  constructor
  · rintro ⟨before, q, after, hsplit, hbefore, hq⟩
    cases before with
    | nil =>
      cases hsplit
      exact Or.inl hq
    | cons p before =>
      cases hsplit
      obtain ⟨hp, hbefore⟩ := List.forall_mem_cons.1 hbefore
      exact Or.inr ⟨hp, before, q, after, rfl, hbefore, hq⟩
  · rintro (h | ⟨hp, before, q, after, rfl, hbefore, hq⟩)
    · exact ⟨[], part, parts, rfl, by simp, h⟩
    · exact ⟨part :: before, q, after, rfl, List.forall_mem_cons.2 ⟨hp, hbefore⟩, hq⟩

theorem allOctets_cons (py : PyText) (part : List Char) (parts : List (List Char)) :
    IsNoNumber py part ∧ allOctets py (part :: parts) = none ∨
      IsOctet py part ∧ allOctets py (part :: parts) = allOctets py parts ∨
        ¬ IsNoNumber py part ∧ ¬ IsOctet py part ∧ allOctets py (part :: parts) = some false := by
  rw [allOctets]
  by_cases hdigits : part ≠ [] ∧ part.all py.isDigit = true
  · rw [if_pos hdigits]
    cases hn : py.intOfText (String.ofList part) with
    | none => exact Or.inl ⟨⟨hdigits.1, hdigits.2, hn⟩, rfl⟩
    | some n =>
      have hnumber : ¬ IsNoNumber py part := fun h => by
        rw [h.2.2] at hn
        cases hn
      by_cases hrange : 0 ≤ n ∧ n ≤ 255
      · exact Or.inr (Or.inl ⟨⟨hdigits.1, hdigits.2, n, hn, hrange⟩, if_pos hrange⟩)
      · refine Or.inr (Or.inr ⟨hnumber, ?_, if_neg hrange⟩)
        rintro ⟨-, -, m, hm, hrange'⟩
        rw [hn] at hm
        cases hm
        exact hrange hrange'
  · rw [if_neg hdigits]
    exact Or.inr (Or.inr ⟨fun h => hdigits ⟨h.1, h.2.1⟩, fun h => hdigits ⟨h.1, h.2.1⟩, rfl⟩)

theorem allOctets_eq_none_iff : ∀ (parts : List (List Char)), allOctets py parts = none ↔ StopsAtNoNumber py parts
  | [] => by
    constructor
    · intro h
      cases h
    · rintro ⟨before, part, after, h, -⟩
      exact absurd h.symm (List.append_ne_nil_of_right_ne_nil _ (List.cons_ne_nil _ _))
  | part :: parts => by
    rw [stopsAtNoNumber_cons, ← allOctets_eq_none_iff parts]
    rcases allOctets_cons py part parts with ⟨hp, h⟩ | ⟨hp, h⟩ | ⟨hn, hp, h⟩
    · simp [h, hp]
    · have hn : ¬ IsNoNumber py part := fun hn => not_isOctet_of_isNoNumber hn hp
      simp [h, hp, hn]
    · simp [h, hp, hn]

theorem allOctets_eq_true_iff : ∀ (parts : List (List Char)),
    allOctets py parts = some true ↔ ∀ q ∈ parts, IsOctet py q
  | [] => by simp [allOctets]
  | part :: parts => by
    rw [List.forall_mem_cons, ← allOctets_eq_true_iff parts]
    rcases allOctets_cons py part parts with ⟨hp, h⟩ | ⟨hp, h⟩ | ⟨-, hp, h⟩
    · simp [h, not_isOctet_of_isNoNumber hp]
    · simp [h, hp]
    · simp [h, hp]

/-! ## Addresses -/

/-- What is taken for an address though it is no dotted quad: a colon, and not too long, and a hexadecimal digit. -/
def colonForm (s : String) : Bool :=
  decide (':' ∈ s.toList) && decide (s.toList.length ≤ 45) && s.toList.any fun c => decide (c ∈ hexDigits)

/-- The text has four parts, each an octet. -/
def quadForm (py : PyText) (s : String) : Option Bool :=
  if (splitOn '.' s.toList).length = 4 then allOctets py (splitOn '.' s.toList) else some false

theorem looksLikeIp_str (s : String) : looksLikeIp py (.str s) = (quadForm py s).map fun b => b || colonForm s := by
  have hrest : ∀ x : Option Bool, (x.bind fun b => if b = true then some true else some (colonForm s)) =
      x.map fun b => b || colonForm s := by
    intro x
    cases x with
    | none => rfl
    | some b => cases b <;> rfl
  rw [← hrest]
  unfold looksLikeIp quadForm
  dsimp only
  split <;> rfl

/-- A text of four parts that stops at digits which are no number. -/
def Unreadable (py : PyText) (value : Json) : Prop :=
  ∃ s, value = .str s ∧ (splitOn '.' s.toList).length = 4 ∧ StopsAtNoNumber py (splitOn '.' s.toList)

theorem quadForm_eq_none_iff (s : String) : quadForm py s = none ↔ Unreadable py (.str s) := by
  unfold quadForm
  constructor
  · intro h
    split at h
    · rename_i hlen
      exact ⟨s, rfl, hlen, (allOctets_eq_none_iff _).1 h⟩
    · cases h
  · rintro ⟨t, ht, hlen, hstop⟩
    cases ht
    rw [if_pos hlen]
    exact (allOctets_eq_none_iff _).2 hstop

/-- **`_looks_like_ip` raises exactly on the unreadable texts.** -/
theorem looksLikeIp_eq_none_iff (value : Json) : looksLikeIp py value = none ↔ Unreadable py value := by
  cases value with
  | str s => rw [looksLikeIp_str, Option.map_eq_none_iff, quadForm_eq_none_iff]
  | _ =>
    constructor
    · intro h
      cases h
    · rintro ⟨s, h, -⟩
      cases h

/-! ## The two sources of a suggestion -/

/-- The last segment of a path, in lower case. -/
def leafOf (py : PyText) (rawPath : String) : String := py.lower (lastSegment rawPath)

/-- The IP field, by the direction the path names. -/
def ipField (py : PyText) (rawPath : String) : String :=
  if targetTokens.any (fun t => inStr t (py.lower rawPath)) = true then "target.ip" else "principal.ip"

def withoutSeparators (l : List Char) : List Char := l.filter fun c => !decide (c = '_') && !decide (c = '-')

/-- The field of the first rule that is part of the text. -/
def ruleFor (normalized : String) : String :=
  ((suggestionRules.find? fun rule => inStr rule.1 normalized).map Prod.snd).getD ""

/-- The field the rules suggest for a last segment. -/
def ruleField (leaf : String) : String := ruleFor (String.ofList (withoutSeparators leaf.toList))

/-- The last segment names an IP address, whatever the value. -/
def namesIp (leaf : String) : Bool := endsWith "ip" leaf || inStr "ipaddress" leaf

theorem suggestUdmField_eq (rawPath : String) (value : Json) : suggestUdmField py rawPath value =
    if inStr "ip" (leafOf py rawPath) = true then
      (looksLikeIp py value).map fun ip =>
        if (ip || namesIp (leafOf py rawPath)) = true then ipField py rawPath else ruleField (leafOf py rawPath)
    else some (ruleField (leafOf py rawPath)) := by
  unfold suggestUdmField leafOf namesIp ipField
  dsimp only
  split
  · cases looksLikeIp py value with
    | none => rfl
    | some ip =>
      rw [Option.map_some, ← Bool.or_assoc]
      change (if (ip || endsWith "ip" _ || inStr "ipaddress" _) = true then _ else _) = _
      split
      · split <;> rfl
      · rfl
  · rfl

/-- **A suggestion raises exactly for** a last segment with `ip` in it and an unreadable value. -/
theorem suggestUdmField_eq_none_iff (rawPath : String) (value : Json) : suggestUdmField py rawPath value = none ↔
    inStr "ip" (leafOf py rawPath) = true ∧ Unreadable py value := by
  rw [suggestUdmField_eq]
  split
  · rename_i hip
    rw [Option.map_eq_none_iff, looksLikeIp_eq_none_iff]
    exact ⟨fun h => ⟨hip, h⟩, And.right⟩
  · rename_i hip
    exact ⟨nofun, fun h => absurd h.1 hip⟩

theorem ipField_mem (rawPath : String) : ipField py rawPath ∈ ["target.ip", "principal.ip"] := by
  unfold ipField
  split
  · exact List.mem_cons_self
  · exact List.mem_cons_of_mem _ List.mem_cons_self

/-- The fields of the rules, once each. -/
def ruleFields : List String :=
  ["network.http.user_agent", "network.http.method", "network.http.response_code", "network.http.referral_url",
   "principal.process.command_line", "principal.process.parent_pid", "principal.process.pid",
   "principal.file.sha256", "principal.file.sha1", "principal.file.md5", "principal.file.full_path",
   "principal.registry.registry_key", "principal.hostname", "principal.mac", "target.namespace",
   "principal.user.email_addresses", "principal.user.userid", "principal.cloud.availability_zone",
   "principal.cloud.project_id", "principal.administrative_domain", "principal.location.country_or_region",
   "principal.location.city", "principal.location.name", "target.resource.name", "target.resource.resource_type",
   "principal.domain", "principal.url", "target.port", "src.port", "network.ip_protocol", "network.sent_bytes",
   "network.received_bytes", "security_result.severity", "security_result.threat_name",
   "security_result.rule_name", "security_result.rule_id", "security_result.category",
   "security_result.confidence", "security_result.priority", "metadata.event_timestamp",
   "metadata.product_event_type", "metadata.product_name", "metadata.vendor_name"]

theorem rule_suggests : ∀ rule ∈ suggestionRules, rule.2 ∈ ruleFields := by
  simp only [suggestionRules, List.forall_mem_cons]
  simp only [ruleFields, List.mem_cons, true_or, or_true, List.not_mem_nil, false_imp_iff, implies_true, and_self]

theorem ruleFor_mem (normalized : String) : ruleFor normalized = "" ∨ ruleFor normalized ∈ ruleFields := by
  unfold ruleFor
  cases h : suggestionRules.find? fun rule => inStr rule.1 normalized with
  | none => exact Or.inl rfl
  | some rule => exact Or.inr (rule_suggests rule (List.mem_of_find?_eq_some h))

/-- Every field that is ever suggested. -/
def suggestedFields : List String := ["target.ip", "principal.ip"] ++ ruleFields

/-- **What is suggested is an IP field or a rule's**, or nothing. -/
theorem suggested_mem {rawPath : String} {value : Json} {s : String} (h : suggestUdmField py rawPath value = some s) :
    s = "" ∨ s ∈ suggestedFields := by
  have hrule : ∀ leaf, ruleField leaf = "" ∨ ruleField leaf ∈ suggestedFields := fun leaf =>
    (ruleFor_mem _).imp_right (List.mem_append_right _)
  rw [suggestUdmField_eq] at h
  split at h
  · obtain ⟨ip, -, rfl⟩ := Option.map_eq_some_iff.1 h
    split
    · exact Or.inr (List.mem_append_left _ (ipField_mem rawPath))
    · exact hrule _
  · cases h
    exact hrule _

end Tengen
