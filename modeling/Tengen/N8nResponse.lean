import Tengen.N8nWebhook
import Tengen.Alert
/-!
# The n8n response, recorded

`parse_response` (`tengen/n8n/response_parser.py`) makes an `EnrichedAlert` of a reply, and `_parse_n8n_response`
(`tengen/agents/orchestrator.py`) does so from the string the webhook tool returned, answering any exception with an
error object.  The reply arrives in band: the parser sees the tool's own error envelopes as replies like any other.

`maps_iff` says which replies are mapped as documented, and `executeWebhook_recorded_iff` exactly when what is recorded is
what happened.  pydantic's own reader and how deep it writes are not in the repository: they are the `Parser`'s.
-/
namespace Tengen

/-- How deep an alert's values are nested. -/
def Alert.nesting (alert : Alert) : Nat := max alert.rawPayload.nesting alert.metadata.nesting

def EnrichedAlert.nesting (e : EnrichedAlert) : Nat :=
  max e.alert.nesting (max e.extracted.nesting e.enrichment.nesting)

namespace N8n

def wellKnownFields : List String := ["severity", "recommendations", "iocs", "verdict"]

/-- The well-known fields of the reply, as far as `in` and `[]` take it. -/
def extract (raw : Json) : List String → List (String × Json) → Except Problem (List (String × Json))
  | [], extracted => .ok extracted
  | k :: ks, extracted =>
    match raw.contains k with
    | none => .error (.notIterable raw)
    | some false => extract raw ks extracted
    | some true =>
      match raw.getItem k with
      | none => .error (.notSubscriptable raw k)
      | some v => extract raw ks (Json.setItem k v extracted)

variable (pd : DatetimeField) (fr : Fresh) (now : DateTime) (describe : Problem → String)

/-- What both branches of `parse_response` fill in. -/
def enriched (alert : Alert) (routePath : String) (enrichment extracted : Dict) (enrichmentError : Bool) :
    EnrichedAlert :=
  { alert, runbook := "n8n." ++ routePath, enrichedAt := now, extracted, runbookError := none, destination := .splunk,
    enrichment, enrichmentError, n8nRoutePath := routePath }

/-- `parse_response`; pydantic refuses a reply that is no object. -/
def parseResponse (raw : Json) (alert : Alert) (routePath : String) : Except Problem EnrichedAlert :=
  if raw.truthy = false then .ok (enriched now alert routePath .empty .empty true)
  else do
    let extracted ← extract raw wellKnownFields []
    match Dict.ofJson? raw, Dict.ofJson? (.obj extracted) with
    | some enrichment, some extracted => return enriched now alert routePath enrichment extracted false
    | _, _ => throw (.notDict (.ofJson raw))

/-- What the parser's calls meet: how deep a JSON value may be nested that `json.loads` reads, what pydantic reads of a
text, and how deep the values of a model's field may be nested that pydantic writes, which are objects at least. -/
structure Parser where
  room : Nat
  jiter : PyStr → Option Json
  dumpRoom : Nat
  flat : 0 < dumpRoom

/-- Room for values nested 900 deep when read and 255 when written, and pydantic reads what the grammar allows. -/
def Parser.ample : Parser where
  room := 900
  jiter text := text.toString?.bind Json.loads
  dumpRoom := 255
  flat := by decide

variable (parser : Parser)

/-- The original event: an alert, or a payload of an alert of unknown source.  Nothing, for an alert that holds a
surrogate: pydantic makes it, and does not write it. -/
def originalAlert (originalEventJson : PyStr) : Except Problem (Option Alert) :=
  match (parser.jiter originalEventJson).bind (Alert.validate pd fr) with
  | some alert => .ok (some alert)
  | none =>
    match PyJson.loads parser.room originalEventJson with
    | .error e => .error (.notRead e originalEventJson)
    | .ok raw =>
      if raw.isDict then
        .ok ((raw.toJson?.bind Dict.ofJson?).map fun rawPayload => Alert.make fr "unknown" rawPayload .empty)
      else .error (.notDict raw)

def parseFailed (p : Problem) : Json := .obj [("error", .str ("parse_failed: " ++ describe p))]

/-- The body of the `try` of `_parse_n8n_response`, up to what it writes.  A reply that holds a surrogate is not empty: it
is refused, or its alert is not written. -/
def parse (n8nResponseJson originalEventJson : PyStr) (routePath : String) : Except Problem EnrichedAlert := do
  let n8nData ← (PyJson.loads parser.room n8nResponseJson).mapError (Problem.notRead · n8nResponseJson)
  let alert ← originalAlert pd fr parser originalEventJson
  match n8nData.toJson?, alert with
  | some raw, some alert => do
    let e ← parseResponse now raw alert routePath
    if e.nesting ≤ parser.dumpRoom then return e else throw (.tooDeep (.ofJson (e.toJson pd)))
  | _, _ => throw (.notWritten n8nResponseJson originalEventJson)

def parseN8nResponse (n8nResponseJson originalEventJson : PyStr) (routePath : String) : String :=
  match parse pd fr now parser n8nResponseJson originalEventJson routePath with
  | .ok e => e.modelDumpJson pd
  | .error p => Json.dumps (parseFailed describe p)

/-! ## What is recorded -/

/-- The text is the JSON of an enriched alert with that `enrichment_error`. -/
def Recorded (text : String) (enrichmentError : Bool) : Prop :=
  ∃ e : EnrichedAlert, text = e.modelDumpJson pd ∧ e.enrichmentError = enrichmentError

theorem loads_modelDumpJson (e : EnrichedAlert) : Json.loads (e.modelDumpJson pd) = some (e.toJson pd) :=
  Json.loads_dumpsIn _ _ (e.wf_toJson pd)

theorem recorded_unique {text : String} {b b' : Bool} (h : Recorded pd text b) (h' : Recorded pd text b') : b = b' := by
  obtain ⟨e, ht, rfl⟩ := h
  obtain ⟨e', ht', rfl⟩ := h'
  have hl := loads_modelDumpJson pd e
  rw [← ht, ht', loads_modelDumpJson pd e', Option.some.injEq] at hl
  have hg := congrArg (Json.getItem "enrichment_error") hl
  simp only [EnrichedAlert.toJson, Json.getItem, EnrichedAlert.toItems, List.lookup_cons] at hg
  simpa using hg.symm

theorem not_recorded_parseFailed (p : Problem) (b : Bool) : ¬ Recorded pd (Json.dumps (parseFailed describe p)) b := by
  rintro ⟨e, ht, -⟩
  have hl := loads_modelDumpJson pd e
  rw [← ht, Json.loads_dumps _ rfl, Option.some.injEq] at hl
  have hg := congrArg (Json.getItem "runbook") hl
  cases hg

/-! ## Parsing a reply -/

/-- **From an object every well-known field is read**, and what is extracted is an object again. -/
theorem extract_obj {l : List (String × Json)} (hl : (Json.obj l).wf = true) : ∀ (ks : List String)
    (extracted : List (String × Json)), (Json.obj extracted).wf = true →
    ∃ extracted', extract (.obj l) ks extracted = .ok extracted' ∧ (Json.obj extracted').wf = true
  | [], extracted, h => ⟨extracted, rfl, h⟩
  | k :: ks, extracted, h => by
    rw [extract, Json.contains]
    cases hk : l.lookup k with
    | none => exact extract_obj hl ks extracted h
    | some v =>
      simp only [Option.isSome_some, Json.getItem, hk]
      refine extract_obj hl ks _ ((Json.wf_obj_iff _).2 ⟨?_, fun p hp => ?_⟩)
      · exact Json.nodup_setItem k v extracted ((Json.wf_obj_iff _).1 h).1
      · rcases Json.mem_setItem hp with rfl | hp
        · exact ((Json.wf_obj_iff _).1 hl).2 (k, v) (Json.mem_of_lookup hk)
        · exact ((Json.wf_obj_iff _).1 h).2 p hp

theorem parseResponse_falsy {raw : Json} (h : raw.truthy = false) (alert : Alert) (routePath : String) :
    parseResponse now raw alert routePath = .ok (enriched now alert routePath .empty .empty true) := by
  rw [parseResponse, if_pos h]

/-- Each well-known field of the object is extracted, and nothing else. -/
def Extracts (l : List (String × Json)) (extracted : Dict) : Prop :=
  ∀ k, extracted.items.lookup k = if k ∈ wellKnownFields then l.lookup k else none

theorem lookup_extract {l : List (String × Json)} : ∀ {ks : List String} {extracted extracted' : List (String × Json)},
    extract (.obj l) ks extracted = .ok extracted' → ∀ k,
      extracted'.lookup k = if k ∈ ks ∧ (l.lookup k).isSome then l.lookup k else extracted.lookup k
  | [], extracted, extracted', h, k => by
    cases h
    simp only [List.not_mem_nil, false_and, if_false]
  | key :: ks, extracted, extracted', h, k => by
    rw [extract, Json.contains] at h
    cases hkey : l.lookup key with
    | none =>
      simp only [hkey, Option.isSome_none] at h
      rw [lookup_extract h k]
      by_cases hk : k = key
      · subst hk
        simp only [hkey, Option.isSome_none, Bool.false_eq_true, and_false]
      · simp only [List.mem_cons, hk, false_or]
    | some v =>
      simp only [hkey, Option.isSome_some, Json.getItem] at h
      rw [lookup_extract h k, Json.lookup_setItem]
      by_cases hk : k = key
      · subst hk
        simp only [hkey, Option.isSome_some, List.mem_cons_self, and_true, if_true, ite_self]
      · simp only [List.mem_cons, hk, false_or, if_false]

theorem extracts_of_extract {l extracted : List (String × Json)} (hw : (Json.obj extracted).wf = true)
    (h : extract (.obj l) wellKnownFields [] = .ok extracted) : Extracts l ⟨extracted, hw⟩ := by
  intro k
  rw [lookup_extract h k]
  cases hk : l.lookup k with
  | none => simp only [Option.isSome_none, Bool.false_eq_true, and_false, List.lookup_nil, ite_self]
  | some v => simp only [Option.isSome_some, and_true, List.lookup_nil]

/-- **A non-empty object is mapped as documented.** -/
theorem parseResponse_object {l : List (String × Json)} (hl : (Json.obj l).wf = true) (hne : l ≠ []) (alert : Alert)
    (routePath : String) : ∃ extracted, Extracts l extracted ∧
      parseResponse now (.obj l) alert routePath = .ok (enriched now alert routePath ⟨l, hl⟩ extracted false) := by
  obtain ⟨extracted, he, hw⟩ := extract_obj hl wellKnownFields [] rfl
  have ht : ¬ (Json.obj l).truthy = false := by simpa [Json.truthy] using hne
  refine ⟨⟨extracted, hw⟩, extracts_of_extract hw he, ?_⟩
  rw [parseResponse, if_neg ht, he]
  simp only [bind, Except.bind, Dict.ofJson?_obj hl, Dict.ofJson?_obj hw]
  rfl

/-- **A reply that is neither empty nor an object is refused**, one way or another. -/
theorem parseResponse_other {raw : Json} (ht : raw.truthy = true) (hd : ∀ l, raw ≠ .obj l) (alert : Alert)
    (routePath : String) : ∃ p, parseResponse now raw alert routePath = .error p := by
  rw [parseResponse, if_neg (by rw [ht]; exact nofun)]
  cases extract raw wellKnownFields [] with
  | error p => exact ⟨p, rfl⟩
  | ok extracted =>
    simp only [bind, Except.bind, Dict.ofJson?_of_ne_obj hd]
    exact ⟨_, rfl⟩

/-! ## Replies of every shape -/

theorem truthy_eq_false_or_other (j : Json) : (j.truthy = false ∨ ∃ l, j = .obj l) ∨
    (j.truthy = true ∧ ∀ l, j ≠ .obj l) := by
  by_cases hd : ∃ l, j = .obj l
  · exact Or.inl (Or.inr hd)
  · cases ht : j.truthy with
    | false => exact Or.inl (Or.inl rfl)
    | true => exact Or.inr ⟨rfl, fun l hl => hd ⟨l, hl⟩⟩

/-- What the documentation has `parse_response` do with a reply: it returns an enriched alert that embeds the alert and
the route path, in full of a non-empty object, and with the error flag of anything else. -/
def Maps (raw : Json) (alert : Alert) (routePath : String) : Prop :=
  ∃ e, parseResponse now raw alert routePath = .ok e ∧ e.alert = alert ∧ e.n8nRoutePath = routePath ∧
    match raw with
    | .obj (p :: l) => e.enrichment.toJson = raw ∧ Extracts (p :: l) e.extracted ∧ e.enrichmentError = false
    | _ => e.enrichmentError = true

theorem maps_obj {p : String × Json} {l : List (String × Json)} (hl : (Json.obj (p :: l)).wf = true) (alert : Alert)
    (routePath : String) : Maps now (.obj (p :: l)) alert routePath := by
  obtain ⟨extracted, hex, he⟩ := parseResponse_object now hl (List.cons_ne_nil p l) alert routePath
  exact ⟨_, he, rfl, rfl, rfl, hex, rfl⟩

theorem maps_falsy {raw : Json} (h : raw.truthy = false) (alert : Alert) (routePath : String) :
    Maps now raw alert routePath := by
  refine ⟨_, parseResponse_falsy now h alert routePath, rfl, rfl, ?_⟩
  split
  · cases h
  · rfl

/-- **A reply is mapped exactly when** it is an object or a falsy value. -/
theorem maps_iff (raw : Json) (hraw : raw.wf = true) (alert : Alert) (routePath : String) :
    Maps now raw alert routePath ↔ raw.truthy = false ∨ ∃ l, raw = .obj l := by
  constructor
  · rintro ⟨e, he, -⟩
    rcases truthy_eq_false_or_other raw with hor | ⟨ht, hd⟩
    · exact hor
    · obtain ⟨p, hp⟩ := parseResponse_other now ht hd alert routePath
      rw [he] at hp
      cases hp
  · rintro (h | ⟨l, rfl⟩)
    · exact maps_falsy now h alert routePath
    · cases l with
      | nil => exact maps_falsy now rfl alert routePath
      | cons p l => exact maps_obj now hraw alert routePath

theorem maps_iff_benign :
    Maps .epoch (.obj [("verdict", .str "benign")]) (.make .zero "unknown" .empty .empty) "aws" :=
  (maps_iff .epoch (.obj [("verdict", .str "benign")]) rfl _ "aws").2 (Or.inr ⟨_, rfl⟩)

/-- An array of objects, as n8n commonly answers, raises. -/
theorem array_refused :
    ¬ Maps .epoch (.arr [.obj [("verdict", .str "benign")]]) (.make .zero "unknown" .empty .empty) "aws" := by
  rw [maps_iff .epoch _ rfl]
  rintro (h | ⟨l, h⟩)
  · cases h
  · cases h

/-! ## How deep a record is nested -/

theorem nestingItems_le_iff {n : Nat} : ∀ {l : List (PyStr × PyJson)},
    PyJson.nestingItems l ≤ n ↔ ∀ p ∈ l, p.2.nesting ≤ n
  | [] => by simp [PyJson.nestingItems]
  | (k, v) :: l => by simp [PyJson.nestingItems, nestingItems_le_iff (l := l)]

theorem mem_ofItems {p : PyStr × PyJson} {l : List (String × Json)} :
    p ∈ PyJson.ofItems l ↔ ∃ k j, (k, j) ∈ l ∧ p = (PyStr.ofString k, .ofJson j) := by
  induction l with
  | nil => simp [PyJson.ofItems]
  | cons q l ih =>
    obtain ⟨k, j⟩ := q
    rw [PyJson.ofItems, List.mem_cons, ih]
    constructor
    · rintro (rfl | ⟨k', j', hm, rfl⟩)
      · exact ⟨k, j, List.mem_cons_self, rfl⟩
      · exact ⟨k', j', List.mem_cons_of_mem _ hm, rfl⟩
    · rintro ⟨k', j', hm, rfl⟩
      rcases List.mem_cons.1 hm with heq | hm
      · cases heq
        exact Or.inl rfl
      · exact Or.inr ⟨k', j', hm, rfl⟩

/-- What is extracted is nested no deeper than the reply. -/
theorem nesting_le_of_extracts {l : List (String × Json)} {extracted : Dict} (h : Extracts l extracted) :
    extracted.nesting ≤ (PyJson.ofJson (.obj l)).nesting := by
  rw [Dict.nesting, Dict.toJson, PyJson.ofJson, PyJson.nesting, PyJson.ofJson, PyJson.nesting]
  refine Nat.succ_le_succ (nestingItems_le_iff.2 fun p hp => ?_)
  obtain ⟨k, j, hm, rfl⟩ := mem_ofItems.1 hp
  have hk := h k
  rw [Json.lookup_of_mem ((Json.wf_obj_iff _).1 extracted.wf).1 hm] at hk
  split at hk
  · exact nestingItems_le_iff.1 (Nat.le_refl _) _ (mem_ofItems.2 ⟨k, j, Json.mem_of_lookup hk.symm, rfl⟩)
  · cases hk

/-- An empty value holds nothing. -/
theorem of_falsy {v : PyJson} (h : v.truthy = false) : v.nesting ≤ 1 ∧ ∃ j, v = .ofJson j := by
  cases v with
  | null => exact ⟨Nat.zero_le _, .null, rfl⟩
  | bool b => exact ⟨Nat.zero_le _, .bool b, rfl⟩
  | int i => exact ⟨Nat.zero_le _, .int i, rfl⟩
  | float f => exact ⟨Nat.zero_le _, .float f, rfl⟩
  | str s =>
    cases s with
    | nil => exact ⟨Nat.zero_le _, .str "", rfl⟩
    | cons c s => cases h
  | arr l =>
    cases l with
    | nil => exact ⟨Nat.le_refl _, .arr [], rfl⟩
    | cons v l => cases h
  | obj l =>
    cases l with
    | nil => exact ⟨Nat.le_refl _, .obj [], rfl⟩
    | cons p l => cases h

theorem truthy_ofJson (j : Json) : (PyJson.ofJson j).truthy = j.truthy := by
  cases j with
  | null => rfl
  | bool b => rfl
  | int i => rfl
  | float f => cases f <;> rfl
  | str s =>
    have hs : PyStr.ofString s = [] ↔ s = "" := PyStr.ofString_inj (t := "")
    rw [PyJson.ofJson, PyJson.truthy, Json.truthy]
    by_cases h : s = ""
    · subst h
      rfl
    · simp [h, hs]
  | arr l => cases l <;> rfl
  | obj l => cases l <;> rfl

/-! ## The record of a text -/

/-- The original event makes an alert that pydantic writes. -/
def EventKept (originalEventJson : PyStr) : Prop :=
  match (parser.jiter originalEventJson).bind (Alert.validate pd fr) with
  | some alert => alert.nesting ≤ parser.dumpRoom
  | none => ∃ l, PyJson.loads parser.room originalEventJson = .ok (.ofJson (.obj l)) ∧
      (PyJson.ofJson (.obj l)).nesting ≤ parser.dumpRoom

/-- An object or a falsy value, without surrogates, that pydantic writes. -/
structure ReplyKept (v : PyJson) : Prop where
  shape : v.truthy = false ∨ v.isDict = true
  scalar : ∃ j, v = .ofJson j
  nesting : v.nesting ≤ parser.dumpRoom

theorem eventKept_iff (originalEventJson : PyStr) : EventKept pd fr parser originalEventJson ↔
    ∃ alert, originalAlert pd fr parser originalEventJson = .ok (some alert) ∧ alert.nesting ≤ parser.dumpRoom := by
  unfold EventKept originalAlert
  cases (parser.jiter originalEventJson).bind (Alert.validate pd fr) with
  | some alert => simp
  | none =>
    dsimp only
    cases h : PyJson.loads parser.room originalEventJson with
    | error e => simp
    | ok raw =>
      constructor
      · rintro ⟨l, hl, hn⟩
        cases hl
        have hd := Dict.ofJson?_obj (PyJson.wf_of_loads h)
        refine ⟨.make fr "unknown" ⟨l, PyJson.wf_of_loads h⟩ .empty, ?_, Nat.max_le.2 ⟨hn, parser.flat⟩⟩
        dsimp only
        rw [if_pos (show (PyJson.ofJson (.obj l)).isDict = true from rfl), PyJson.toJson?_ofJson, Option.bind_some, hd,
          Option.map_some]
      · rintro ⟨alert, ha, hn⟩
        dsimp only at ha
        split at ha
        · rw [Except.ok.injEq, Option.map_eq_some_iff] at ha
          obtain ⟨d, hd, rfl⟩ := ha
          obtain ⟨j, hj, hd⟩ := Option.bind_eq_some_iff.1 hd
          rw [PyJson.toJson?_eq_some.1 hj, Dict.eq_of_ofJson? hd]
          exact ⟨d.items, rfl, (Nat.max_le.1 hn).1⟩
        · cases ha

theorem parse_eq_ok {text originalEventJson : PyStr} {routePath : String} {e : EnrichedAlert} :
    parse pd fr now parser text originalEventJson routePath = .ok e ↔
      ∃ j alert, PyJson.loads parser.room text = .ok (.ofJson j) ∧
        originalAlert pd fr parser originalEventJson = .ok (some alert) ∧
        parseResponse now j alert routePath = .ok e ∧ e.nesting ≤ parser.dumpRoom := by
  unfold parse
  cases hn : PyJson.loads parser.room text with
  | error e => simp [Except.mapError, bind, Except.bind]
  | ok v =>
    cases ha : originalAlert pd fr parser originalEventJson with
    | error p => simp [Except.mapError, bind, Except.bind]
    | ok alert? =>
      simp only [Except.mapError, bind, Except.bind, Except.ok.injEq, ← PyJson.toJson?_eq_some]
      cases v.toJson? with
      | none => simp
      | some j =>
        cases alert? with
        | none => simp
        | some alert =>
          cases hp : parseResponse now j alert routePath with
          | error p => simp [hp]
          | ok e' =>
            simp only [hp]
            constructor
            · intro he
              split at he
              · rename_i hdump
                cases he
                exact ⟨j, alert, rfl, rfl, hp, hdump⟩
              · cases he
            · rintro ⟨j', alert', hj, ha, he, hdump⟩
              cases hj
              cases ha
              rw [hp] at he
              cases he
              exact if_pos hdump

variable {pd fr now parser} in
/-- Of a reply, what pydantic writes, and with which flag. -/
theorem parseResponse_kept_iff {j : Json} (hwf : j.wf = true) (alert : Alert) (routePath : String) (b : Bool) :
    (∃ e, parseResponse now j alert routePath = .ok e ∧ e.nesting ≤ parser.dumpRoom ∧ e.enrichmentError = b) ↔
      alert.nesting ≤ parser.dumpRoom ∧ ReplyKept parser (.ofJson j) ∧ (PyJson.ofJson j).truthy = !b := by
  have hflat := parser.flat
  cases ht : j.truthy with
  | false =>
    have ht' : (PyJson.ofJson j).truthy = false := (truthy_ofJson j).trans ht
    have hkept : ReplyKept parser (.ofJson j) := ⟨Or.inl ht', ⟨j, rfl⟩, Nat.le_trans (of_falsy ht').1 parser.flat⟩
    rw [parseResponse_falsy now ht, ht']
    constructor
    · rintro ⟨e, he, hdump, rfl⟩
      cases he
      exact ⟨(Nat.max_le.1 hdump).1, hkept, rfl⟩
    · rintro ⟨halert, -, hb⟩
      exact ⟨_, rfl, Nat.max_le.2 ⟨halert, Nat.max_le.2 ⟨hflat, hflat⟩⟩, Bool.not_inj hb⟩
  | true =>
    have ht' : (PyJson.ofJson j).truthy = true := (truthy_ofJson j).trans ht
    rw [ht']
    by_cases hd : ∃ l, j = .obj l
    · obtain ⟨l, rfl⟩ := hd
      have hne : l ≠ [] := by
        rintro rfl
        cases ht
      obtain ⟨extracted, hex, he⟩ := parseResponse_object now hwf hne alert routePath
      rw [he]
      constructor
      · rintro ⟨e, he', hdump, rfl⟩
        cases he'
        obtain ⟨halert, hrest⟩ := Nat.max_le.1 hdump
        exact ⟨halert, ⟨Or.inr rfl, ⟨_, rfl⟩, (Nat.max_le.1 hrest).2⟩, rfl⟩
      · rintro ⟨halert, hkept, hb⟩
        have hextracted := Nat.le_trans (nesting_le_of_extracts hex) hkept.nesting
        exact ⟨_, rfl, Nat.max_le.2 ⟨halert, Nat.max_le.2 ⟨hextracted, hkept.nesting⟩⟩, Bool.not_inj hb⟩
    · rw [not_exists] at hd
      obtain ⟨p, hp⟩ := parseResponse_other now ht hd alert routePath
      rw [hp]
      constructor
      · rintro ⟨e, he, -⟩
        cases he
      · rintro ⟨-, hkept, -⟩
        rcases hkept.shape with hfalsy | hdict
        · rw [ht'] at hfalsy
          cases hfalsy
        · cases j with
          | obj l => exact absurd rfl (hd l)
          | _ => cases hdict

/-- **What is recorded of a text** that the parser is handed. -/
theorem recorded_iff (text originalEventJson : PyStr) (routePath : String) (b : Bool) :
    Recorded pd (parseN8nResponse pd fr now describe parser text originalEventJson routePath) b ↔
      EventKept pd fr parser originalEventJson ∧
        ∃ v, PyJson.loads parser.room text = .ok v ∧ ReplyKept parser v ∧ v.truthy = !b := by
  have hparse : Recorded pd (parseN8nResponse pd fr now describe parser text originalEventJson routePath) b ↔
      ∃ e, parse pd fr now parser text originalEventJson routePath = .ok e ∧ e.enrichmentError = b := by
    rw [parseN8nResponse]
    cases parse pd fr now parser text originalEventJson routePath with
    | error p => simp [not_recorded_parseFailed pd describe p b]
    | ok e =>
      simp only [Except.ok.injEq, exists_eq_left']
      exact ⟨fun h => recorded_unique pd ⟨e, rfl, rfl⟩ h, fun h => ⟨e, rfl, h⟩⟩
  rw [hparse, eventKept_iff]
  constructor
  · rintro ⟨e, he, hb⟩
    obtain ⟨j, alert, hn, ha, hp, hdump⟩ := (parse_eq_ok pd fr now parser).1 he
    obtain ⟨halert, hkept, hb⟩ := (parseResponse_kept_iff (PyJson.wf_of_loads hn) alert routePath b).1 ⟨e, hp, hdump, hb⟩
    exact ⟨⟨alert, ha, halert⟩, _, hn, hkept, hb⟩
  · rintro ⟨⟨alert, ha, halert⟩, v, hn, hkept, hb⟩
    obtain ⟨j, rfl⟩ := hkept.scalar
    obtain ⟨e, hp, hdump, hb⟩ :=
      (parseResponse_kept_iff (PyJson.wf_of_loads hn) alert routePath b).2 ⟨halert, hkept, hb⟩
    exact ⟨e, (parse_eq_ok pd fr now parser).2 ⟨j, alert, hn, ha, hp, hdump⟩, hb⟩

/-! ## A dispatch and its record -/

section Dispatch

variable {φ : Type} (client : Client φ) (host : Host φ) (net : Nat → Post)

/-- n8n answered the payload with a status below 400 and a non-empty JSON object. -/
def AnsweredObject (payloadJson : PyStr) : Prop :=
  ∃ reply, Answered client host net payloadJson (.obj reply) ∧ reply ≠ []

/-- Whatever string the webhook tool returns, the parser records it, without an enrichment error exactly when n8n
answered with a non-empty object. -/
def Faithful (url : String) (payloadJson originalEventJson : PyStr) (routePath : String) : Prop :=
  ∀ text : String, webhookResult client host net describe url payloadJson = .ok text →
    ∃ b, Recorded pd (parseN8nResponse pd fr now describe parser text originalEventJson routePath) b ∧
      (b = false ↔ AnsweredObject client host net payloadJson)

variable {client host net} {url : String} {payloadJson originalEventJson : PyStr} (routePath : String)

theorem faithful_iff_of_returned {text : String}
    (hw : webhookResult client host net describe url payloadJson = .ok text) :
    Faithful pd fr now describe parser client host net url payloadJson originalEventJson routePath ↔
      EventKept pd fr parser originalEventJson ∧ ∃ v, PyJson.loads parser.room text = .ok v ∧ ReplyKept parser v ∧
        (v.truthy = true ↔ AnsweredObject client host net payloadJson) := by
  constructor
  · intro hf
    obtain ⟨b, hrec, hb⟩ := hf text hw
    obtain ⟨hevent, v, hn, hkept, ht⟩ := (recorded_iff pd fr now describe parser _ _ routePath b).1 hrec
    refine ⟨hevent, v, hn, hkept, ?_⟩
    rw [← hb, ht, Bool.not_eq_true']
  · rintro ⟨hevent, v, hn, hkept, ht⟩ text' hw'
    rw [hw] at hw'
    cases hw'
    refine ⟨!v.truthy, (recorded_iff pd fr now describe parser _ _ routePath _).2 ⟨hevent, v, hn, hkept, ?_⟩, ?_⟩
    · rw [Bool.not_not]
    · rw [← ht, Bool.not_eq_false']

/-- An object of the tool's own is never recorded as what it is. -/
theorem not_faithful_of_envelope {l : List (String × Json)} (h : Envelope l)
    (hna : ∀ v, ¬ Answered client host net payloadJson v)
    (hw : webhookResult client host net describe url payloadJson = .ok (Json.dumps (.obj l))) :
    ¬ Faithful pd fr now describe parser client host net url payloadJson originalEventJson routePath := by
  rw [faithful_iff_of_returned pd fr now describe parser routePath hw]
  rintro ⟨-, v, hn, -, ht⟩
  rw [← PyJson.dumps_ofJson, PyJson.loads_dumps h.fits, PyJson.rejoin_ofJson h.wf] at hn
  split at hn
  · cases hn
    have htruthy : (PyJson.ofJson (.obj l)).truthy = true := by
      rw [truthy_ofJson]
      simpa [Json.truthy] using h.nonempty
    obtain ⟨reply, ha, -⟩ := ht.1 htruthy
    exact hna _ ha
  · cases hn

theorem answered_unique {v v' : PyJson} (h : Answered client host net payloadJson v)
    (h' : Answered client host net payloadJson v') : v = v' := by
  obtain ⟨payload, -, -, i, hs, ha⟩ := h
  obtain ⟨payload', -, -, i', hs', ha'⟩ := h'
  rw [settles_unique client host net (Or.inl hs') (Or.inl hs), ha] at ha'
  exact Option.some.inj ha'

/-- Joining surrogates leaves a value as empty, and as much an object, as it was. -/
theorem truthy_rejoin (v : PyJson) : v.rejoin.truthy = v.truthy ∧ v.rejoin.isDict = v.isDict := by
  cases v with
  | null | bool | int | float => exact ⟨rfl, rfl⟩
  | str s =>
    refine ⟨?_, rfl⟩
    rw [PyJson.rejoin, PyJson.truthy, PyJson.truthy, Bool.eq_iff_iff]
    simp [PyStr.join_eq_nil]
  | arr l => cases l <;> exact ⟨rfl, rfl⟩
  | obj l =>
    refine ⟨?_, rfl⟩
    cases l with
    | nil => rfl
    | cons p l =>
      rw [PyJson.rejoin, PyJson.truthy, PyJson.rejoinItems]
      simpa [PyJson.truthy] using Json.ofPairs_cons_ne_nil (p.1.join, p.2.rejoin) (PyJson.rejoinItems l)

theorem faithful_answered_iff {v : PyJson} (ha : Answered client host net payloadJson v)
    (hw : webhookResult client host net describe url payloadJson = .ok (PyJson.dumps v)) :
    Faithful pd fr now describe parser client host net url payloadJson originalEventJson routePath ↔
      EventKept pd fr parser originalEventJson ∧ v.nesting ≤ parser.room ∧ ReplyKept parser v.rejoin := by
  obtain ⟨payload, -, -, i, -, hanswer⟩ := id ha
  have hfits := (held_of_answer hanswer).fits
  have hobject : ReplyKept parser v.rejoin → (v.rejoin.truthy = true ↔ AnsweredObject client host net payloadJson) := by
    intro hkept
    rw [(truthy_rejoin v).1]
    constructor
    · intro ht
      have hdict := hkept.shape.resolve_left (by rw [(truthy_rejoin v).1, ht]; exact nofun)
      rw [(truthy_rejoin v).2] at hdict
      obtain ⟨l, rfl⟩ := PyJson.isDict_iff.1 hdict
      refine ⟨l, ha, ?_⟩
      rintro rfl
      cases ht
    · rintro ⟨reply, ha', hne⟩
      rw [answered_unique ha ha']
      simpa [PyJson.truthy] using hne
  rw [faithful_iff_of_returned pd fr now describe parser routePath hw, PyJson.loads_dumps hfits]
  constructor
  · rintro ⟨hevent, v', hn, hkept, -⟩
    split at hn
    · rename_i hroom
      cases hn
      exact ⟨hevent, hroom, hkept⟩
    · cases hn
  · rintro ⟨hevent, hroom, hkept⟩
    exact ⟨hevent, _, if_pos hroom, hkept, hobject hkept⟩

/-- **What is recorded is what happened exactly when** the tool raises, or the original event can be recorded and n8n
answered below 400 with an object or a falsy value that can be read again, holds no lone surrogate, and can be
recorded. -/
theorem executeWebhook_recorded_iff :
    Faithful pd fr now describe parser client host net url payloadJson originalEventJson routePath ↔
      Raises client host net payloadJson ∨ EventKept pd fr parser originalEventJson ∧
        ∃ v, Answered client host net payloadJson v ∧ v.nesting ≤ parser.room ∧ ReplyKept parser v.rejoin := by
  by_cases hr : Raises client host net payloadJson
  · obtain ⟨e, hw⟩ := webhookResult_raises describe url hr
    refine iff_of_true (fun text hw' => ?_) (Or.inl hr)
    rw [hw] at hw'
    cases hw'
  · simp only [hr, false_or]
    cases webhookResult_comes describe client host net url payloadJson with
    | raised h => exact absurd h hr
    | answered ha hw =>
      rw [faithful_answered_iff pd fr now describe parser routePath ha hw]
      constructor
      · exact fun ⟨hevent, hkept⟩ => ⟨hevent, _, ha, hkept⟩
      · rintro ⟨hevent, v', ha', hkept⟩
        rw [answered_unique ha' ha] at hkept
        exact ⟨hevent, hkept⟩
    | envelope h hna hw =>
      exact iff_of_false (not_faithful_of_envelope pd fr now describe parser routePath h hna hw)
        fun ⟨_, v, ha, _⟩ => hna v ha

end Dispatch

/-- n8n answers 404, and the record has no enrichment error. -/
theorem webhookFailed_recorded :
    ¬ Faithful (φ := ℚ) .iso .zero .epoch (fun _ => "") .ample ⟨3, 2⟩ .ample
      (fun _ => .response ⟨404, "not found", none⟩) "http://n8n/hook" emptyObject emptyObject "aws" := by
  have hsettles : Settles (φ := ℚ) ⟨3, 2⟩ .ample (fun _ => .response ⟨404, "not found", none⟩) 0 :=
    settles_zero (by decide) rfl
  obtain ⟨l, hl, hna, hw⟩ :=
    envelope_of_refused (fun _ => "") (loads_emptyObject 899) rfl "http://n8n/hook" hsettles rfl rfl
  exact not_faithful_of_envelope .iso .zero .epoch (fun _ => "") .ample "aws" hl hna hw

end N8n
end Tengen
