import Mathlib.Data.List.Dedup
import Tengen.ModelUpdater
/-!
# Promotion

A branch that has been created promotes the approved rows, and no other: `promotion_exact`.  Each of them stands for a
field its model has, or for one that its class in the module declares once: a row whose field another row proposed
before it rests on that row's declaration.
-/
namespace Tengen

variable {py : PyText} {statuses : List String}

/-! ## What is proposed -/

theorem map_fieldId_proposeRows : ∀ (rows : List FieldRow) (seen : List (UdmModel × String)),
    (proposeRows py statuses seen rows).map FieldProposal.fieldId =
      (rows.filter fun row => decide (row.status ∈ statuses)).map FieldRow.id
  | [], _ => rfl
  | row :: rows, seen => by
    rw [proposeRows]
    by_cases hstatus : row.status ∈ statuses
    · rw [if_pos hstatus, List.filter_cons_of_pos (by simpa using hstatus), List.map_cons, List.map_cons,
        map_fieldId_proposeRows rows]
      rfl
    · rw [if_neg hstatus, List.filter_cons_of_neg (by simpa using hstatus), map_fieldId_proposeRows rows]

theorem isNew_proposal {row : FieldRow} {seen : List (UdmModel × String)} : (proposal py seen row).isNew = true ↔
    existing (proposedKey py row) = false ∧ proposedKey py row ∉ seen := by
  unfold proposal
  simp

theorem new_proposal (seen : List (UdmModel × String)) (row : FieldRow) :
    existing (proposedKey py row) = true ∨ proposedKey py row ∈ seen ∨ (proposal py seen row).isNew = true := by
  by_cases hexisting : existing (proposedKey py row) = true
  · exact Or.inl hexisting
  by_cases hseen : proposedKey py row ∈ seen
  · exact Or.inr (Or.inl hseen)
  exact Or.inr (Or.inr (isNew_proposal.2 ⟨Bool.eq_false_of_not_eq_true hexisting, hseen⟩))

/-- A key that has been seen after a row was seen before it, or is the row's. -/
theorem mem_seen {known : Prop} [Decidable known] {key key' : UdmModel × String} {seen : List (UdmModel × String)}
    (h : key ∈ if known then seen else key' :: seen) : key ∈ seen ∨ key = key' := by
  split at h
  · exact Or.inl h
  · exact (List.mem_cons.1 h).symm

/-- **A row's field is the model's, or has been proposed before, or is proposed as new.** -/
theorem covered_proposeRows : ∀ (rows : List FieldRow) (seen : List (UdmModel × String)), ∀ row ∈ rows,
    row.status ∈ statuses → existing (proposedKey py row) = true ∨ proposedKey py row ∈ seen ∨
      ∃ p ∈ proposeRows py statuses seen rows, p.isNew = true ∧ p.key = proposedKey py row
  | r :: rows, seen, row, hrow, hstatus => by
    rw [proposeRows]
    by_cases hr : r.status ∈ statuses
    · rw [if_pos hr]
      have hhead : proposedKey py row = proposedKey py r → existing (proposedKey py row) = true ∨
          proposedKey py row ∈ seen ∨ ∃ p ∈ proposal py seen r :: proposeRows py statuses
            (if existing (proposedKey py r) = true then seen else proposedKey py r :: seen) rows,
            p.isNew = true ∧ p.key = proposedKey py row := by
        intro hkey
        rw [hkey]
        exact (new_proposal seen r).imp_right (Or.imp_right fun hnew => ⟨_, List.mem_cons_self, hnew, rfl⟩)
      rcases List.mem_cons.1 hrow with rfl | hrow
      · exact hhead rfl
      rcases covered_proposeRows rows (if existing (proposedKey py r) = true then seen else proposedKey py r :: seen)
        row hrow hstatus with h | h | ⟨p, hp, hnew⟩
      · exact Or.inl h
      · rcases mem_seen h with h | h
        · exact Or.inr (Or.inl h)
        · exact hhead h
      · exact Or.inr (Or.inr ⟨p, List.mem_cons_of_mem _ hp, hnew⟩)
    · rw [if_neg hr]
      rcases List.mem_cons.1 hrow with rfl | hrow
      · exact absurd hstatus hr
      · exact covered_proposeRows rows seen row hrow hstatus

/-- The pairs in `seen` after the loop over the rows. -/
def seenAfter (py : PyText) (statuses : List String) : List (UdmModel × String) → List FieldRow → List (UdmModel × String)
  | seen, [] => seen
  | seen, row :: rows =>
    if row.status ∈ statuses then
      seenAfter py statuses (if existing (proposedKey py row) then seen else proposedKey py row :: seen) rows
    else seenAfter py statuses seen rows

/-- **The proposals are those of the selected rows**, each flagged by the rows before it. -/
theorem mem_proposeRows {p : FieldProposal} : ∀ {rows : List FieldRow} {seen : List (UdmModel × String)},
    p ∈ proposeRows py statuses seen rows → ∃ before row after, rows = before ++ row :: after ∧
      row.status ∈ statuses ∧ p = proposal py (seenAfter py statuses seen before) row
  | row :: rows, seen, h => by
    rw [proposeRows] at h
    by_cases hstatus : row.status ∈ statuses
    · rw [if_pos hstatus] at h
      rcases List.mem_cons.1 h with rfl | h
      · exact ⟨[], row, rows, rfl, hstatus, rfl⟩
      · obtain ⟨before, row', after, hrows, hstatus', hp⟩ := mem_proposeRows h
        refine ⟨row :: before, row', after, by rw [hrows]; rfl, hstatus', ?_⟩
        rw [seenAfter, if_pos hstatus]
        exact hp
    · rw [if_neg hstatus] at h
      obtain ⟨before, row', after, hrows, hstatus', hp⟩ := mem_proposeRows h
      refine ⟨row :: before, row', after, by rw [hrows]; rfl, hstatus', ?_⟩
      rw [seenAfter, if_neg hstatus]
      exact hp

theorem exists_row_of_mem_proposeRows {p : FieldProposal} {rows : List FieldRow} {seen : List (UdmModel × String)}
    (h : p ∈ proposeRows py statuses seen rows) : ∃ row ∈ rows, ∃ seen', p = proposal py seen' row := by
  obtain ⟨before, row, after, rfl, -, hp⟩ := mem_proposeRows h
  exact ⟨row, List.mem_append_right _ List.mem_cons_self, _, hp⟩

/-- **No field is proposed as new twice.** -/
theorem nodup_newKeys : ∀ (rows : List FieldRow) (seen : List (UdmModel × String)),
    (((proposeRows py statuses seen rows).filter (·.isNew)).map FieldProposal.key).Nodup ∧
      ∀ p ∈ proposeRows py statuses seen rows, p.isNew = true → p.key ∉ seen
  | [], _ => ⟨List.nodup_nil, fun _ h => absurd h List.not_mem_nil⟩
  | row :: rows, seen => by
    rw [proposeRows]
    split
    next =>
      obtain ⟨hnodup, hfresh⟩ := nodup_newKeys rows
        (if existing (proposedKey py row) = true then seen else proposedKey py row :: seen)
      have hkeep : ∀ key ∈ seen,
          key ∈ if existing (proposedKey py row) = true then seen else proposedKey py row :: seen := by
        intro key hkey
        split
        · exact hkey
        · exact List.mem_cons_of_mem _ hkey
      constructor
      · by_cases hisNew : (proposal py seen row).isNew = true
        · rw [List.filter_cons_of_pos hisNew, List.map_cons, List.nodup_cons]
          refine ⟨?_, hnodup⟩
          intro hmem
          obtain ⟨p, hp, hkey⟩ := List.mem_map.1 hmem
          obtain ⟨hp, hpnew⟩ := List.mem_filter.1 hp
          refine hfresh p hp hpnew ?_
          rw [hkey, (isNew_proposal.1 hisNew).1, if_neg Bool.false_ne_true]
          exact List.mem_cons_self
        · rw [List.filter_cons_of_neg hisNew]
          exact hnodup
      · intro p hp hpnew
        rcases List.mem_cons.1 hp with rfl | hp
        · exact (isNew_proposal.1 hpnew).2
        · exact fun hseen => hfresh p hp hpnew (hkeep _ hseen)
    next => exact nodup_newKeys rows seen

/-! ## What is declared -/

theorem mem_of_mem_emitted {p : FieldProposal} : ∀ {ps : List FieldProposal} {names : List String},
    p ∈ emitted names ps → p ∈ ps
  | q :: ps, names, h => by
    rw [emitted] at h
    split at h
    · exact List.mem_cons_of_mem _ (mem_of_mem_emitted h)
    · rcases List.mem_cons.1 h with rfl | h
      · exact List.mem_cons_self
      · exact List.mem_cons_of_mem _ (mem_of_mem_emitted h)

/-- **No name is emitted twice.** -/
theorem nodup_emitted : ∀ (ps : List FieldProposal) (names : List String),
    ((emitted names ps).map (·.fieldName)).Nodup ∧ ∀ p ∈ emitted names ps, p.fieldName ∉ names
  | [], _ => ⟨List.nodup_nil, fun _ h => absurd h List.not_mem_nil⟩
  | q :: ps, names => by
    rw [emitted]
    split
    next => exact nodup_emitted ps names
    next hfresh =>
      obtain ⟨hnodup, hnot⟩ := nodup_emitted ps (q.fieldName :: names)
      constructor
      · rw [List.map_cons, List.nodup_cons]
        refine ⟨?_, hnodup⟩
        intro hmem
        obtain ⟨p, hp, hname⟩ := List.mem_map.1 hmem
        exact hnot p hp (hname ▸ List.mem_cons_self)
      · intro p hp
        rcases List.mem_cons.1 hp with rfl | hp
        · exact hfresh
        · exact fun h => hnot p hp (List.mem_cons_of_mem _ h)

theorem name_emitted : ∀ (ps : List FieldProposal) (names : List String), ∀ p ∈ ps,
    p.fieldName ∈ names ∨ p.fieldName ∈ (emitted names ps).map (·.fieldName)
  | q :: ps, names, p, hp => by
    rw [emitted]
    split
    next hname =>
      rcases List.mem_cons.1 hp with rfl | hp
      · exact Or.inl hname
      · exact name_emitted ps names p hp
    next =>
      rw [List.map_cons]
      rcases List.mem_cons.1 hp with rfl | hp
      · exact Or.inr List.mem_cons_self
      · rcases name_emitted ps (q.fieldName :: names) p hp with h | h
        · rcases List.mem_cons.1 h with h | h
          · exact Or.inr (h ▸ List.mem_cons_self)
          · exact Or.inl h
        · exact Or.inr (List.mem_cons_of_mem _ h)

/-- Proposals of distinct names are all emitted. -/
theorem emitted_eq : ∀ {ps : List FieldProposal} {names : List String}, (ps.map (·.fieldName)).Nodup →
    (∀ p ∈ ps, p.fieldName ∉ names) → emitted names ps = ps
  | [], _, _, _ => rfl
  | q :: ps, names, hnodup, hfresh => by
    rw [List.map_cons, List.nodup_cons] at hnodup
    rw [emitted, if_neg (hfresh q List.mem_cons_self), emitted_eq hnodup.2]
    intro p hp hmem
    rcases List.mem_cons.1 hmem with hname | hname
    · exact hnodup.1 (hname ▸ List.mem_map_of_mem hp)
    · exact hfresh p (List.mem_cons_of_mem _ hp) hname

theorem declared_members (model : UdmModel) (rest : List Block) : ∀ (ps : List FieldProposal),
    declared (some model) (ps.flatMap (fun p => [.comment p, .declaration p]) ++ rest) =
      ps.map (fun p => (model, p.fieldName)) ++ declared (some model) rest
  | [] => rfl
  | p :: ps => by
    have hrest := declared_members model rest ps
    change (model, p.fieldName) :: declared (some model) (ps.flatMap _ ++ rest) = _
    rw [hrest]
    rfl

/-- The fields a class declares. -/
def classFields (new : List FieldProposal) (model : UdmModel) : List (UdmModel × String) :=
  (emitted [] (new.filter fun p => decide (p.targetModel = model))).map fun p => (model, p.fieldName)

theorem declared_classes (new : List FieldProposal) : ∀ (models : List UdmModel) (current : Option UdmModel),
    declared current (models.flatMap (classBlocks new)) = models.flatMap (classFields new)
  | [], _ => rfl
  | model :: models, current => by
    have hmembers := declared_members model (models.flatMap (classBlocks new))
      (emitted [] (new.filter fun p => decide (p.targetModel = model)))
    rw [List.flatMap_cons, List.flatMap_cons, ← declared_classes new models (some model)]
    exact hmembers

theorem mem_newModels {new : List FieldProposal} {model : UdmModel} :
    model ∈ newModels new ↔ ∃ p ∈ new, p.targetModel = model := by
  unfold newModels
  rw [(List.mergeSort_perm _ _).mem_iff, List.mem_dedup, List.mem_map]

theorem nodup_newModels (new : List FieldProposal) : (newModels new).Nodup :=
  (List.mergeSort_perm _ _).nodup_iff.2 (List.nodup_dedup _)

theorem nodup_declared (new : List FieldProposal) : ((newModels new).flatMap (classFields new)).Nodup := by
  refine List.nodup_flatMap.2 ⟨fun model _ => ?_, ?_⟩
  · have hnames := (nodup_emitted (new.filter fun p => decide (p.targetModel = model)) []).1
    have hpairs := hnames.map (f := Prod.mk model) fun _ _ h => (Prod.mk.inj h).2
    rw [List.map_map] at hpairs
    exact hpairs
  · refine (nodup_newModels new).imp fun {model model'} hne => ?_
    intro key hkey hkey'
    obtain ⟨p, -, rfl⟩ := List.mem_map.1 hkey
    obtain ⟨p', -, heq⟩ := List.mem_map.1 hkey'
    exact hne (Prod.mk.inj heq).1.symm

/-- **A new proposal's field is declared once**, in its model's class. -/
theorem count_declared {generatedAt : String} {proposals : List FieldProposal} {p : FieldProposal}
    (hp : p ∈ proposals) (hnew : p.isNew = true) :
    (declared none (moduleBlocks generatedAt proposals)).count p.key = 1 := by
  have hmem : p ∈ proposals.filter (·.isNew) := List.mem_filter.2 ⟨hp, hnew⟩
  unfold moduleBlocks
  dsimp only
  rw [if_neg (List.ne_nil_of_mem hmem)]
  change (declared none ((newModels _).flatMap _)).count p.key = 1
  rw [declared_classes]
  refine List.count_eq_one_of_mem (nodup_declared _) (List.mem_flatMap.2 ⟨p.targetModel, ?_, ?_⟩)
  · exact mem_newModels.2 ⟨p, hmem, rfl⟩
  · have hown : p ∈ (proposals.filter (·.isNew)).filter fun q => decide (q.targetModel = p.targetModel) :=
      List.mem_filter.2 ⟨hmem, decide_eq_true rfl⟩
    rcases name_emitted _ [] p hown with h | h
    · exact absurd h List.not_mem_nil
    · obtain ⟨q, hq, hname⟩ := List.mem_map.1 h
      exact List.mem_map.2 ⟨q, hq, Prod.ext rfl hname⟩

/-! ## What is marked -/

/-- The row, with a status set: its note and the time it was last seen may differ too. -/
structure PromotedTo (row row' : FieldRow) : Prop where
  status : row'.status = FieldStatus.promoted.value
  frame : row' = { row with status := row'.status, notes := row'.notes, lastSeen := row'.lastSeen }

theorem PromotedTo.trans {row row' row'' : FieldRow} (h : PromotedTo row row') (h' : PromotedTo row' row'') :
    PromotedTo row row'' := by
  refine ⟨h'.status, ?_⟩
  have hframe := h'.frame
  rw [h.frame] at hframe
  exact hframe

/-- The rows of some ids are promoted, and the others are as they were. -/
def Marked (ids : List Nat) (row row' : FieldRow) : Prop :=
  (row.id ∈ ids → PromotedTo row row') ∧ (row.id ∉ ids → row' = row)

/-- **The marking loop promotes the rows of its proposals, in place**. -/
theorem rows_markPromoted (branch : String) : ∀ (ps : List FieldProposal) (now : Nat → String) (R : FieldRegistry),
    ∃ f : FieldRow → FieldRow, (markPromoted branch now ps R).rows = R.rows.map f ∧
      ∀ row, Marked (ps.map FieldProposal.fieldId) row (f row)
  | [], _, R => ⟨id, (List.map_id _).symm, fun _ => ⟨fun h => absurd h List.not_mem_nil, fun _ => rfl⟩⟩
  | p :: ps, now, R => by
    obtain ⟨f, hrows, hmarked⟩ := rows_markPromoted branch ps (fun n => now (n + 1))
      (R.setStatus (now 0) p.fieldId FieldStatus.promoted.value (some ("branch=" ++ branch))).2
    let set : FieldRow → FieldRow := fun row =>
      if decide (row.id = p.fieldId) = true then
        { row with status := FieldStatus.promoted.value, notes := "branch=" ++ branch, lastSeen := now 0 }
      else row
    have hset : ∀ row : FieldRow, row.id = p.fieldId → PromotedTo row (set row) := by
      intro row hid
      have hrow : set row = _ := if_pos (decide_eq_true hid)
      rw [hrow]
      exact ⟨rfl, rfl⟩
    have hother : ∀ row : FieldRow, row.id ≠ p.fieldId → set row = row := fun row hid =>
      if_neg (by simpa using hid)
    refine ⟨f ∘ set, ?_, fun row => ?_⟩
    · rw [markPromoted, hrows, ← List.map_map]
      rfl
    obtain ⟨hin, hout⟩ := hmarked (set row)
    rw [Function.comp_apply, List.map_cons]
    by_cases hid : row.id = p.fieldId
    · refine ⟨fun _ => ?_, fun h => absurd (hid ▸ List.mem_cons_self) h⟩
      have hfirst := hset row hid
      by_cases hmem : (set row).id ∈ ps.map FieldProposal.fieldId
      · exact hfirst.trans (hin hmem)
      · rw [hout hmem]
        exact hfirst
    · rw [hother row hid] at hin hout ⊢
      constructor
      · exact fun h => hin ((List.mem_cons.1 h).resolve_left hid)
      · exact fun h => hout fun hmem => h (List.mem_cons_of_mem _ hmem)

/-! ## Promotion -/

/-- The row's field is its model's, or is declared once in the class of its model. -/
def Justified (py : PyText) (blocks : List Block) (row : FieldRow) : Prop :=
  existing (proposedKey py row) = true ∨ (declared none blocks).count (proposedKey py row) = 1

/-- The rows that were approved are promoted, and no other row changes. -/
def Promotes (rows rows' : List FieldRow) : Prop :=
  ∃ f : FieldRow → FieldRow, rows' = rows.map f ∧ ∀ row ∈ rows,
    (row.status = FieldStatus.approved.value → PromotedTo row (f row)) ∧
      (row.status ≠ FieldStatus.approved.value → f row = row)

variable {order : FieldRegistry.Ordering} {R : FieldRegistry}

/-- The ids of the proposals are those of the approved rows. -/
theorem mem_ids_proposeFromRegistry (hrows : R.rows.length ≤ 10000) {row : FieldRow} (hrow : row ∈ R.rows) :
    row.id ∈ (proposeFromRegistry py order R [FieldStatus.approved.value]).map FieldProposal.fieldId ↔
      row.status = FieldStatus.approved.value := by
  have hlisted := R.listFields_perm order hrows
  unfold proposeFromRegistry
  rw [map_fieldId_proposeRows, List.mem_map]
  constructor
  · rintro ⟨row', hrow', hid⟩
    obtain ⟨hmem, hstatus⟩ := List.mem_filter.1 hrow'
    have hsame := Table.eq_of_mem_of_nodup R.ids (hlisted.mem_iff.1 hmem) hrow hid
    rw [← hsame]
    simpa using hstatus
  · intro hstatus
    exact ⟨row, List.mem_filter.2 ⟨hlisted.mem_iff.2 hrow, by simpa using hstatus⟩, rfl⟩

theorem justified_of_approved (hrows : R.rows.length ≤ 10000) {row : FieldRow} (hrow : row ∈ R.rows)
    (hstatus : row.status = FieldStatus.approved.value) (generatedAt : String) :
    Justified py (moduleBlocks generatedAt (proposeFromRegistry py order R [FieldStatus.approved.value])) row := by
  have hlisted := (R.listFields_perm order hrows).mem_iff.2 hrow
  have happroved : row.status ∈ [FieldStatus.approved.value] := List.mem_singleton.2 hstatus
  rcases covered_proposeRows _ [] row hlisted happroved with h | h | ⟨p, hp, hnew, hkey⟩
  · exact Or.inl h
  · exact absurd h List.not_mem_nil
  · exact Or.inr (hkey ▸ count_declared hp hnew)

/-- What a call does: a branch is created and the rows are marked, or the registry is as it was. -/
theorem createUpdateBranch_cases (env : UpdateEnv) (branch : Option String) (modulePath target : String) :
    let proposals := proposeFromRegistry py order R [FieldStatus.approved.value]
    let out := createUpdateBranch py order env R branch modulePath target true true
    (∃ branch result, out.result = some result ∧ result.proposals = proposals ∧ result.created = true ∧
      out.registry = markPromoted branch env.now proposals R ∧
      out.scaffold = some (renderExtensionModule py env.generatedAt proposals)) ∨
    (out.registry = R ∧ ∀ result, out.result = some result → result.created = false) := by
  intro proposals out
  have hfailed : ∀ {result result' : UpdateResult}, result'.created = false → some result' = some result →
      result.created = false := by
    intro result result' hcreated h
    rw [← Option.some.inj h]
    exact hcreated
  have hout : out = createUpdateBranch py order env R branch modulePath target true true := rfl
  unfold createUpdateBranch at hout
  dsimp only at hout
  split at hout
  · rw [hout]
    exact Or.inr ⟨rfl, fun _ => hfailed rfl⟩
  split at hout
  · rw [hout]
    exact Or.inr ⟨rfl, fun _ => hfailed rfl⟩
  split at hout
  · rw [hout]
    exact Or.inr ⟨rfl, fun _ h => by cases h⟩
  split at hout
  · rw [hout]
    exact Or.inr ⟨rfl, fun _ => hfailed rfl⟩
  · rw [hout]
    exact Or.inl ⟨_, _, rfl, rfl, rfl, rfl, rfl⟩

/-- **Promotion is exact**: a branch that is created promotes the approved rows, each justified by the module written,
and a call that creates none changes no row. -/
theorem promotion_exact (py : PyText) (order : FieldRegistry.Ordering) (env : UpdateEnv) (R : FieldRegistry)
    (hrows : R.rows.length ≤ 10000) (branch : Option String) (modulePath target : String) (result : UpdateResult)
    (h : (createUpdateBranch py order env R branch modulePath target true true).result = some result) :
    let out := createUpdateBranch py order env R branch modulePath target true true
    (result.created = true → Promotes R.rows out.registry.rows ∧
      out.scaffold = some (renderExtensionModule py env.generatedAt result.proposals) ∧
      ∀ row ∈ R.rows, row.status = FieldStatus.approved.value →
        Justified py (moduleBlocks env.generatedAt result.proposals) row) ∧
    (result.created = false → out.registry = R) := by
  intro out
  rcases @createUpdateBranch_cases py order R env branch modulePath target with
    ⟨branch, result', hresult, hproposals, hcreated, hregistry, hscaffold⟩ | ⟨hregistry, hcreated⟩
  · have hsame : result' = result := Option.some.inj (hresult.symm.trans h)
    rw [← hsame, hproposals, hcreated]
    refine ⟨fun _ => ⟨?_, hscaffold, fun row hrow hstatus => justified_of_approved hrows hrow hstatus _⟩, nofun⟩
    obtain ⟨f, hrows', hmarked⟩ := rows_markPromoted branch
      (proposeFromRegistry py order R [FieldStatus.approved.value]) env.now R
    refine ⟨f, (congrArg FieldRegistry.rows hregistry).trans hrows', fun row hrow => ?_⟩
    have hids := @mem_ids_proposeFromRegistry py order R hrows row hrow
    constructor
    · exact fun hstatus => (hmarked row).1 (hids.2 hstatus)
    · exact fun hstatus => (hmarked row).2 fun hid => hstatus (hids.1 hid)
  · rw [hcreated result h]
    exact ⟨nofun, fun _ => hregistry⟩

/-- A field that two sources have is approved for both; another has not been reviewed. -/
def approvedRegistry : FieldRegistry :=
  let R := FieldRegistry.empty.observe ⟨"12:00", 0⟩ "aws" "mfaUsed" (.str "true") ""
  let R := R.observe ⟨"12:00", 0⟩ "gcp" "mfaUsed" (.str "false") ""
  let R := R.observe ⟨"12:00", 0⟩ "gcp" "zone" (.str "a") ""
  ((R.setStatus "12:01" 1 FieldStatus.approved.value none).2.setStatus "12:01" 2 FieldStatus.approved.value none).2

/-- Git does all it is asked. -/
def quietEnv : UpdateEnv := ⟨"12:02", "1202", fun _ => "12:03", fun _ => none, false⟩

/-- Git refuses the commit. -/
def uncommittedEnv : UpdateEnv :=
  { quietEnv with gitFails := fun args => if args.head? = some "commit" then some "hook failed" else none }

theorem promotion_exact_approvedRegistry :
    Promotes approvedRegistry.rows (createUpdateBranch .ascii .stable quietEnv approvedRegistry none "fields.py"
      "/repo/fields.py" true true).registry.rows ∧
    (createUpdateBranch .ascii .stable uncommittedEnv approvedRegistry none "fields.py" "/repo/fields.py" true
      true).registry = approvedRegistry := by
  constructor
  · exact ((promotion_exact .ascii .stable quietEnv approvedRegistry (by decide) none "fields.py" "/repo/fields.py"
      ((createUpdateBranch .ascii .stable quietEnv approvedRegistry none "fields.py" "/repo/fields.py" true
        true).result.get rfl) (Option.some_get _).symm).1 rfl).1
  · exact (promotion_exact .ascii .stable uncommittedEnv approvedRegistry (by decide) none "fields.py" "/repo/fields.py"
      ((createUpdateBranch .ascii .stable uncommittedEnv approvedRegistry none "fields.py" "/repo/fields.py" true
        true).result.get rfl) (Option.some_get _).symm).2 rfl

end Tengen
