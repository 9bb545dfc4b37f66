import Tengen.Codec
import Tengen.PyText
import Tengen.Run
import Tengen.Table
import Mathlib.Logic.Function.Basic
/-!
# The metrics store

`MetricsStore` (`tengen/dashboard/metrics_store.py`): counters in seven buckets, saved to a table of one row for each
counter, and loaded from it when a store is made.  A row's key packs the bucket and the counter's name into one text, and
is split again at its first colon: `load_save`.

`counters_survive` is about whole histories of one database file, with any number of saves and restarts.
-/
namespace Tengen

/-! ## Buckets -/

inductive Bucket where
  | routeCounts | runbookSuccess | runbookError | alertIngested | dlqCounts | containmentExecuted | normalizationCounts
  deriving DecidableEq, Repr

namespace Bucket

def name : Bucket → String
  | routeCounts => "route_counts"
  | runbookSuccess => "runbook_success"
  | runbookError => "runbook_error"
  | alertIngested => "alert_ingested"
  | dlqCounts => "dlq_counts"
  | containmentExecuted => "containment_executed"
  | normalizationCounts => "normalization_counts"

/-- The buckets, as `snapshot` lists them. -/
def members : List Bucket :=
  [routeCounts, runbookSuccess, runbookError, alertIngested, dlqCounts, containmentExecuted, normalizationCounts]

theorem mem_members (b : Bucket) : b ∈ members := by cases b <;> decide

/-- `_bucket_by_name`. -/
def byName? (name : String) : Option Bucket := members.find? fun b => decide (b.name = name)

theorem byName?_name (b : Bucket) : byName? b.name = some b := by cases b <;> decide

theorem name_injective {b b' : Bucket} (h : b.name = b'.name) : b = b' := by
  have hname := byName?_name b
  rw [h, byName?_name] at hname
  exact (Option.some.inj hname).symm

theorem colon_not_mem_name (b : Bucket) : ':' ∉ b.name.toList := by cases b <;> decide

/-- `f"{bucket}:{name}"`. -/
def key (b : Bucket) (counter : String) : String := b.name ++ ":" ++ counter

/-- **A key is split where it was packed**, whatever the counter's name. -/
theorem partition_key (b : Bucket) (counter : String) :
    partition ':' (b.key counter).toList = (b.name.toList, counter.toList) := by
  have hkey : (b.key counter).toList = b.name.toList ++ ':' :: counter.toList := by
    rw [key, String.toList_append, String.toList_append, List.append_assoc]
    rfl
  rw [hkey, partition_append _ b.colon_not_mem_name]

theorem key_injective {b b' : Bucket} {counter counter' : String} (h : b.key counter = b'.key counter') :
    b = b' ∧ counter = counter' := by
  have hsplit := b.partition_key counter
  rw [h, partition_key, Prod.mk.injEq, String.toList_inj, String.toList_inj] at hsplit
  exact ⟨name_injective hsplit.1.symm, hsplit.2.symm⟩

end Bucket

/-! ## Counters -/

/-- A dictionary from names to counts. -/
structure Counters where
  items : List (String × Int)
  nodup : (items.map Prod.fst).Nodup

namespace Counters

def empty : Counters := ⟨[], List.nodup_nil⟩

def get (c : Counters) (counter : String) : Option Int := c.items.lookup counter

def set (c : Counters) (counter : String) (value : Int) : Counters :=
  ⟨Json.setItem counter value c.items, Json.nodup_setItem counter value c.items c.nodup⟩

theorem get_set (c : Counters) (counter counter' : String) (value : Int) :
    (c.set counter value).get counter' = if counter' = counter then some value else c.get counter' :=
  Json.lookup_setItem counter value counter' c.items

end Counters

structure MetricsStore where
  counters : Bucket → Counters

namespace MetricsStore

def empty : MetricsStore := ⟨fun _ => .empty⟩

variable (store : MetricsStore)

def get (b : Bucket) (counter : String) : Option Int := (store.counters b).get counter

def set (b : Bucket) (counter : String) (value : Int) : MetricsStore :=
  ⟨Function.update store.counters b ((store.counters b).set counter value)⟩

theorem get_set (b b' : Bucket) (counter counter' : String) (value : Int) :
    (store.set b counter value).get b' counter' =
      if b' = b ∧ counter' = counter then some value else store.get b' counter' := by
  unfold get set
  dsimp only
  by_cases hb : b' = b
  · rw [hb, Function.update_self, Counters.get_set]
    simp only [true_and]
  · rw [Function.update_of_ne hb, if_neg (fun h => hb h.1)]

/-- `increment`. -/
def increment (b : Bucket) (counter : String) (amount : Int) : MetricsStore :=
  store.set b counter ((store.get b counter).getD 0 + amount)

/-- The bucket of a metric event, and the field of its data that names the counter. -/
def eventBucket : String → Option (Bucket × String)
  | "alert_ingested" => some (.alertIngested, "source")
  | "route_matched" => some (.routeCounts, "route")
  | "dlq_enqueued" => some (.dlqCounts, "reason")
  | "runbook_success" => some (.runbookSuccess, "runbook")
  | "runbook_error" => some (.runbookError, "runbook")
  | "containment_executed" => some (.containmentExecuted, "action")
  | "event_normalized" => some (.normalizationCounts, "source_type")
  | _ => none

/-- `record_event`, on data whose fields are texts. -/
def recordEvent (event : String) (data : StrDict) : MetricsStore :=
  match eventBucket event with
  | some (b, label) => store.increment b ((data.items.lookup label).getD "unknown") 1
  | none => store

end MetricsStore

/-! ## The table -/

structure MetricRow where
  key : String
  value : Int
  updatedAt : String

def MetricRow.overwrite (new old : MetricRow) : MetricRow := { old with value := new.value, updatedAt := new.updatedAt }

/-- The value under a key. -/
def rowsValue (rows : List MetricRow) (key : String) : Option Int :=
  (rows.find? fun row => decide (row.key = key)).map MetricRow.value

/-- Each row's key packs a bucket and a counter. -/
def Packed (rows : List MetricRow) : Prop := ∀ row ∈ rows, ∃ (b : Bucket) (counter : String), row.key = b.key counter

theorem rowsValue_cons (row : MetricRow) (rows : List MetricRow) (key : String) :
    rowsValue (row :: rows) key = if key = row.key then some row.value else rowsValue rows key := by
  unfold rowsValue
  rw [List.find?_cons]
  by_cases hkey : key = row.key
  · rw [if_pos hkey, decide_eq_true hkey.symm]
    rfl
  · rw [if_neg hkey, decide_eq_false (Ne.symm hkey)]

theorem mem_of_rowsValue {key : String} {value : Int} : ∀ {rows : List MetricRow}, rowsValue rows key = some value →
    ∃ row ∈ rows, row.key = key ∧ row.value = value
  | row :: rows, h => by
    rw [rowsValue_cons] at h
    by_cases hkey : key = row.key
    · rw [if_pos hkey] at h
      exact ⟨row, List.mem_cons_self, hkey.symm, Option.some.inj h⟩
    · rw [if_neg hkey] at h
      obtain ⟨row', hrow', hvalue⟩ := mem_of_rowsValue h
      exact ⟨row', List.mem_cons_of_mem row hrow', hvalue⟩

theorem rowsValue_of_mem : ∀ {rows : List MetricRow} {row : MetricRow}, (rows.map MetricRow.key).Nodup → row ∈ rows →
    rowsValue rows row.key = some row.value
  | row' :: rows, row, hnodup, hrow => by
    rw [List.map_cons, List.nodup_cons] at hnodup
    rw [rowsValue_cons]
    rcases List.mem_cons.1 hrow with rfl | hrow
    · exact if_pos rfl
    · have hne : ¬ row.key = row'.key := fun h => hnodup.1 (h ▸ List.mem_map_of_mem hrow)
      rw [if_neg hne, rowsValue_of_mem hnodup.2 hrow]

theorem rowsValue_eq_none {rows : List MetricRow} {key : String} (h : key ∉ rows.map MetricRow.key) :
    rowsValue rows key = none := by
  cases hvalue : rowsValue rows key with
  | none => rfl
  | some value =>
    obtain ⟨row, hrow, hkey, -⟩ := mem_of_rowsValue hvalue
    exact absurd (hkey ▸ List.mem_map_of_mem hrow) h

/-- Rows of distinct keys have their values whatever order they come in. -/
theorem rowsValue_perm {rows rows' : List MetricRow} (hnodup : (rows.map MetricRow.key).Nodup) (h : rows'.Perm rows)
    (key : String) : rowsValue rows' key = rowsValue rows key := by
  have hnodup' : (rows'.map MetricRow.key).Nodup := (h.map MetricRow.key).nodup_iff.2 hnodup
  apply Option.ext
  intro value
  constructor
  · intro hvalue
    obtain ⟨row, hrow, rfl, rfl⟩ := mem_of_rowsValue hvalue
    exact rowsValue_of_mem hnodup (h.mem_iff.1 hrow)
  · intro hvalue
    obtain ⟨row, hrow, rfl, rfl⟩ := mem_of_rowsValue hvalue
    exact rowsValue_of_mem hnodup' (h.mem_iff.2 hrow)

structure MetricsDb where
  rows : List MetricRow
  keys : (rows.map MetricRow.key).Nodup

namespace MetricsDb

def empty : MetricsDb := ⟨[], List.nodup_nil⟩

variable (db : MetricsDb)

/-- `INSERT .. ON CONFLICT(key) DO UPDATE SET value, updated_at`. -/
def write (row : MetricRow) : MetricsDb where
  rows := Table.upsert MetricRow.key row.key row.overwrite row db.rows
  keys := Table.nodup_upsert (fun _ => rfl) id db.keys

/-- `executemany`. -/
def writeAll (rows : List MetricRow) : MetricsDb := rows.foldl write db

def value (key : String) : Option Int := rowsValue db.rows key

theorem value_write (row : MetricRow) (key : String) :
    (db.write row).value key = if key = row.key then some row.value else db.value key := by
  by_cases hkey : key = row.key
  · rw [if_pos hkey]
    have hmem : key ∈ (db.write row).rows.map MetricRow.key :=
      (Table.mem_keys_upsert (f := row.overwrite) (fun _ => rfl) rfl key).2 (Or.inl hkey)
    obtain ⟨row', hrow', rfl⟩ := List.mem_map.1 hmem
    unfold value
    rw [rowsValue_of_mem (db.write row).keys hrow']
    rcases Table.mem_upsert hrow' with ⟨-, hne⟩ | ⟨r, -, -, rfl⟩ | ⟨-, rfl⟩
    · exact absurd hkey hne
    · rfl
    · rfl
  · rw [if_neg hkey]
    apply Option.ext
    intro v
    constructor
    · intro hv
      obtain ⟨row', hrow', rfl, rfl⟩ := mem_of_rowsValue hv
      rcases Table.mem_upsert hrow' with ⟨hmem, -⟩ | ⟨r, -, hr, rfl⟩ | ⟨-, rfl⟩
      · exact rowsValue_of_mem db.keys hmem
      · exact absurd hr hkey
      · exact absurd rfl hkey
    · intro hv
      obtain ⟨row', hrow', rfl, rfl⟩ := mem_of_rowsValue hv
      have hmem : row' ∈ (db.write row).rows := by
        have h := @Table.exists_mem_upsert _ _ _ MetricRow.key row.key row.overwrite row db.rows row' hrow'
        rw [if_neg hkey] at h
        exact h
      exact rowsValue_of_mem (db.write row).keys hmem

/-- **What is written wins**, and what is not stays. -/
theorem value_writeAll (key : String) : ∀ (rows : List MetricRow) (db : MetricsDb), (rows.map MetricRow.key).Nodup →
    (db.writeAll rows).value key = (rowsValue rows key).or (db.value key)
  | [], _, _ => rfl
  | row :: rows, db, hnodup => by
    rw [List.map_cons, List.nodup_cons] at hnodup
    have ih := value_writeAll key rows (db.write row) hnodup.2
    rw [value_write] at ih
    unfold writeAll at ih ⊢
    rw [List.foldl_cons, ih, rowsValue_cons]
    by_cases hkey : key = row.key
    · rw [if_pos hkey, if_pos hkey, rowsValue_eq_none (hkey ▸ hnodup.1)]
      rfl
    · rw [if_neg hkey, if_neg hkey]

end MetricsDb

namespace MetricsStore

variable (store : MetricsStore)

/-- The rows `_save_to_db` writes of a snapshot. -/
def snapshot (now : String) : List MetricRow :=
  Bucket.members.flatMap fun b => (store.counters b).items.map fun p => ⟨b.key p.1, p.2, now⟩

/-- One row of `_load_from_db`. -/
def loadRow (row : MetricRow) : MetricsStore :=
  match Bucket.byName? (String.ofList (partition ':' row.key.toList).1) with
  | some b => store.set b (String.ofList (partition ':' row.key.toList).2) row.value
  | none => store

theorem mem_snapshot {now : String} {row : MetricRow} : row ∈ store.snapshot now ↔
    ∃ b, ∃ p ∈ (store.counters b).items, row = ⟨b.key p.1, p.2, now⟩ := by
  unfold snapshot
  rw [List.mem_flatMap]
  constructor
  · rintro ⟨b, -, hrow⟩
    obtain ⟨p, hp, rfl⟩ := List.mem_map.1 hrow
    exact ⟨b, p, hp, rfl⟩
  · rintro ⟨b, p, hp, rfl⟩
    exact ⟨b, b.mem_members, List.mem_map_of_mem hp⟩

theorem packed_snapshot (now : String) : Packed (store.snapshot now) := by
  intro row hrow
  obtain ⟨b, p, -, rfl⟩ := store.mem_snapshot.1 hrow
  exact ⟨b, p.1, rfl⟩

theorem nodup_snapshot (now : String) : ((store.snapshot now).map MetricRow.key).Nodup := by
  unfold snapshot
  rw [List.map_flatMap, List.nodup_flatMap]
  constructor
  · intro b _
    have hkeys : ((store.counters b).items.map fun p => (⟨b.key p.1, p.2, now⟩ : MetricRow)).map MetricRow.key =
        ((store.counters b).items.map Prod.fst).map b.key := by
      rw [List.map_map, List.map_map]
      rfl
    rw [hkeys]
    exact (store.counters b).nodup.map fun _ _ h => (Bucket.key_injective h).2
  · have hmembers : Bucket.members.Nodup := by decide
    refine hmembers.imp fun {b b'} hne => ?_
    apply List.disjoint_left.2
    intro key hkey hkey'
    simp only [List.map_map, List.mem_map, Function.comp_apply] at hkey hkey'
    obtain ⟨p, -, rfl⟩ := hkey
    obtain ⟨p', -, hp'⟩ := hkey'
    exact hne (Bucket.key_injective hp').1.symm

/-- **A snapshot has each counter's value under its key.** -/
theorem rowsValue_snapshot (now : String) (b : Bucket) (counter : String) :
    rowsValue (store.snapshot now) (b.key counter) = store.get b counter := by
  apply Option.ext
  intro v
  constructor
  · intro hv
    obtain ⟨row, hrow, hkey, rfl⟩ := mem_of_rowsValue hv
    obtain ⟨b', p, hp, rfl⟩ := store.mem_snapshot.1 hrow
    obtain ⟨rfl, rfl⟩ := Bucket.key_injective hkey
    exact Json.lookup_of_mem (store.counters b').nodup hp
  · intro hv
    have hrow : (⟨b.key counter, v, now⟩ : MetricRow) ∈ store.snapshot now :=
      store.mem_snapshot.2 ⟨b, (counter, v), Json.mem_of_lookup hv, rfl⟩
    exact rowsValue_of_mem (store.nodup_snapshot now) hrow

theorem loadRow_eq {row : MetricRow} {b : Bucket} {counter : String} (h : row.key = b.key counter) :
    store.loadRow row = store.set b counter row.value := by
  unfold loadRow
  rw [h, Bucket.partition_key, String.ofList_toList, String.ofList_toList, Bucket.byName?_name]

/-- **Loading reads each row into the counter its key packs.** -/
theorem get_load (b : Bucket) (counter : String) : ∀ (rows : List MetricRow) (store : MetricsStore), Packed rows →
    (rows.map MetricRow.key).Nodup →
    (rows.foldl loadRow store).get b counter = (rowsValue rows (b.key counter)).or (store.get b counter)
  | [], _, _, _ => rfl
  | row :: rows, store, hpacked, hnodup => by
    rw [List.map_cons, List.nodup_cons] at hnodup
    obtain ⟨b', counter', hkey⟩ := hpacked row List.mem_cons_self
    have hrest : Packed rows := fun r hr => hpacked r (List.mem_cons_of_mem row hr)
    rw [List.foldl_cons, get_load b counter rows _ hrest hnodup.2, loadRow_eq store hkey, get_set, rowsValue_cons]
    by_cases h : b.key counter = row.key
    · obtain ⟨rfl, rfl⟩ := Bucket.key_injective (h.trans hkey)
      rw [if_pos h, if_pos ⟨rfl, rfl⟩, h, rowsValue_eq_none hnodup.1]
      rfl
    · have hne : ¬ (b = b' ∧ counter = counter') := by
        rintro ⟨rfl, rfl⟩
        exact h hkey.symm
      rw [if_neg h, if_neg hne]

end MetricsStore

/-! ## Saves and restarts -/

/-- The order `SELECT` gives rows in, which nothing says. -/
structure Scan where
  select : List MetricRow → List MetricRow
  perm : ∀ rows, (select rows).Perm rows

def Scan.stored : Scan := ⟨id, fun _ => List.Perm.refl _⟩

namespace MetricsDb

variable (db : MetricsDb)

/-- `_save_to_db`. -/
def save (store : MetricsStore) (now : String) : MetricsDb := db.writeAll (store.snapshot now)

/-- `_load_from_db`, into a store that has just been made. -/
def load (scan : Scan) : MetricsStore := (scan.select db.rows).foldl MetricsStore.loadRow .empty

theorem value_save (store : MetricsStore) (now : String) (b : Bucket) (counter : String) :
    (db.save store now).value (b.key counter) = (store.get b counter).or (db.value (b.key counter)) := by
  rw [save, value_writeAll _ _ db (store.nodup_snapshot now), store.rowsValue_snapshot]

variable {db}

theorem get_load (hpacked : Packed db.rows) (scan : Scan) (b : Bucket) (counter : String) :
    (db.load scan).get b counter = db.value (b.key counter) := by
  have hperm := scan.perm db.rows
  have hpacked' : Packed (scan.select db.rows) := fun row hrow => hpacked row (hperm.mem_iff.1 hrow)
  have hnodup : ((scan.select db.rows).map MetricRow.key).Nodup := (hperm.map MetricRow.key).nodup_iff.2 db.keys
  rw [load, MetricsStore.get_load b counter _ _ hpacked' hnodup, rowsValue_perm db.keys hperm]
  exact Option.or_none

end MetricsDb

/-- A store, its database file, the counters at the last completed save, and which have ever been saved. -/
structure MetricsHistory where
  store : MetricsStore
  db : MetricsDb
  saved : Bucket → String → Option Int
  everSaved : Bucket → String → Prop

namespace MetricsHistory

/-- A store on a new file. -/
def start : MetricsHistory := ⟨.empty, .empty, fun _ _ => none, fun _ _ => False⟩

inductive Op where
  | record (event : String) (data : StrDict)
  | save (now : String)
  | restart (scan : Scan)

variable (h : MetricsHistory)

def step : Op → MetricsHistory
  | .record event data => { h with store := h.store.recordEvent event data }
  | .save now => { h with
      db := h.db.save h.store now
      saved := h.store.get
      everSaved := fun b counter => h.everSaved b counter ∨ (h.store.get b counter).isSome = true }
  | .restart scan => { h with store := h.db.load scan }

/-- A restart gives every counter of every bucket its value at the last completed save, and loses none that was ever
saved. -/
def Survives : Prop := ∀ (scan : Scan) (b : Bucket) (counter : String),
  (h.step (.restart scan)).store.get b counter = h.saved b counter ∧
    (h.everSaved b counter → ((h.step (.restart scan)).store.get b counter).isSome = true)

/-- The table is the last save, and the store has no fewer counters. -/
structure Saved : Prop where
  packed : Packed h.db.rows
  value : ∀ b counter, h.db.value (Bucket.key b counter) = h.saved b counter
  ever : ∀ b counter, h.everSaved b counter → (h.saved b counter).isSome = true
  kept : ∀ b counter, (h.saved b counter).isSome = true → (h.store.get b counter).isSome = true

variable {h}

theorem isSome_recordEvent (store : MetricsStore) (event : String) (data : StrDict) {b : Bucket} {counter : String}
    (hsome : (store.get b counter).isSome = true) : ((store.recordEvent event data).get b counter).isSome = true := by
  unfold MetricsStore.recordEvent
  split
  · rw [MetricsStore.increment, MetricsStore.get_set]
    split
    · rfl
    · exact hsome
  · exact hsome

theorem packed_writeAll : ∀ {rows : List MetricRow} {db : MetricsDb}, Packed rows → Packed db.rows →
    Packed (db.writeAll rows).rows
  | [], _, _, hdb => hdb
  | row :: rows, db, hrows, hdb => by
    have hwrite : Packed (db.write row).rows := by
      intro row' hrow'
      rcases Table.mem_upsert hrow' with ⟨hmem, -⟩ | ⟨r, hr, -, rfl⟩ | ⟨-, rfl⟩
      · exact hdb row' hmem
      · exact hdb r hr
      · exact hrows row' List.mem_cons_self
    have hrest : Packed rows := fun r hr => hrows r (List.mem_cons_of_mem row hr)
    exact @packed_writeAll rows (db.write row) hrest hwrite

/-- **Every operation keeps the table the last save.** -/
theorem saved_step (op : Op) (hs : Saved h) : Saved (h.step op) := by
  cases op with
  | record event data =>
    exact ⟨hs.packed, hs.value, hs.ever, fun b counter hsome => isSome_recordEvent _ _ _ (hs.kept b counter hsome)⟩
  | save now =>
    refine ⟨packed_writeAll (h.store.packed_snapshot now) hs.packed, fun b counter => ?_, ?_, fun _ _ hsome => hsome⟩
    · change (h.db.save h.store now).value (b.key counter) = h.store.get b counter
      rw [MetricsDb.value_save, hs.value]
      cases hget : h.store.get b counter with
      | some v => rfl
      | none =>
        cases hsaved : h.saved b counter with
        | none => rfl
        | some v =>
          have hkept := hs.kept b counter (by rw [hsaved]; rfl)
          rw [hget] at hkept
          cases hkept
    · rintro b counter (hever | hsome)
      · exact hs.kept b counter (hs.ever b counter hever)
      · exact hsome
  | restart scan =>
    refine ⟨hs.packed, hs.value, hs.ever, fun b counter hsome => ?_⟩
    change ((h.db.load scan).get b counter).isSome = true
    rw [MetricsDb.get_load hs.packed, hs.value]
    exact hsome

theorem Saved.survives (hs : Saved h) : Survives h := by
  intro scan b counter
  have hget : (h.step (.restart scan)).store.get b counter = h.saved b counter := by
    change (h.db.load scan).get b counter = _
    rw [MetricsDb.get_load hs.packed, hs.value]
  refine ⟨hget, fun hever => ?_⟩
  rw [hget]
  exact hs.ever b counter hever

theorem saved_start : Saved start := ⟨nofun, fun _ _ => rfl, fun _ _ => False.elim, nofun⟩

theorem saved_after (ops : List Op) : Saved (Run.after step start ops) :=
  (Run.always_of_each (fun _ op hs _ => saved_step op hs) ops saved_start
    (Run.each_of_forall (fun _ _ => trivial) ops start)).last

/-- **Counters survive restarts exactly**, at every point of every sequence of events, saves and restarts. -/
theorem counters_survive (ops : List Op) : Run.Always step Survives start ops :=
  fun pre _ => (saved_after pre).survives

end MetricsHistory
end Tengen
