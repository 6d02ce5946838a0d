namespace PageOutline

variable {α β : Type}

def putEntry (key : String) (value : α) : List (String × α) → List (String × α)
  | [] => [(key, value)]
  | (k, v) :: rest => if k = key then (k, value) :: rest else (k, v) :: putEntry key value rest

theorem mem_keys_putEntry {key k : String} {value : α} {es : List (String × α)} :
    k ∈ (putEntry key value es).map Prod.fst ↔ k = key ∨ k ∈ es.map Prod.fst := by
  induction es with
  | nil => simp [putEntry]
  | cons e es ih =>
    obtain ⟨l, v⟩ := e
    by_cases h : l = key
    · subst h; simp [putEntry]
    · simp only [putEntry, h, if_false, List.map_cons, List.mem_cons, ih]
      exact or_left_comm

theorem nodup_keys_putEntry {key : String} {value : α} {es : List (String × α)}
    (h : (es.map Prod.fst).Nodup) : ((putEntry key value es).map Prod.fst).Nodup := by
  induction es with
  | nil => simp [putEntry]
  | cons e es ih =>
    obtain ⟨l, v⟩ := e
    rw [List.map_cons, List.nodup_cons] at h
    by_cases hl : l = key
    · subst hl; simpa [putEntry] using h
    · simp only [putEntry, hl, if_false, List.map_cons, List.nodup_cons]
      refine ⟨fun hm ↦ ?_, ih h.2⟩
      exact (mem_keys_putEntry.1 hm).elim hl h.1

/-- A map from texts in insertion order. -/
structure OrderedMap (α : Type) where
  entries : List (String × α)
  nodup : (entries.map Prod.fst).Nodup

namespace OrderedMap

def empty : OrderedMap α := ⟨[], List.nodup_nil⟩

instance : EmptyCollection (OrderedMap α) := ⟨empty⟩
instance : Inhabited (OrderedMap α) := ⟨empty⟩

@[ext] theorem ext {m n : OrderedMap α} (h : m.entries = n.entries) : m = n := by
  cases m; cases n; cases h; rfl

instance [DecidableEq α] : DecidableEq (OrderedMap α) := fun m n ↦
  decidable_of_iff (m.entries = n.entries) ⟨ext, fun h ↦ h ▸ rfl⟩

def insert (m : OrderedMap α) (key : String) (value : α) : OrderedMap α :=
  ⟨putEntry key value m.entries, nodup_keys_putEntry m.nodup⟩

/-- Inserts the pairs in order: the last value of a repeated key stands at its first place. -/
def ofList (pairs : List (String × α)) : OrderedMap α :=
  pairs.foldl (fun m pair ↦ m.insert pair.1 pair.2) ∅

def get? (m : OrderedMap α) (key : String) : Option α :=
  (m.entries.find? (·.1 == key)).map Prod.snd

def contains (m : OrderedMap α) (key : String) : Bool :=
  (m.get? key).isSome

def keys (m : OrderedMap α) : List String := m.entries.map Prod.fst

def size (m : OrderedMap α) : Nat := m.entries.length

def isEmpty (m : OrderedMap α) : Bool := m.entries.isEmpty

end OrderedMap

def sortEntries (pairs : List (String × α)) : List (String × α) :=
  (OrderedMap.ofList pairs).entries.mergeSort fun a b ↦ a.1 ≤ b.1

end PageOutline
