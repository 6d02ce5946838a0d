import PageOutline.Pass.Registry
import Mathlib.Data.List.Nodup
import Mathlib.Data.List.Basic
import Mathlib.Data.List.Induction
import Mathlib.Tactic.ByContra

namespace PageOutline

namespace OrderedMap

variable {α : Type}

theorem keys_putEntry (key : String) (value : α) (es : List (String × α)) :
    (putEntry key value es).map Prod.fst =
      if key ∈ es.map Prod.fst then es.map Prod.fst else es.map Prod.fst ++ [key] := by
  induction es with
  | nil => rfl
  | cons e es ih =>
    obtain ⟨k, v⟩ := e
    by_cases hk : k = key
    · simp [putEntry, hk]
    · have hk' : ¬key = k := fun h ↦ hk h.symm
      by_cases hm : key ∈ es.map Prod.fst <;>
        simp only [putEntry, hk, hk', hm, ih, if_false, if_true, List.map_cons, List.mem_cons,
          or_true, or_false, List.cons_append]

theorem find?_putEntry (key k : String) (value : α) (es : List (String × α)) :
    ((putEntry key value es).find? (·.1 == k)).map Prod.snd =
      if k = key then some value else (es.find? (·.1 == k)).map Prod.snd := by
  induction es with
  | nil =>
    by_cases hk : key = k
    · simp [putEntry, hk]
    · have hk' : ¬k = key := fun h ↦ hk h.symm
      simp [putEntry, hk, hk']
  | cons e es ih =>
    obtain ⟨l, v⟩ := e
    by_cases hl : l = key <;> by_cases hk : l = k
    · simp [putEntry, ← hl, ← hk]
    · simp [putEntry, ← hl, hk, Ne.symm hk]
    · have hk' : ¬k = key := fun h ↦ hl (hk.trans h)
      simp [putEntry, hk, hk']
    · simpa [putEntry, hl, hk] using ih

@[simp] theorem keys_empty : (∅ : OrderedMap α).keys = [] := rfl

@[simp] theorem get?_empty (k : String) : (∅ : OrderedMap α).get? k = none := rfl

theorem keys_insert (m : OrderedMap α) (key : String) (value : α) :
    (m.insert key value).keys = if key ∈ m.keys then m.keys else m.keys ++ [key] :=
  keys_putEntry key value m.entries

@[simp] theorem get?_insert (m : OrderedMap α) (key k : String) (value : α) :
    (m.insert key value).get? k = if k = key then some value else m.get? k :=
  find?_putEntry key k value m.entries

@[simp] theorem mem_keys_insert {m : OrderedMap α} {key k : String} {value : α} :
    k ∈ (m.insert key value).keys ↔ k = key ∨ k ∈ m.keys :=
  mem_keys_putEntry

theorem nodup_keys (m : OrderedMap α) : m.keys.Nodup := m.nodup

theorem get?_eq_none_iff {m : OrderedMap α} {k : String} : m.get? k = none ↔ k ∉ m.keys := by
  simp only [get?, keys, Option.map_eq_none_iff, List.find?_eq_none, List.mem_map, beq_iff_eq]
  exact ⟨fun h ⟨e, he, hk⟩ ↦ h e he hk, fun h e he hk ↦ h ⟨e, he, hk⟩⟩

theorem mem_of_get? {m : OrderedMap α} {k : String} {v : α} (h : m.get? k = some v) :
    (k, v) ∈ m.entries := by
  obtain ⟨e, he, rfl⟩ := Option.map_eq_some_iff.1 h
  have hk : e.1 = k := by simpa using List.find?_some he
  exact hk ▸ List.mem_of_find?_eq_some he

theorem get?_of_mem {m : OrderedMap α} {k : String} {v : α} (h : (k, v) ∈ m.entries) :
    m.get? k = some v := by
  obtain ⟨w, hw⟩ : ∃ w, m.get? k = some w := by
    refine Option.ne_none_iff_exists'.1 fun hn ↦ get?_eq_none_iff.1 hn ?_
    exact List.mem_map.2 ⟨_, h, rfl⟩
  have hpair := List.inj_on_of_nodup_map m.nodup h (mem_of_get? hw) rfl
  rw [hw, (Prod.mk.inj hpair).2]

theorem forall_mem_insert {m : OrderedMap α} {key : String} {value : α} {P : String × α → Prop}
    (hm : ∀ e ∈ m.entries, P e) (h : P (key, value)) : ∀ e ∈ (m.insert key value).entries, P e := by
  rintro ⟨k, v⟩ he
  have hg := get?_of_mem he
  rw [get?_insert] at hg
  split at hg
  · obtain rfl := Option.some.inj hg
    exact ‹k = key› ▸ h
  · exact hm _ (mem_of_get? hg)

/-- Keys in their order and look-ups together determine a map. -/
theorem ext_get? {m n : OrderedMap α} (hk : m.keys = n.keys)
    (hg : ∀ k, m.get? k = n.get? k) : m = n := by
  have hentries (p : OrderedMap α) : p.entries.map (fun e ↦ (e.1, p.get? e.1)) =
      p.entries.map fun e ↦ (e.1, some e.2) :=
    List.map_congr_left fun e he ↦ by rw [get?_of_mem (k := e.1) (v := e.2) he]
  have hkeys (p : OrderedMap α) : p.entries.map (fun e ↦ (e.1, p.get? e.1)) =
      p.keys.map fun k ↦ (k, p.get? k) := by
    simp only [keys, List.map_map, Function.comp_def]
  have hsame : m.entries.map (fun e ↦ (e.1, some e.2)) = n.entries.map fun e ↦ (e.1, some e.2) := by
    rw [← hentries m, ← hentries n, hkeys, hkeys, hk]
    simp only [hg]
  have hinj : Function.Injective fun e : String × α ↦ (e.1, some e.2) := by
    rintro ⟨k, v⟩ ⟨l, w⟩ h
    simpa using h
  exact ext (List.map_injective_iff.2 hinj hsame)

/-- The lower map with the values of the upper one, and behind it the keys that only the upper one
has. -/
def overlay (lower upper : OrderedMap α) : OrderedMap α where
  entries := lower.entries.map (fun e ↦ (e.1, (upper.get? e.1).getD e.2)) ++
    upper.entries.filter fun e ↦ e.1 ∉ lower.keys
  nodup := by
    rw [List.map_append, List.map_map, List.nodup_append]
    refine ⟨lower.nodup, upper.nodup.sublist (List.filter_sublist.map _), ?_⟩
    rintro k hk _ hl rfl
    obtain ⟨e, he, rfl⟩ := List.mem_map.1 hl
    have hn : e.1 ∉ lower.keys := by simpa using (List.mem_filter.1 he).2
    exact hn hk

theorem keys_overlay (m p : OrderedMap α) :
    (m.overlay p).keys = m.keys ++ p.keys.filter (· ∉ m.keys) := by
  simp only [keys, overlay, List.map_append, List.map_map, List.filter_map, Function.comp_def]

@[simp] theorem mem_keys_overlay {m p : OrderedMap α} {k : String} :
    k ∈ (m.overlay p).keys ↔ k ∈ m.keys ∨ k ∈ p.keys := by
  by_cases hk : k ∈ m.keys <;> simp [keys_overlay, hk]

@[simp] theorem get?_overlay (m p : OrderedMap α) (k : String) :
    (m.overlay p).get? k = (p.get? k).or (m.get? k) := by
  cases hm : m.get? k with
  | some v =>
    have hmem := List.mem_map_of_mem (f := fun e ↦ (e.1, (p.get? e.1).getD e.2)) (mem_of_get? hm)
    rw [get?_of_mem (m := m.overlay p) (List.mem_append_left _ hmem)]
    cases p.get? k <;> rfl
  | none =>
    have hk := get?_eq_none_iff.1 hm
    cases hp : p.get? k with
    | none =>
      rw [Option.or_none, get?_eq_none_iff, mem_keys_overlay]
      exact not_or.2 ⟨hk, get?_eq_none_iff.1 hp⟩
    | some v =>
      exact get?_of_mem (List.mem_append_right _
        (List.mem_filter.2 ⟨mem_of_get? hp, by simpa using hk⟩))

@[simp] theorem overlay_empty (m : OrderedMap α) : m.overlay ∅ = m :=
  ext_get? (by simp [keys_overlay]) (by simp)

theorem overlay_insert (m p : OrderedMap α) (key : String) (value : α) :
    m.overlay (p.insert key value) = (m.overlay p).insert key value := by
  refine ext_get? ?_ fun k ↦ ?_
  · by_cases hm : key ∈ m.keys <;> by_cases hp : key ∈ p.keys <;>
      simp [keys_overlay, keys_insert, hm, hp]
  · by_cases hk : k = key <;> simp [hk]

theorem overlay_assoc (m p q : OrderedMap α) :
    (m.overlay p).overlay q = m.overlay (p.overlay q) := by
  refine ext_get? ?_ fun k ↦ by simp [Option.or_assoc]
  simp only [keys_overlay, List.filter_append, List.append_assoc, List.filter_filter]
  congr 2
  refine List.filter_congr fun k _ ↦ ?_
  by_cases hm : k ∈ m.keys <;> by_cases hp : k ∈ p.keys <;> simp [hm, hp]

@[simp] theorem overlay_self (m : OrderedMap α) : m.overlay m = m := by
  refine ext_get? ?_ fun k ↦ by simp
  have hempty : m.keys.filter (· ∉ m.keys) = [] := by simp
  rw [keys_overlay, hempty, List.append_nil]

theorem eraseDups_eq_self {l : List String} (h : l.Nodup) : l.eraseDups = l := by
  induction l with
  | nil => rfl
  | cons a l ih =>
    rw [List.nodup_cons] at h
    have hrest : l.filter (fun b ↦ !b == a) = l :=
      List.filter_eq_self.2 fun b hb ↦ by simpa using fun hba : b = a ↦ h.1 (hba ▸ hb)
    rw [List.eraseDups_cons, hrest, ih h.2]

theorem eraseDups_concat (l : List String) (a : String) :
    (l ++ [a]).eraseDups = if a ∈ l then l.eraseDups else l.eraseDups ++ [a] := by
  rw [List.eraseDups_append]
  by_cases h : a ∈ l <;> simp [h, List.removeAll, List.eraseDups_cons]

theorem keys_foldl_insert (m : OrderedMap α) (pairs : List (String × α)) :
    (pairs.foldl (fun m e ↦ m.insert e.1 e.2) m).keys =
      (m.keys ++ pairs.map Prod.fst).eraseDups := by
  induction pairs using List.reverseRecOn with
  | nil =>
    rw [List.map_nil, List.append_nil, eraseDups_eq_self m.nodup_keys]
    rfl
  | append_singleton pairs e ih =>
    rw [List.foldl_concat, keys_insert, ih, List.map_append, List.map_singleton,
      ← List.append_assoc, eraseDups_concat]
    simp only [List.mem_eraseDups]

theorem get?_foldl_insert (m : OrderedMap α) (pairs : List (String × α)) (key : String) :
    (pairs.foldl (fun m e ↦ m.insert e.1 e.2) m).get? key =
      ((pairs.findRev? (·.1 == key)).map Prod.snd).or (m.get? key) := by
  induction pairs using List.reverseRecOn with
  | nil => rfl
  | append_singleton pairs e ih =>
    rw [List.foldl_concat, get?_insert, ih, List.findRev?_eq_find?_reverse,
      List.findRev?_eq_find?_reverse, List.reverse_append, List.reverse_singleton,
      List.singleton_append, List.find?_cons]
    by_cases h : key = e.1
    · simp [h]
    · have hbeq : (e.1 == key) = false := beq_false_of_ne (Ne.symm h)
      simp [h, hbeq]

theorem keys_overlay_eq_eraseDups (m p : OrderedMap α) :
    (m.overlay p).keys = (m.keys ++ p.keys).eraseDups := by
  have hrest : (p.keys.removeAll m.keys).Nodup := p.nodup_keys.filter _
  rw [List.eraseDups_append, eraseDups_eq_self m.nodup_keys, eraseDups_eq_self hrest, keys_overlay]
  congr 1
  exact List.filter_congr fun k _ ↦ by simp

theorem keys_foldl_overlay (m : OrderedMap α) (layers : List (OrderedMap α)) :
    (layers.foldl overlay m).keys = (m.keys ++ layers.flatMap keys).eraseDups := by
  induction layers generalizing m with
  | nil =>
    rw [List.flatMap_nil, List.append_nil, eraseDups_eq_self m.nodup_keys]
    rfl
  | cons p layers ih =>
    have hmem : (layers.flatMap keys).removeAll (m.overlay p).keys =
        (layers.flatMap keys).removeAll (m.keys ++ p.keys) :=
      List.filter_congr fun k _ ↦ by simp
    rw [List.foldl_cons, ih, List.eraseDups_append, hmem,
      eraseDups_eq_self (m.overlay p).nodup_keys, keys_overlay_eq_eraseDups,
      ← List.eraseDups_append, List.flatMap_cons, List.append_assoc]

theorem get?_foldl_overlay (m : OrderedMap α) (layers : List (OrderedMap α)) (k : String) :
    (layers.foldl overlay m).get? k =
      (layers.reverse.findSome? (·.get? k)).or (m.get? k) := by
  induction layers generalizing m with
  | nil => rfl
  | cons p layers ih =>
    rw [List.foldl_cons, ih, get?_overlay, List.reverse_cons, List.findSome?_append,
      Option.or_assoc]
    congr 1
    cases hp : p.get? k <;> simp [hp]

end OrderedMap

end PageOutline
