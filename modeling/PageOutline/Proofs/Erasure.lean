import PageOutline.Proofs.Attributes

namespace PageOutline

open Text (asciiLower)

namespace OrderedMap

variable {α : Type} {names : List String}

def erase (names : List String) (m : OrderedMap α) : OrderedMap α where
  entries := m.entries.filter fun e ↦ e.1 ∉ names
  nodup := m.nodup.sublist (List.filter_sublist.map _)

theorem keys_erase (m : OrderedMap α) : (m.erase names).keys = m.keys.filter (· ∉ names) := by
  simp only [keys, erase, List.filter_map, Function.comp_def]

theorem get?_erase (m : OrderedMap α) (k : String) :
    (m.erase names).get? k = if k ∈ names then none else m.get? k := by
  by_cases hk : k ∈ names
  · rw [if_pos hk, get?_eq_none_iff, keys_erase]
    simp [hk]
  · rw [if_neg hk]
    cases hm : m.get? k with
    | none =>
      rw [get?_eq_none_iff] at hm ⊢
      rw [keys_erase]
      exact fun hmem ↦ hm (List.mem_of_mem_filter hmem)
    | some v => exact get?_of_mem (List.mem_filter.2 ⟨mem_of_get? hm, by simpa using hk⟩)

theorem erase_overlay {m p : OrderedMap α} (h : ∀ k ∈ p.keys, k ∈ names) :
    (m.overlay p).erase names = m.erase names := by
  refine ext_get? ?_ fun k ↦ ?_
  · have hnone : (p.keys.filter (· ∉ m.keys)).filter (· ∉ names) = [] := by
      refine List.filter_eq_nil_iff.2 fun k hk ↦ ?_
      simpa using h k (List.mem_of_mem_filter hk)
    rw [keys_erase, keys_erase, keys_overlay, List.filter_append, hnone, List.append_nil]
  · by_cases hk : k ∈ names
    · simp only [get?_erase, hk, if_true]
    · have hp : p.get? k = none := get?_eq_none_iff.2 fun hm ↦ hk (h k hm)
      simp only [get?_erase, hk, if_false, get?_overlay, hp, Option.none_or]

end OrderedMap

namespace Document

variable {names : List String} {d e : Document}

def erase (names : List String) (d : Document) : Document :=
  d.mapAttributes fun _ m ↦ m.erase names

theorem onlyChanges_erase (names : List String) :
    OnlyChanges names fun _ m ↦ m.erase names := by
  intro _ m name hname
  rw [OrderedMap.get?_erase, if_neg hname]

theorem reply_congr (h : d.erase names = e.erase names) (hid : "id" ∉ names)
    (hclass : "class" ∉ names) (q : Question) (hq : q.Avoids names) : d.reply q = e.reply q := by
  have hd := reply_mapAttributes (onlyChanges_erase names) d hid hclass q hq
  have he := reply_mapAttributes (onlyChanges_erase names) e hid hclass q hq
  rw [← hd, ← he]
  exact congrArg (reply · q) h

/-- The document with tags laid over the attributes of its elements. -/
def overlay (d : Document) (tags : NodeId → OrderedMap String) : Document :=
  d.mapAttributes fun id m ↦ m.overlay (tags id)

theorem overlay_empty (d : Document) : d.overlay (fun _ ↦ ∅) = d := by
  refine ext_node? rfl fun id ↦ ?_
  unfold overlay
  simp only [node?_mapAttributes, OrderedMap.overlay_empty, NodeEntry.mapAttributes_id,
    Option.map_id']

theorem overlay_overlay_self (d : Document) (tags : NodeId → OrderedMap String) :
    (d.overlay tags).overlay tags = d.overlay tags := by
  unfold overlay
  rw [mapAttributes_mapAttributes]
  simp only [OrderedMap.overlay_assoc, OrderedMap.overlay_self]

theorem erase_overlay {tags : NodeId → OrderedMap String}
    (h : ∀ id, ∀ k ∈ (tags id).keys, k ∈ names) : (d.overlay tags).erase names = d.erase names := by
  unfold erase overlay
  rw [mapAttributes_mapAttributes]
  simp only [OrderedMap.erase_overlay (h _)]

theorem insertAttribute_overlay (d : Document) (tags : NodeId → OrderedMap String) (node : NodeId)
    (name value : String) :
    (d.overlay tags).insertAttribute node name value = d.overlay fun id ↦
      if node = id then (tags id).insert (asciiLower name) value else tags id := by
  unfold overlay
  rw [insertAttribute_eq, mapAttributes_mapAttributes]
  congr 1
  funext id m
  by_cases h : node = id
  · simp only [h, if_true, OrderedMap.overlay_insert]
  · simp only [h, if_false]

end Document

end PageOutline
