import PageOutline.Json.Value
import PageOutline.Proofs.JsonText
import PageOutline.Proofs.Overlay

namespace PageOutline

section Sorting

variable {α : Type} {pairs : List (String × α)}

namespace OrderedMap

theorem entries_insert_of_notMem {m : OrderedMap α} {key : String} (h : key ∉ m.keys) (value : α) :
    (m.insert key value).entries = m.entries ++ [(key, value)] := by
  have hput (es : List (String × α)) (h : key ∉ es.map Prod.fst) :
      putEntry key value es = es ++ [(key, value)] := by
    induction es with
    | nil => rfl
    | cons e es ih =>
      rw [List.map_cons, List.mem_cons, not_or] at h
      simp only [putEntry, Ne.symm h.1, if_false, ih h.2, List.cons_append]
  exact hput m.entries h

theorem entries_foldl_insert {m : OrderedMap α}
    (h : (m.entries ++ pairs).map Prod.fst |>.Nodup) :
    (pairs.foldl (fun m pair ↦ m.insert pair.1 pair.2) m).entries = m.entries ++ pairs := by
  induction pairs generalizing m with
  | nil => simp
  | cons pair pairs ih =>
    have hnew : pair.1 ∉ m.keys := by
      rw [List.map_append, List.map_cons, List.nodup_append] at h
      exact fun hmem ↦ h.2.2 _ hmem _ List.mem_cons_self rfl
    have hentries := entries_insert_of_notMem hnew pair.2
    rw [List.foldl_cons, ih, hentries, List.append_assoc, List.singleton_append]
    rwa [hentries, List.append_assoc, List.singleton_append]

theorem entries_ofList (h : (pairs.map Prod.fst).Nodup) : (ofList pairs).entries = pairs :=
  entries_foldl_insert (m := ∅) h

theorem ofList_entries (m : OrderedMap α) : ofList m.entries = m :=
  OrderedMap.ext (entries_ofList m.nodup)

theorem mem_of_mem_ofList {e : String × α} (h : e ∈ (ofList pairs).entries) : e ∈ pairs := by
  have hkept (m : OrderedMap α) (hm : ∀ e ∈ m.entries, e ∈ pairs) (rest : List (String × α))
      (hrest : ∀ e ∈ rest, e ∈ pairs) :
      ∀ e ∈ (rest.foldl (fun m pair ↦ m.insert pair.1 pair.2) m).entries, e ∈ pairs := by
    induction rest generalizing m with
    | nil => exact hm
    | cons pair rest ih =>
      rw [List.forall_mem_cons] at hrest
      exact ih _ (forall_mem_insert hm hrest.1) hrest.2
  exact hkept ∅ (fun _ he ↦ (List.not_mem_nil he).elim) pairs (fun _ he ↦ he) e h

end OrderedMap

theorem mem_of_mem_sortEntries {e : String × α} (h : e ∈ sortEntries pairs) : e ∈ pairs :=
  OrderedMap.mem_of_mem_ofList ((List.mergeSort_perm _ _).mem_iff.1 h)

theorem sortEntries_of_pairwise (h : (pairs.map Prod.fst).Nodup)
    (hsorted : pairs.Pairwise fun a b ↦ a.1 ≤ b.1) : sortEntries pairs = pairs := by
  have hle : pairs.Pairwise fun a b ↦ decide (a.1 ≤ b.1) := hsorted.imp decide_eq_true
  rw [sortEntries, OrderedMap.entries_ofList h]
  exact List.mergeSort_of_pairwise hle

theorem nodup_keys_sortEntries (pairs : List (String × α)) :
    ((sortEntries pairs).map Prod.fst).Nodup :=
  ((List.mergeSort_perm _ _).map Prod.fst).nodup_iff.2 (OrderedMap.nodup_keys _)

theorem pairwise_sortEntries (pairs : List (String × α)) :
    (sortEntries pairs).Pairwise fun a b ↦ a.1 ≤ b.1 := by
  have htrans (a b c : String × α) (hab : decide (a.1 ≤ b.1)) (hbc : decide (b.1 ≤ c.1)) :
      decide (a.1 ≤ c.1) := by
    simp only [decide_eq_true_eq] at hab hbc ⊢
    exact String.le_trans hab hbc
  have htotal (a b : String × α) : decide (a.1 ≤ b.1) || decide (b.1 ≤ a.1) := by
    simpa using String.le_total a.1 b.1
  have hsorted := List.pairwise_mergeSort htrans htotal (OrderedMap.ofList pairs).entries
  exact hsorted.imp of_decide_eq_true

end Sorting

namespace Json

theorem canonicalMembers_eq_map (ms : List (String × Json)) :
    canonicalMembers ms = ms.map fun m ↦ (m.1, m.2.canonical) := by
  induction ms with
  | nil => rfl
  | cons m ms ih => rw [canonicalMembers, ih, List.map_cons]

theorem canonicalItems_eq_map (items : List Json) :
    canonicalItems items = items.map canonical := by
  induction items with
  | nil => rfl
  | cons v vs ih => rw [canonicalItems, ih, List.map_cons]

theorem fits_canonical {levels : Nat} {v : Json} (h : v.fits levels) :
    v.canonical.fits levels := by
  match v, levels with
  | .null, _ | .bool _, _ | .string _, _ | .number _, _ => rwa [canonical] <;> simp
  | .array items, levels + 1 =>
    rw [fits, fitsItems_iff] at h
    rw [canonical, canonicalItems_eq_map, fits, fitsItems_iff, List.forall_mem_map]
    exact fun v hv ↦ fits_canonical (h v hv)
  | .object members, levels + 1 =>
    rw [fits, fitsMembers_iff] at h
    rw [canonical, canonicalMembers_eq_map, fits, fitsMembers_iff]
    intro m hm
    obtain ⟨n, hn, rfl⟩ := List.mem_map.1 (mem_of_mem_sortEntries hm)
    exact fits_canonical (h n hn)

mutual

theorem canonical_canonical (v : Json) : v.canonical.canonical = v.canonical := by
  match v with
  | .null | .bool _ | .string _ | .number _ => rfl
  | .array items =>
    rw [canonical, canonical, canonicalItems_eq_map, canonicalItems_eq_map, List.map_map]
    exact congrArg array (List.map_congr_left (canonical_of_mem_items items))
  | .object members =>
    have hmembers : canonicalMembers (sortEntries (canonicalMembers members)) =
        sortEntries (canonicalMembers members) := by
      rw [canonicalMembers_eq_map (sortEntries _)]
      refine (List.map_congr_left fun m hm ↦ ?_).trans (List.map_id _)
      have hmem := mem_of_mem_sortEntries hm
      rw [canonicalMembers_eq_map] at hmem
      obtain ⟨n, hn, rfl⟩ := List.mem_map.1 hmem
      exact Prod.ext rfl (canonical_of_mem_members members n hn)
    rw [canonical, canonical, hmembers,
      sortEntries_of_pairwise (nodup_keys_sortEntries _) (pairwise_sortEntries _)]

theorem canonical_of_mem_items (items : List Json) :
    ∀ v ∈ items, v.canonical.canonical = v.canonical := by
  match items with
  | [] => exact fun _ hv ↦ (List.not_mem_nil hv).elim
  | v :: vs => exact List.forall_mem_cons.2 ⟨canonical_canonical v, canonical_of_mem_items vs⟩

theorem canonical_of_mem_members (members : List (String × Json)) :
    ∀ m ∈ members, m.2.canonical.canonical = m.2.canonical := by
  match members with
  | [] => exact fun _ hm ↦ (List.not_mem_nil hm).elim
  | (_, v) :: ms =>
    exact List.forall_mem_cons.2 ⟨canonical_canonical v, canonical_of_mem_members ms⟩

end

theorem parse_compress_canonical {v : Json} (h : v.fits maxDepth) :
    parse v.canonical.compress .whole = .ok v.canonical :=
  parse_compress (fits_canonical h)

end Json

end PageOutline
