import PageOutline.Proofs.AttributeQuery
import PageOutline.Proofs.Collection

namespace PageOutline

open Relation (TransGen)
open Text (asciiLower)

namespace PageMeta

/-- The records in groups, one for each name. -/
def grouped (records : List (String × Json)) : List (String × List Json) :=
  (records.map Prod.fst).eraseDups.map fun name ↦
    (name, (records.filter (·.1 = name)).map Prod.snd)

theorem addAll_concat (found : PageMeta) (records : List (String × Json)) (r : String × Json) :
    addAll found (records ++ [r]) = addPayload (addAll found records) r.1 r.2 :=
  List.foldl_concat ..

theorem keys_addAll (records : List (String × Json)) :
    (addAll ∅ records).keys = (records.map Prod.fst).eraseDups := by
  induction records using List.reverseRecOn with
  | nil => rfl
  | append_singleton records r ih =>
    rw [addAll_concat, addPayload, OrderedMap.keys_insert, ih, List.map_append, List.map_singleton,
      OrderedMap.eraseDups_concat]
    simp only [List.mem_eraseDups]

theorem entries_eq_map (found : PageMeta) :
    found.entries = found.keys.map fun name ↦ (name, found.payloads name) := by
  have hself : found.entries.map (fun e ↦ (e.1, found.payloads e.1)) = found.entries.map id := by
    refine List.map_congr_left fun e he ↦ ?_
    rw [payloads, OrderedMap.get?_of_mem (k := e.1) (v := e.2) he]
    rfl
  rw [OrderedMap.keys, List.map_map]
  exact (hself.trans (List.map_id _)).symm

theorem entries_addAll (records : List (String × Json)) :
    (addAll ∅ records).entries = grouped records := by
  rw [entries_eq_map, keys_addAll, grouped]
  refine List.map_congr_left fun name _ ↦ ?_
  rw [payloads_addAll]
  rfl

theorem flatMap_filter_perm {names : List String} (hnodup : names.Nodup)
    {records : List (String × Json)} (hmem : ∀ r ∈ records, r.1 ∈ names) :
    (names.flatMap fun name ↦ records.filter (·.1 = name)).Perm records := by
  induction names generalizing records with
  | nil =>
    cases records with
    | nil => rfl
    | cons r records => cases hmem r List.mem_cons_self
  | cons name names ih =>
    rw [List.nodup_cons] at hnodup
    -- the groups of the other names are those of the records that are left
    have hothers : names.flatMap (fun other ↦ records.filter (·.1 = other)) =
        names.flatMap fun other ↦ (records.filter fun r ↦ !decide (r.1 = name)).filter
          (·.1 = other) := by
      refine List.flatMap_congr fun other hother ↦ ?_
      rw [List.filter_filter]
      refine List.filter_congr fun r _ ↦ ?_
      have hne : other ≠ name := fun heq ↦ hnodup.1 (heq ▸ hother)
      by_cases hr : r.1 = other <;> simp [hr, hne]
    have hleft (r : String × Json) (hr : r ∈ records.filter fun r ↦ !decide (r.1 = name)) :
        r.1 ∈ names := by
      obtain ⟨hr, hne⟩ := List.mem_filter.1 hr
      exact (List.mem_cons.1 (hmem r hr)).resolve_left (by simpa using hne)
    rw [List.flatMap_cons, hothers]
    exact ((ih hnodup.2 hleft).append_left _).trans (List.filter_append_perm _ _)

theorem grouped_perm (records : List (String × Json)) :
    ((grouped records).flatMap fun group ↦ group.2.map (group.1, ·)).Perm records := by
  have hgroup (name : String) :
      ((records.filter (·.1 = name)).map Prod.snd).map (name, ·) =
        records.filter (·.1 = name) := by
    rw [List.map_map]
    refine (List.map_congr_left fun r hr ↦ ?_).trans (List.map_id _)
    have hname : r.1 = name := by simpa using (List.mem_filter.1 hr).2
    exact Prod.ext hname.symm rfl
  rw [grouped, List.flatMap_map]
  simp only [hgroup]
  refine flatMap_filter_perm ?_ fun r hr ↦ ?_
  · rw [← keys_addAll]
    exact OrderedMap.nodup_keys _
  · rw [List.mem_eraseDups]
    exact List.mem_map_of_mem hr

end PageMeta

namespace Document

variable {settings : Settings} {d : Document}

theorem record?_eq_some_iff {id : NodeId} {name : String} {payload : Json} :
    d.record? settings id = some (name, payload) ↔
      (d.attributes id).get? (asciiLower settings.metaNameAttribute) = some name ∧
        ∃ value, Json.parse
          (((d.attributes id).get? (asciiLower settings.metaDataAttribute)).getD "") .whole =
            .ok value ∧ value.canonical = payload := by
  unfold record? recordTags
  cases (d.attributes id).get? (asciiLower settings.metaNameAttribute) with
  | none => simp
  | some key =>
    cases Json.parse (((d.attributes id).get? (asciiLower settings.metaDataAttribute)).getD "")
      .whole <;> simp [Except.toOption]

theorem filterMap_record?_filter (ids : List NodeId) :
    (ids.filter fun x ↦ (d.recordTags settings x).1.isSome).filterMap (d.record? settings) =
      ids.filterMap (d.record? settings) := by
  rw [List.filterMap_filter]
  refine List.filterMap_congr fun x _ ↦ ?_
  unfold record?
  cases (d.recordTags settings x).1 <;> rfl

/-- The records below the root are collected in groups: those that can be read, in document order.
Below the root are the elements that it reaches over elements. -/
theorem collectMeta_groups (h : d.Reached)
    (hname : Css.IsIdentifier settings.metaNameAttribute) :
    ∃ (order : List NodeId) (found : PageMeta),
      (∀ ids, d.InPreorder (d.childIds root) ids ↔ ids = order) ∧
      (∀ x, x ∈ order ↔ TransGen d.HasChild root x) ∧ order.Nodup ∧
      ((∀ t : Nat, ¬d.isElement t → d.childIds t = []) →
        ∀ x : Nat, x ∈ order ↔ d.isElement x ∧ x ≠ root) ∧
      (∀ x name payload, d.record? settings x = some (name, payload) ↔
        (d.attributes x).get? (asciiLower settings.metaNameAttribute) = some name ∧
          ∃ value, Json.parse
            (((d.attributes x).get? (asciiLower settings.metaDataAttribute)).getD "") .whole =
              .ok value ∧ value.canonical = payload) ∧
      collectMeta settings d = (.ok found, d) ∧
      found.entries = PageMeta.grouped (order.filterMap (d.record? settings)) ∧
      (found.entries.flatMap fun group ↦ group.2.map (group.1, ·)).Perm
        (order.filterMap (d.record? settings)) := by
  have hd := arboreal_keptByBuilding.reached h
  have horder := hd.inPreorder_descendants root
  have hcollect := collectMeta_apply hname.isName (node?_of_isElement hd.root)
  rw [filterMap_record?_filter] at hcollect
  have hgroups := PageMeta.entries_addAll ((d.descendants root).filterMap (d.record? settings))
  refine ⟨d.descendants root, _, fun ids ↦ ⟨fun hids ↦ hids.unique horder, ?_⟩,
    fun x ↦ hd.mem_descendants, hd.nodup_descendants root, fun htexts x ↦ ?_,
    fun x name payload ↦ record?_eq_some_iff, hcollect, hgroups, ?_⟩
  · rintro rfl
    exact horder
  · rw [hd.mem_descendants, hd.reaches_iff_isElement htexts]
  · rw [hgroups]
    exact PageMeta.grouped_perm _

def addReview (d : Document) (id : NodeId) (name data : String) : Document :=
  ((d.appendElement root "li").insertAttribute id "data-review" name).insertAttribute id
    "data-rating" data

def reviewsPage : Document :=
  ((((new "ul").addReview 1 "tea" "4").addReview 2 "cup" "\x7b").addReview 3 "pot" "[]").addReview
    4 "tea" " 5"

def reviewSettings : Settings :=
  { metaNameAttribute := "Data-Review", metaDataAttribute := "DATA-rating" }

theorem collectMeta_groups_reviewsPage :
    reviewsPage.Reached ∧ Css.IsIdentifier reviewSettings.metaNameAttribute ∧
    ∃ found : PageMeta, collectMeta reviewSettings reviewsPage = (.ok found, reviewsPage) ∧
      found.entries.map (fun group ↦ (group.1, group.2.length)) = [("tea", 2), ("pot", 1)] := by
  have h : reviewsPage.Reached := by
    have hadd {d : Document} (hd : d.Reached) (id : NodeId) (name data : String) :
        (d.addReview id name data).Reached := by
      have hroot := (arboreal_keptByBuilding.reached hd).root_lt_size
      exact ((hd.appendElement hroot "li").insertAttribute ..).insertAttribute ..
    exact hadd (hadd (hadd (hadd (.new "ul") 1 "tea" "4") 2 "cup" "\x7b") 3 "pot" "[]") 4 "tea" " 5"
  have hname : Css.IsIdentifier reviewSettings.metaNameAttribute := by decide
  obtain ⟨order, found, -, -, -, -, -, hcollect, -⟩ := collectMeta_groups h hname
  have hgroups : (collectMeta reviewSettings reviewsPage).1.toOption.map
      (fun found ↦ found.entries.map fun group ↦ (group.1, group.2.length)) =
        some [("tea", 2), ("pot", 1)] := by
    decide +kernel
  rw [hcollect] at hgroups
  exact ⟨h, hname, found, hcollect, Option.some.inj hgroups⟩

def tuckedPage : Document :=
  ((((new "p").appendText root "x").appendElement 1 "b").insertAttribute 2 "data-element-meta-name"
    "k").insertAttribute 2 "data-element-meta-data" "1"

/-- Not every record that stands below the root at any depth is collected. -/
theorem not_forall_collectMeta_grouped :
    ¬∀ (d : Document) (settings : Settings), d.Reached →
      Css.IsIdentifier settings.metaNameAttribute → ∃ (order : List NodeId) (found : PageMeta),
        (∀ x : Nat, x ∈ order ↔
          TransGen (fun p c ↦ c ∈ d.childIds p) root x ∧ d.isElement x) ∧
        (collectMeta settings d).1 = .ok found ∧
        found.entries = PageMeta.grouped (order.filterMap (d.record? settings)) := by
  intro hall
  have h : tuckedPage.Reached := by
    refine .insertAttribute (.insertAttribute (.appendElement (.appendText (.new "p") ?_ "x") ?_
      "b") 2 _ "k") 2 _ "1" <;> decide
  obtain ⟨order, found, hmem, hcollect, hentries⟩ :=
    hall tuckedPage {} h (by decide)
  have hbelow : TransGen (fun p c ↦ c ∈ tuckedPage.childIds p) root 2 :=
    .tail (.single (by decide : (1 : Nat) ∈ tuckedPage.childIds root)) (by decide)
  have hlisted : (2 : Nat) ∈ order := (hmem 2).2 ⟨hbelow, by decide⟩
  have hrecord : (tuckedPage.record? {} 2).isSome := by decide +kernel
  obtain ⟨r, hr⟩ := Option.isSome_iff_exists.1 hrecord
  have hread : r ∈ order.filterMap (tuckedPage.record? {}) :=
    List.mem_filterMap.2 ⟨2, hlisted, hr⟩
  have hempty : (collectMeta {} tuckedPage).1.toOption.map OrderedMap.isEmpty = some true := by
    decide +kernel
  rw [hcollect] at hempty
  have hnone : found.entries = [] := List.isEmpty_iff.1 (Option.some.inj hempty)
  have hperm := PageMeta.grouped_perm (order.filterMap (tuckedPage.record? {}))
  rw [← hentries, hnone] at hperm
  rw [← hperm.mem_iff] at hread
  cases hread

end Document

end PageOutline
