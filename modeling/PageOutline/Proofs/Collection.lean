import PageOutline.Pass.Metadata
import PageOutline.Proofs.Canonical
import PageOutline.Proofs.Quoting
import PageOutline.Proofs.Records

namespace PageOutline

open LivePage
open Relation (ReflTransGen)
open Text (asciiLower)

/-- The names under which passes tag elements. -/
def Settings.tags (s : Settings) : List String :=
  [s.clickableAttribute, s.inputAttribute, s.selectAttribute, s.metaNameAttribute,
    s.metaDataAttribute]

/-- The tags are different names that stand for themselves, in selectors and in attributes. -/
structure Settings.TagsNamed (s : Settings) : Prop where
  name : ∀ tag ∈ s.tags, Css.IsName tag ∧ IsLowered tag
  nodup : s.tags.Nodup

theorem Settings.TagsNamed.apart {s : Settings} (h : s.TagsNamed) : s.tagNames.Nodup := by
  have hsame : s.tagNames = s.tags := (List.map_congr_left fun tag htag ↦
    asciiLower_of_isLowered (h.name tag htag).2).trans (List.map_id s.tags)
  rw [hsame]
  exact h.nodup

namespace PageMeta

variable {found : PageMeta}

/-- The payloads under a name, in the order in which they were added. -/
def payloads (found : PageMeta) (name : String) : List Json := (found.get? name).getD []

def total (found : PageMeta) : Nat := (found.entries.map fun e ↦ e.2.length).sum

def addAll (found : PageMeta) (records : List (String × Json)) : PageMeta :=
  records.foldl (fun found r ↦ addPayload found r.1 r.2) found

theorem payloads_addPayload (name key : String) (payload : Json) :
    payloads (addPayload found name payload) key =
      payloads found key ++ if name = key then [payload] else [] := by
  unfold payloads addPayload
  rw [OrderedMap.get?_insert]
  by_cases h : name = key
  · subst h
    simp
  · simp [h, Ne.symm h]

theorem payloads_addAll (records : List (String × Json)) (key : String) :
    payloads (addAll found records) key =
      payloads found key ++ (records.filter (·.1 = key)).map Prod.snd := by
  induction records generalizing found with
  | nil => simp [addAll]
  | cons r records ih =>
    have hrest : payloads (addAll found (r :: records)) key =
        payloads (addPayload found r.1 r.2) key ++ (records.filter (·.1 = key)).map Prod.snd := ih
    rw [hrest, payloads_addPayload, List.append_assoc]
    by_cases h : r.1 = key <;> simp [h]

theorem sum_length_putEntry {α : Type} {key : String} {values : List α}
    {es : List (String × List α)}
    (h : values.length = (((es.find? (·.1 == key)).map Prod.snd).getD []).length + 1) :
    ((putEntry key values es).map fun e ↦ e.2.length).sum =
      (es.map fun e ↦ e.2.length).sum + 1 := by
  induction es with
  | nil => simpa [putEntry] using h
  | cons e es ih =>
    obtain ⟨k, vs⟩ := e
    by_cases hk : k = key
    · simp [hk] at h
      simp [putEntry, hk, h]
      omega
    · simp [hk] at h
      have hrest := ih (by simpa using h)
      simp only [putEntry, hk, if_false, List.map_cons, List.sum_cons, hrest]
      omega

theorem total_addPayload (name : String) (payload : Json) :
    total (addPayload found name payload) = total found + 1 :=
  sum_length_putEntry (by simp [OrderedMap.get?])

theorem total_addAll (records : List (String × Json)) :
    total (addAll found records) = total found + records.length := by
  induction records generalizing found with
  | nil => rfl
  | cons r records ih =>
    have hrest : total (addAll found (r :: records)) =
        total (addPayload found r.1 r.2) + records.length := ih
    rw [hrest, total_addPayload, List.length_cons]
    omega

end PageMeta

namespace Document

variable {settings : Settings} {d : Document} {id : NodeId} {r : Record}

def record? (settings : Settings) (d : Document) (id : NodeId) : Option (String × Json) :=
  (d.recordTags settings id).1.bind fun name ↦
    (Json.parse ((d.recordTags settings id).2.getD "") .whole).toOption.map fun payload ↦
      (name, payload.canonical)

def carriers (settings : Settings) (d : Document) : List NodeId :=
  (List.range d.size).filter fun id ↦ d.recordTags settings id ≠ (none, none)

theorem attr_apply (h : (d.node? id).isSome) (name : String) :
    (LivePage.attr id name : Access Document _) d =
      (.ok ((d.attributes id).get? (asciiLower name)), d) := by
  obtain ⟨n, hn⟩ := Option.isSome_iff_exists.1 h
  change (d.known id _, d) = _
  rw [known, hn]

theorem recordOn_apply (h : (d.node? id).isSome) :
    recordOn settings id d = (.ok (d.record? settings id), d) := by
  unfold recordOn
  rw [Access.bind_of_ok (attr_apply h _)]
  unfold record? recordTags
  cases (d.attributes id).get? (asciiLower settings.metaNameAttribute) with
  | none => rfl
  | some name =>
    dsimp only
    rw [Access.bind_of_ok (attr_apply h _)]
    cases Json.parse (((d.attributes id).get? (asciiLower settings.metaDataAttribute)).getD "")
      .whole <;> rfl

theorem collectFrom_apply (nodes : List NodeId) (h : ∀ id ∈ nodes, (d.node? id).isSome)
    (found : PageMeta) :
    collectFrom settings nodes found d =
      (.ok (PageMeta.addAll found (nodes.filterMap (d.record? settings))), d) := by
  induction nodes generalizing found with
  | nil => rfl
  | cons id nodes ih =>
    rw [List.forall_mem_cons] at h
    unfold collectFrom
    rw [Access.bind_of_ok (recordOn_apply h.1)]
    cases hr : d.record? settings id with
    | none =>
      rw [List.filterMap_cons_none hr]
      exact ih h.2 found
    | some r =>
      rw [List.filterMap_cons_some hr]
      exact ih h.2 _

theorem query_presence {name : String} (hname : Css.IsName name) (hid : (d.node? id).isSome) :
    d.query id ("[" ++ name ++ "]") false =
      .ok ((d.descendants id).filter fun x ↦ ((d.attributes x).get? (asciiLower name)).isSome) := by
  rw [query_of_parse (Css.parse?_presenceSelector hname) hid]
  refine congrArg Except.ok (List.filter_congr fun x _ ↦ ?_)
  simp only [isMatch, Css.Selector.matches, Css.anyMatches, Css.Complex.matches, Css.allMatch,
    Css.Simple.matches, view, Bool.and_true, Bool.or_false]
  cases (d.attributes x).get? (asciiLower name) <;> rfl

theorem collectMeta_apply (hname : Css.IsName settings.metaNameAttribute)
    (hroot : (d.node? root).isSome) :
    collectMeta settings d =
      (.ok (PageMeta.addAll ∅ (((d.descendants root).filter fun x ↦
        (d.recordTags settings x).1.isSome).filterMap (d.record? settings))), d) := by
  have hquery : (LivePage.query root ("[" ++ settings.metaNameAttribute ++ "]") false :
      Access Document _) d = (.ok ((d.descendants root).filter fun x ↦
        (d.recordTags settings x).1.isSome), d) :=
    congrArg (·, d) (query_presence hname hroot)
  have hask : (LivePage.root : Access Document NodeId) d = (.ok root, d) := rfl
  unfold collectMeta
  rw [Access.bind_of_ok hask, Access.bind_of_ok hquery]
  refine collectFrom_apply _ (fun x hx ↦ ?_) ∅
  have hcandidate : x ∈ d.candidates root false := (List.mem_filter.1 hx).1
  exact node?_of_isElement (isElement_of_mem_candidates hcandidate)

theorem Carries.record? (h : d.Carries settings id r) (hr : r.payload.fits Json.maxDepth) :
    d.record? settings id = some (r.name, r.payload.canonical) := by
  unfold Document.record?
  rw [h]
  simp only [Option.bind_some, Option.getD_some, Json.parse_compress_canonical hr]
  rw [Except.toOption, Option.map_some, Json.canonical_canonical]

theorem mem_carriers : id ∈ d.carriers settings ↔ d.recordTags settings id ≠ (none, none) := by
  rw [carriers, List.mem_filter, List.mem_range, decide_eq_true_iff]
  refine and_iff_right_of_imp fun h ↦ ?_
  by_contra hlt
  have hnone : d.node? id = none := node?_eq_none (Nat.le_of_not_lt hlt)
  have hbare : d.attributes id = ∅ := by
    unfold attributes
    rw [hnone]
  unfold recordTags at h
  rw [hbare] at h
  exact h rfl

theorem recordless_of_carriers (h : d.carriers settings = []) : d.Recordless settings := by
  intro id
  by_contra hne
  have hmem := mem_carriers.2 hne
  rw [h] at hmem
  cases hmem

theorem nodup_carriers (d : Document) : (d.carriers settings).Nodup := List.nodup_range.filter _

theorem isSome_recordTags_iff {record : NodeId → Record}
    (hcarries : ∀ x ∈ d.carriers settings, d.Carries settings x (record x)) :
    (d.recordTags settings id).1.isSome ↔ id ∈ d.carriers settings := by
  constructor
  · intro hsome
    refine mem_carriers.2 fun hnone ↦ ?_
    rw [hnone] at hsome
    cases hsome
  · intro hid
    rw [show d.recordTags settings id = _ from hcarries id hid]
    rfl

/-- Where records stand on elements of the page, those below the root are all but that of the root:
neither list repeats a node, and the root is the only element that is not below the root. -/
theorem Arboreal.perm_carriers (hd : d.Arboreal)
    (hreached : ∀ x ∈ d.carriers settings, ReflTransGen d.HasChild Document.root x) :
    ((d.descendants Document.root).filter fun x ↦ x ∈ d.carriers settings).Perm
      ((d.carriers settings).filter fun x ↦ x ≠ Document.root) := by
  refine (List.perm_ext_iff_of_nodup ((hd.nodup_descendants Document.root).filter _)
    ((nodup_carriers d).filter _)).2 fun x ↦ ?_
  simp only [List.mem_filter, decide_eq_true_iff]
  constructor
  · rintro ⟨hbelow, hx⟩
    refine ⟨hx, ?_⟩
    rintro rfl
    exact hd.notMem_descendants Document.root hbelow
  · rintro ⟨hx, hne⟩
    exact ⟨hd.mem_descendants_root (hreached x hx) hne, hx⟩

theorem collectMeta_of_carries (hd : d.Arboreal) (hname : Css.IsName settings.metaNameAttribute)
    {record : NodeId → Record}
    (hcarries : ∀ x ∈ d.carriers settings, d.Carries settings x (record x))
    (hfits : ∀ x ∈ d.carriers settings, (record x).payload.fits Json.maxDepth)
    (hreached : ∀ x ∈ d.carriers settings, ReflTransGen d.HasChild root x) :
    ∃ found : PageMeta, collectMeta settings d = (.ok found, d) ∧
      (∀ name, found.payloads name = ((d.descendants root).filter fun x ↦
        x ∈ d.carriers settings ∧ (record x).name = name).map fun x ↦
          (record x).payload.canonical) ∧
      found.total = ((d.carriers settings).filter fun x ↦ x ≠ root).length := by
  have hfound : (d.descendants root).filter (fun x ↦ (d.recordTags settings x).1.isSome) =
      (d.descendants root).filter fun x ↦ x ∈ d.carriers settings := by
    simp only [← isSome_recordTags_iff hcarries, Bool.decide_eq_true]
  have hread : ((d.descendants root).filter fun x ↦ x ∈ d.carriers settings).filterMap
        (d.record? settings) =
      ((d.descendants root).filter fun x ↦ x ∈ d.carriers settings).map fun x ↦
        ((record x).name, (record x).payload.canonical) := by
    rw [← List.filterMap_eq_map]
    refine List.filterMap_congr fun x hx ↦ ?_
    have hx : x ∈ d.carriers settings := by simpa using (List.mem_filter.1 hx).2
    exact (hcarries x hx).record? (hfits x hx)
  have hcollect := collectMeta_apply hname (node?_of_isElement hd.root)
  rw [hfound, hread] at hcollect
  refine ⟨_, hcollect, fun name ↦ ?_, ?_⟩
  · rw [PageMeta.payloads_addAll, List.filter_map, List.map_map, List.filter_filter]
    simp [PageMeta.payloads, Function.comp_def, and_comm]
  · rw [PageMeta.total_addAll, List.length_map, (hd.perm_carriers hreached).length_eq]
    exact Nat.zero_add _

end Document

theorem Document.Arboreal.tagged {names : List String} {d after : Document} (hd : d.Arboreal)
    (h : d.Tagged names after) : after.Arboreal :=
  hd.of_same h.size (h.isElement _) h.parent? h.childIds

theorem FunctionTable.eq_of_textRecord {name : String} {node : NodeId} {d : Document} {r : Record}
    (h : ((textRecord name node).run d).1 = .ok (some r)) : ∃ text, r = ⟨name, .string text⟩ := by
  unfold textRecord at h
  simp only [bind, Inquiry.bind, Inquiry.question, pure] at h
  rw [Inquiry.run_ask] at h
  cases hanswer : (LivePage.answer (.text node) d).1 with
  | error failure =>
    rw [hanswer] at h
    cases h
  | ok raw =>
    rw [hanswer] at h
    have hrecord := Except.ok.inj h
    split at hrecord
    · cases hrecord
    · exact ⟨_, (Option.some.inj hrecord).symm⟩

namespace Engine

open Pass

/-- After a pass that ends well, the records are collected that the generators made, with their
payloads: all that elements carry, save that of the root. -/
theorem collectMeta_processPage (e : Engine) {d : Document} (hd : d.Reached) (path : String)
    (hs : e.settings.TagsNamed) (hclean : d.Recordless e.settings)
    (hfits : ∀ w r, e.Visits d path w → w.Makes r → r.payload.fits Json.maxDepth)
    {outline : Outline} (hok : (e.processPage d path).1 = .ok outline) {after : Document}
    (hafter : (e.processPage d path).2.2 = after) :
    ∃ (record : NodeId → Record) (found : PageMeta),
      collectMeta e.settings after = (.ok found, after) ∧
      (∀ x ∈ after.carriers e.settings, after.Carries e.settings x (record x) ∧
        ∃ w, e.Visits d path w ∧ w.node = x ∧ w.Makes (record x)) ∧
      (∀ x ∈ after.carriers e.settings, x ≠ Document.root →
        (record x).payload.canonical ∈ found.payloads (record x).name) ∧
      (∀ name, found.payloads name = ((after.descendants Document.root).filter fun x ↦
        x ∈ after.carriers e.settings ∧ (record x).name = name).map fun x ↦
          (record x).payload.canonical) ∧
      found.total = ((after.carriers e.settings).filter fun x ↦ x ≠ Document.root).length := by
  have htagged : d.Tagged e.settings.tagNames (e.processPage d path).2.2 :=
    e.processPage_kept (d.tagged_keptByTags e.settings) d path (.refl d)
  have hrecords := processPage_recordsOf hs.apart hok
  rw [hafter] at htagged hrecords
  have harboreal : after.Arboreal := (Document.arboreal_keptByBuilding.reached hd).tagged htagged
  have hmade (x : NodeId) : ∃ r, x ∈ after.carriers e.settings →
      after.Carries e.settings x r ∧ ∃ w, e.Visits d path w ∧ w.node = x ∧ w.Makes r := by
    rcases hrecords x with hsame | ⟨r, hmakes, hcarries⟩
    · refine ⟨default, fun hx ↦ ?_⟩
      rw [hclean x] at hsame
      exact absurd hsame (Document.mem_carriers.1 hx)
    · exact ⟨r, fun _ ↦ ⟨hcarries, hmakes⟩⟩
  choose record hrecord using hmade
  have hreached (x : NodeId) (hx : x ∈ after.carriers e.settings) :
      ReflTransGen after.HasChild Document.root x := by
    obtain ⟨-, w, hvisits, rfl, -⟩ := hrecord x hx
    rw [htagged.hasChild]
    exact hvisits.placed.node
  have hname := (hs.name e.settings.metaNameAttribute (by simp [Settings.tags])).1
  obtain ⟨found, hcollect, hpayloads, htotal⟩ := Document.collectMeta_of_carries harboreal hname
    (fun x hx ↦ (hrecord x hx).1)
    (fun x hx ↦ (hrecord x hx).2.elim fun w hw ↦ hfits w _ hw.1 hw.2.2) hreached
  refine ⟨record, found, hcollect, hrecord, fun x hx hne ↦ ?_, hpayloads, htotal⟩
  rw [hpayloads]
  refine List.mem_map.2 ⟨x, List.mem_filter.2 ⟨?_, by simp [hx]⟩, rfl⟩
  exact harboreal.mem_descendants_root (hreached x hx) hne

def notes : Engine :=
  .ofCatalog ⟨[⟨.path "/" false,
    .node { Directive.ofSelector "li" with
      metadata := some (FunctionTable.textRecord "note") } []⟩]⟩

def notesPage : Document :=
  ((Document.new "ul").appendElement 0 "li").appendText 1 "Tea"

def plainPage : Document := (Document.new "html").appendText 0 "Tea"

theorem tagsNamed_default : ({} : Settings).TagsNamed where
  name := by decide +kernel
  nodup := by decide +kernel

theorem fits_notes {d : Document} {w : Stop Document} {r : Record} (hw : notes.Visits d "/" w)
    (hr : w.Makes r) : r.payload.fits Json.maxDepth := by
  obtain ⟨v, hv, hreaches⟩ := hw
  obtain ⟨entry, hentry, hrecipe⟩ := Catalog.exists_entry_of_select hv.selected
  obtain rfl := List.mem_singleton.1 hentry
  have hmem := hreaches.mem_nodes
  rw [← hrecipe] at hmem
  obtain ⟨f, hf, hrun⟩ := hr
  rw [List.mem_singleton.1 hmem] at hf
  obtain rfl := Option.some.inj hf
  obtain ⟨text, rfl⟩ := FunctionTable.eq_of_textRecord hrun
  rfl

theorem collectMeta_notesPage :
    notesPage.Reached ∧ notes.settings.TagsNamed ∧ notesPage.Recordless notes.settings ∧
    (∀ w r, notes.Visits notesPage "/" w → w.Makes r → r.payload.fits Json.maxDepth) ∧
    ∃ found : PageMeta, (collectMeta notes.settings (notes.processPage notesPage "/").2.2).1 =
      .ok found ∧ found.total = 1 := by
  have hd : notesPage.Reached := by
    have hlist : ((Document.new "ul").appendElement 0 "li").Reached :=
      (Document.Reached.new "ul").appendElement (by decide) "li"
    exact hlist.appendText (by decide) "Tea"
  have hclean : notesPage.Recordless notes.settings :=
    Document.recordless_of_carriers (by decide +kernel)
  obtain ⟨outline, hok⟩ := exists_ok_of_isOk (x := (notes.processPage notesPage "/").1)
    (by decide +kernel)
  obtain ⟨record, found, hcollect, -, -, -, htotal⟩ := collectMeta_processPage notes hd "/"
    tagsNamed_default hclean (fun w r ↦ fits_notes) hok rfl
  refine ⟨hd, tagsNamed_default, hclean, fun w r ↦ fits_notes, found, congrArg Prod.fst hcollect,
    htotal.trans ?_⟩
  decide +kernel

/-- The record on the root is lost. -/
theorem collectMeta_plainPage :
    plainPage.Reached ∧ notes.settings.TagsNamed ∧ plainPage.Recordless notes.settings ∧
    (∀ w r, notes.Visits plainPage "/" w → w.Makes r → r.payload.fits Json.maxDepth) ∧
    (∃ outline, (notes.processPage plainPage "/").1 = .ok outline) ∧
    (notes.processPage plainPage "/").2.2.carriers notes.settings = [Document.root] ∧
    (notes.processPage plainPage "/").2.2.Carries notes.settings Document.root
      ⟨"note", .string "Tea"⟩ ∧
    (collectMeta notes.settings (notes.processPage plainPage "/").2.2).1 = .ok ∅ := by
  refine ⟨(Document.Reached.new "html").appendText (by decide) "Tea", tagsNamed_default,
    Document.recordless_of_carriers (by decide +kernel), fun w r ↦ fits_notes,
    exists_ok_of_isOk (by decide +kernel), by decide +kernel, ?_, ?_⟩
  · unfold Document.Carries
    decide +kernel
  · obtain ⟨found, hfound⟩ := exists_ok_of_isOk
      (x := (collectMeta notes.settings (notes.processPage plainPage "/").2.2).1)
      (by decide +kernel)
    have hempty : (collectMeta notes.settings (notes.processPage plainPage "/").2.2).1.toOption.map
        OrderedMap.isEmpty = some true := by decide +kernel
    rw [hfound] at hempty
    have hnone : found = ∅ := OrderedMap.ext (List.isEmpty_iff.1 (Option.some.inj hempty))
    rw [hfound, hnone]

end Engine

end PageOutline
