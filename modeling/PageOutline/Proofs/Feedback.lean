import PageOutline.Proofs.Accumulation
import PageOutline.Proofs.Erasure
import PageOutline.Proofs.Held
import PageOutline.Proofs.Quoting

namespace PageOutline

open Text (asciiLower)
open Css

/-- A function that tells the same of documents that differ in attributes in `names` only. -/
def Inquiry.Blind {α : Type} (names : List String) (i : Inquiry α) : Prop :=
  ∀ d e : Document, d.erase names = e.erase names → (i.run d).1.toOption = (i.run e).1.toOption

theorem Inquiry.blind_question {names : List String} (hid : "id" ∉ names) (hclass : "class" ∉ names)
    {q : Question} (hq : q.Avoids names) : (Inquiry.question q).Blind names := by
  have hrun (d : Document) : ((Inquiry.question q).run d).1 = d.reply q := by
    change (Pass.onPage (Inquiry.question q).run (Session.mk d ∅)).1 =
      (Pass.onPage (LivePage.answer q) (Session.mk d ∅)).1
    rw [Inquiry.question, Inquiry.run, Pass.onPage_bind, Pass.bind_apply, Pass.onPage_attempt]
    cases (Pass.onPage (LivePage.answer q) (Session.mk d ∅)).1 <;> rfl
  intro d e h
  rw [hrun, hrun, Document.reply_congr h hid hclass q hq]

/-- A directive that makes nothing depend on attributes in `names`. -/
structure Directive.Avoids (names : List String) (d : Directive) : Prop where
  selector : Selector.Avoids names d.selector
  text : ∀ selector, d.text = .selector selector → Selector.Avoids names selector
  click : ∀ selector ∈ d.clickSelector, Selector.Avoids names selector
  kept : ∀ name ∈ d.keepAttributes, asciiLower name ∉ names
  extractor : ∀ f, d.text = .extractor f → ∀ node, (f node).Blind names
  metadata : ∀ f ∈ d.metadata, ∀ node, (f node).Blind names
  computers : ∀ p ∈ d.computers.entries, ∀ node, (p.2 node).Blind names

/-- An engine whose passes on a document ask for none of the attributes under which they tag it. -/
structure Engine.Insulated (e : Engine) (d : Document) : Prop where
  names : ∀ name ∈ ["id", "class", "type", "value", "checked", "aria-selected"],
    name ∉ e.settings.tagNames
  rules : ∀ entry ∈ e.catalog.entries, ∀ selector contains, entry.rule = .text selector contains →
    Selector.Avoids e.settings.tagNames selector
  directives : ∀ entry ∈ e.catalog.entries, ∀ recipe ∈ entry.recipe.nodes,
    recipe.directive.Avoids e.settings.tagNames
  preserved : ∀ name ∈ e.settings.preservedAttributes, asciiLower name ∉ e.settings.tagNames
  label : Selector.Avoids e.settings.tagNames e.settings.dropdownLabelSelector
  /-- The tag of options is only read with the id of a control behind it. -/
  options : ∀ node id, (d.attributes node).get? "id" = some id →
    Selector.Avoids e.settings.tagNames (Pass.optionSelector e.settings id)

theorem Document.setAttribute_congr {names : List String} {d e : Document}
    (h : d.erase names = e.erase names) (node : NodeId) (name value : String) :
    (∃ failure, d.setAttribute node name value = .error failure ∧
      e.setAttribute node name value = .error failure) ∨
    d.setAttribute node name value = .ok (d.insertAttribute node name value) ∧
      e.setAttribute node name value = .ok (e.insertAttribute node name value) := by
  have hnode := congrArg (node? · node) h
  simp only [erase, node?_mapAttributes] at hnode
  unfold setAttribute
  rcases hd : d.node? node with _ | ⟨_ | _, _, _, _⟩ <;>
    rcases he : e.node? node with _ | ⟨_ | _, _, _, _⟩ <;> rw [hd, he] at hnode <;>
    simp [NodeEntry.mapAttributes, NodeContent.mapAttributes] at hnode ⊢

namespace Pass

open LivePage

/-- Sessions with the same registry, on two documents that carry the same tags under `names`. -/
structure TaggedAlike (names : List String) (d e : Document) (s t : Session Document) : Prop where
  registry : s.registry = t.registry
  tags : ∃ tags : NodeId → OrderedMap String, (∀ id, ∀ k ∈ (tags id).keys, k ∈ names) ∧
    s.page = d.overlay tags ∧ t.page = e.overlay tags

variable {names : List String} {d e : Document} {s t : Session Document}

theorem taggedAlike_start (r : Registry) : TaggedAlike names d e ⟨d, r⟩ ⟨e, r⟩ where
  registry := rfl
  tags := ⟨fun _ ↦ ∅, by simp, d.overlay_empty.symm, e.overlay_empty.symm⟩

theorem TaggedAlike.erase_left (h : TaggedAlike names d e s t) :
    s.page.erase names = d.erase names := by
  obtain ⟨tags, hnames, hs, -⟩ := h.tags
  rw [hs, Document.erase_overlay hnames]

theorem TaggedAlike.erase_congr (hde : d.erase names = e.erase names)
    (h : TaggedAlike names d e s t) : s.page.erase names = t.page.erase names := by
  obtain ⟨tags, hnames, hs, ht⟩ := h.tags
  rw [hs, ht, Document.erase_overlay hnames, Document.erase_overlay hnames, hde]

theorem register_taggedAlike (f : Registry → Registry) :
    Parallel (TaggedAlike names d e) (register f) (register f) :=
  fun _ _ h ↦ ⟨rfl, congrArg f h.registry, h.tags⟩

theorem ask_taggedAlike (hde : d.erase names = e.erase names) (hid : "id" ∉ names)
    (hclass : "class" ∉ names) {q : Question} (hq : q.Avoids names) :
    Parallel (TaggedAlike names d e) (onPage (answer q)) (onPage (answer q)) :=
  fun _ _ h ↦ ⟨Document.reply_congr (h.erase_congr hde) hid hclass q hq, h⟩

theorem TaggedAlike.insertAttribute (h : TaggedAlike names d e s t) {name : String}
    (hname : asciiLower name ∈ names) (node : NodeId) (value : String) :
    TaggedAlike names d e { s with page := s.page.insertAttribute node name value }
      { t with page := t.page.insertAttribute node name value } := by
  obtain ⟨tags, hnames, hs, ht⟩ := h.tags
  refine ⟨h.registry,
    fun id ↦ if node = id then (tags id).insert (asciiLower name) value else tags id,
    fun id k hk ↦ ?_, ?_, ?_⟩
  · dsimp only at hk
    split at hk
    · rcases OrderedMap.mem_keys_insert.1 hk with rfl | hk
      · exact hname
      · exact hnames id k hk
    · exact hnames id k hk
  · rw [hs, Document.insertAttribute_overlay]
  · rw [ht, Document.insertAttribute_overlay]

theorem setAttribute_taggedAlike (hde : d.erase names = e.erase names) {name : String}
    (hname : asciiLower name ∈ names) (node : NodeId) (value : String) :
    Parallel (TaggedAlike names d e) (onPage (setAttribute node name value))
      (onPage (setAttribute node name value)) := by
  intro s t h
  simp only [onPage_apply, setAttribute]
  obtain ⟨failure, hs, ht⟩ | ⟨hs, ht⟩ :=
    Document.setAttribute_congr (h.erase_congr hde) node name value
  · rw [hs, ht]
    exact ⟨rfl, h⟩
  · rw [hs, ht]
    exact ⟨rfl, h.insertAttribute hname node value⟩

theorem answerOr_taggedAlike {α : Type} (hde : d.erase names = e.erase names) (default : α)
    {i : Inquiry α} (hi : i.Blind names) :
    Parallel (TaggedAlike names d e) (answerOr default i) (answerOr default i) := by
  intro s t h
  rw [answerOr_apply, answerOr_apply, hi s.page t.page (h.erase_congr hde)]
  exact ⟨rfl, h⟩

end Pass

namespace Engine.Insulated

open Pass LivePage

variable {engine : Engine} {d e : Document} (h : engine.Insulated d)

include h

theorem avoids_of_asks {entry : CatalogEntry} (hentry : entry ∈ engine.catalog.entries)
    {recipe : Recipe} (hr : recipe ∈ entry.recipe.nodes) {q : Question}
    (hq : recipe.directive.Asks engine.settings
      (fun id ↦ ∃ node, (d.attributes node).get? "id" = some id) q) :
    q.Avoids engine.settings.tagNames := by
  have hd := h.directives entry hentry recipe hr
  cases q with
  | attr node name =>
    rcases List.mem_append.1 hq with hq | hkept
    · rcases List.mem_append.1 hq with hfixed | hpreserved
      · have hlowered : ∀ name ∈ ["type", "id", "value", "aria-selected"],
            asciiLower name ∈ ["id", "class", "type", "value", "checked", "aria-selected"] := by
          decide
        exact h.names _ (hlowered name hfixed)
      · exact h.preserved name hpreserved
    · exact hd.kept name hkept
  | query context selector direct =>
    obtain rfl | htext | hclick | rfl | ⟨id, ⟨node, hid⟩, rfl⟩ := hq
    · exact hd.selector
    · exact hd.text selector htext
    · exact hd.click selector hclick
    · exact h.label
    · exact h.options node id hid
  | value node => exact h.names _ (by simp)
  | checked node => exact h.names _ (by simp)
  | markup node => exact hq.elim
  | document => exact hq.elim
  | _ => trivial

theorem respects (hde : d.erase engine.settings.tagNames = e.erase engine.settings.tagNames)
    {entry : CatalogEntry} (hentry : entry ∈ engine.catalog.entries) {recipe : Recipe}
    (hr : recipe ∈ entry.recipe.nodes) :
    Respects (TaggedAlike engine.settings.tagNames d e) engine.settings
      (fun id ↦ ∃ node, (d.attributes node).get? "id" = some id) recipe := by
  have hid := h.names "id" (by simp)
  have hclass := h.names "class" (by simp)
  have hd := h.directives entry hentry recipe hr
  refine {
    asks := fun q hq ↦ ask_taggedAlike hde hid hclass (h.avoids_of_asks hentry hr hq)
    ids := fun node id s t hs hanswer ↦ ⟨node, ?_⟩
    text := fun f hf node ↦ answerOr_taggedAlike hde "" (hd.extractor f hf node)
    metadata := fun f hf node ↦ answerOr_taggedAlike hde none (hd.metadata f hf node)
    computers := fun p hp node ↦ answerOr_taggedAlike hde none (hd.computers p hp node)
    click := fun name node _ ↦ ?_
    input := fun name node _ ↦ ?_
    mark := fun name hname node value ↦ ?_ }
  · have hreply : s.page.reply (.attr node "id") = d.reply (.attr node "id") :=
      Document.reply_congr hs.erase_left hid hclass _ hid
    have hfound : d.attributeOf node "id" = .ok (some id) := hreply.symm.trans hanswer
    unfold Document.attributeOf Document.known at hfound
    split at hfound
    · exact Except.ok.inj hfound
    · cases hfound
  · exact (setAttribute_taggedAlike hde (by simp [Settings.tagNames]) node name).bind fun _ ↦
      register_taggedAlike _
  · exact (setAttribute_taggedAlike hde (by simp [Settings.tagNames]) node name).bind fun _ ↦
      register_taggedAlike _
  · refine setAttribute_taggedAlike hde (List.mem_map_of_mem ?_) node value
    exact List.mem_cons_of_mem _ (List.mem_cons_of_mem _ hname)

theorem pass_taggedAlike
    (hde : d.erase engine.settings.tagNames = e.erase engine.settings.tagNames) (path : String) :
    Parallel (TaggedAlike engine.settings.tagNames d e)
      (pass engine.catalog engine.settings path) (pass engine.catalog engine.settings path) := by
  have hid := h.names "id" (by simp)
  have hclass := h.names "class" (by simp)
  refine pass_parallel (fun entry hentry q hq ↦ ask_taggedAlike hde hid hclass ?_)
    (fun entry hentry recipe hr ↦ h.respects hde hentry hr) path
  cases q with
  | query context selector direct =>
    obtain ⟨contains, hrule⟩ := hq
    exact h.rules entry hentry selector contains hrule
  | root => trivial
  | text node => trivial
  | _ => exact hq.elim

/-- A pass on the document that it has left does nothing new. -/
theorem pass_again (path : String) (r : Registry) :
    pass engine.catalog engine.settings path
        ⟨(pass engine.catalog engine.settings path ⟨d, r⟩).2.page, r⟩ =
      pass engine.catalog engine.settings path ⟨d, r⟩ := by
  set left := pass engine.catalog engine.settings path ⟨d, r⟩ with hleft
  have hd : d.erase engine.settings.tagNames = left.2.page.erase engine.settings.tagNames :=
    ((h.pass_taggedAlike rfl path _ _ (taggedAlike_start r)).2.erase_left).symm
  obtain ⟨hresult, hsessions⟩ := h.pass_taggedAlike hd path _ _ (taggedAlike_start r)
  rw [← hleft] at hresult hsessions
  obtain ⟨tags, -, hpage, hagain⟩ := hsessions.tags
  -- The second pass lays the same tags over a document that has them.
  have hsame : left.2.page.overlay tags = left.2.page := by
    rw [hpage, Document.overlay_overlay_self]
  refine Prod.ext hresult.symm ?_
  rcases hsession : (pass engine.catalog engine.settings path ⟨left.2.page, r⟩).2 with ⟨page, r'⟩
  rw [hsession] at hagain hsessions
  rw [hsame] at hagain
  exact congrArg₂ Session.mk hagain hsessions.registry.symm

theorem processPage_again (path : String) (r : Registry) :
    { engine with registry := r }.processPage (engine.processPage d path).2.2 path =
      ((engine.processPage d path).1,
        { engine with registry := r.overlay (engine.registered d path) },
        (engine.processPage d path).2.2) := by
  have hpage : (engine.processPage d path).2.2 =
      ({ engine with registry := r }.processPage d path).2.2 := by
    rw [processPage_eq, processPage_eq { engine with registry := r }]
    rfl
  have hagain : { engine with registry := r }.processPage (engine.processPage d path).2.2 path =
      { engine with registry := r }.processPage d path := by
    rw [hpage, processPage_apply, processPage_apply]
    simp only [h.pass_again path r]
  rw [hagain, processPage_eq, processPage_eq engine]
  rfl

end Engine.Insulated

/-- Passes do not see tags. On documents that differ in tags only a pass ends alike, registers alike
and leaves documents that differ in tags only. A pass on the document that it has left, however it
ended, ends in the same way and leaves the document as it is, and the registry too, if that has what
the pass registers. -/
theorem Engine.processPage_insulated (engine : Engine) {d e : Document} (h : engine.Insulated d)
    (hde : d.erase engine.settings.tagNames = e.erase engine.settings.tagNames) (path : String) :
    let first := engine.processPage d path
    let other := engine.processPage e path
    (first.1 = other.1 ∧ first.2.1 = other.2.1 ∧
      first.2.2.erase engine.settings.tagNames = other.2.2.erase engine.settings.tagNames) ∧
    first.2.1.processPage first.2.2 path = first ∧
    ∀ r : Registry, { engine with registry := r }.processPage first.2.2 path =
      (first.1, { engine with registry := r.overlay (engine.registered d path) }, first.2.2) := by
  obtain ⟨hresult, hsessions⟩ :=
    h.pass_taggedAlike hde path _ _ (Pass.taggedAlike_start engine.registry)
  refine ⟨⟨hresult, ?_, hsessions.erase_congr hde⟩, ?_, h.processPage_again path⟩
  · exact congrArg (Engine.mk engine.catalog engine.settings) hsessions.registry
  · have hagain := h.processPage_again path (engine.registry.overlay (engine.registered d path))
    have hengine : (engine.processPage d path).2.1 =
        { engine with registry := engine.registry.overlay (engine.registered d path) } := by
      rw [processPage_eq]
    rw [Registry.overlay_overlay_self, ← hengine] at hagain
    exact hagain

namespace Engine

def sorting : Engine :=
  .ofCatalog ⟨[⟨.text "select" none, .node { Directive.ofSelector "select" with
    text := .extractor fun node ↦ .question (.text node)
    name := .fromText
    clickable := true } []⟩]⟩

def sortPage : Document :=
  let control := ((Document.new "html").appendElement 0 "select").insertAttribute 1 "id" "by"
  let option := (control.appendElement 0 "a").insertAttribute 2 "id" "by_name"
  (option.appendText 1 "Sort").appendText 2 "Name"

def staleSortPage : Document := sortPage.insertAttribute 2 "data-clickable-id" "gone"

theorem sorting_insulated : sorting.Insulated sortPage := by
  have hid : "id" ∉ sorting.settings.tagNames := by decide
  have hclass : "class" ∉ sorting.settings.tagNames := by decide
  have hword : IsWord sorting.settings.dropdownOptionTag := ⟨'a', [], rfl, rfl, by simp⟩
  refine {
    names := by decide
    rules := ?_
    directives := ?_
    preserved := by decide
    label := by decide +kernel
    options := fun _ id _ ↦ Pass.optionSelector_avoids hword hid id }
  · intro entry hentry selector contains hrule
    obtain rfl := List.mem_singleton.1 hentry
    cases hrule
    decide +kernel
  · intro entry hentry recipe hr
    obtain rfl := List.mem_singleton.1 hentry
    obtain rfl := List.mem_singleton.1 hr
    refine ⟨by decide +kernel, ?_, ?_, ?_, ?_, ?_, ?_⟩
    · rintro _ ⟨⟩
    · rintro _ ⟨⟩
    · rintro _ ⟨⟩
    · rintro _ ⟨⟩ node
      exact Inquiry.blind_question hid hclass trivial
    · rintro _ ⟨⟩
    · rintro _ ⟨⟩

theorem erase_staleSortPage :
    sortPage.erase sorting.settings.tagNames = staleSortPage.erase sorting.settings.tagNames := by
  have hname : asciiLower "data-clickable-id" ∈ sorting.settings.tagNames := by decide
  have hstart : Pass.TaggedAlike sorting.settings.tagNames sortPage sortPage ⟨sortPage, ∅⟩
      ⟨sortPage, ∅⟩ := Pass.taggedAlike_start ∅
  exact (hstart.insertAttribute hname 2 "gone").erase_left.symm

theorem processPage_insulated_sortPage :
    sorting.Insulated sortPage ∧
    sortPage.erase sorting.settings.tagNames = staleSortPage.erase sorting.settings.tagNames ∧
    (sorting.processPage sortPage "/").1 = (sorting.processPage staleSortPage "/").1 ∧
    (sorting.processPage staleSortPage "/").2.1.registry.clickables.keys =
      ["sort", "sort.Name"] := by
  have hsame := sorting.processPage_insulated sorting_insulated erase_staleSortPage "/"
  exact ⟨sorting_insulated, erase_staleSortPage, hsame.1.1, by decide +kernel⟩

end Engine

end PageOutline
