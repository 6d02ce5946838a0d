import PageOutline.Proofs.Descendants
import PageOutline.Proofs.Endings

namespace PageOutline

open LivePage
open Relation (ReflTransGen)
open Text (asciiLower)

namespace Document

variable {settings : Settings} {d e : Document}

/-- The name and the data of the record on a node. -/
def recordTags (settings : Settings) (d : Document) (id : NodeId) :
    Option String × Option String :=
  ((d.attributes id).get? (asciiLower settings.metaNameAttribute),
    (d.attributes id).get? (asciiLower settings.metaDataAttribute))

def Carries (settings : Settings) (d : Document) (id : NodeId) (r : Record) : Prop :=
  d.recordTags settings id = (some r.name, some r.payload.canonical.compress)

/-- No node has a tag of a record. -/
def Recordless (settings : Settings) (d : Document) : Prop :=
  ∀ id, d.recordTags settings id = (none, none)

/-- From the first document to the second a node gets a record of `M`, or keeps what it has. -/
def RecordsOf (settings : Settings) (M : NodeId → Record → Prop) (d e : Document) : Prop :=
  ∀ id, e.recordTags settings id = d.recordTags settings id ∨
    ∃ r, M id r ∧ e.Carries settings id r

theorem RecordsOf.refl {M : NodeId → Record → Prop} (d : Document) : d.RecordsOf settings M d :=
  fun _ ↦ .inl rfl

theorem RecordsOf.trans {M : NodeId → Record → Prop} {f : Document}
    (h : d.RecordsOf settings M e) (h' : e.RecordsOf settings M f) : d.RecordsOf settings M f := by
  intro id
  rcases h' id with hsame | hmade
  · rcases h id with hsame' | ⟨r, hr, hcarries⟩
    · exact .inl (hsame.trans hsame')
    · exact .inr ⟨r, hr, hsame.trans hcarries⟩
  · exact .inr hmade

theorem isElement_insertAttribute (d : Document) (node : NodeId) (name value : String)
    (id : NodeId) : (d.insertAttribute node name value).isElement id = d.isElement id := by
  rw [insertAttribute_eq, isElement_mapAttributes]

theorem attributes_insertAttribute (node id : NodeId) (name value : String) :
    (d.insertAttribute node name value).attributes id =
      if node = id ∧ d.isElement id then (d.attributes id).insert (asciiLower name) value
      else d.attributes id := by
  rw [attributes_eq, attributes_eq, node?_insertAttribute, isElement_eq]
  by_cases hid : node = id
  · rcases d.node? id with _ | ⟨⟨tag, attributes⟩ | s, _, _, _⟩
    · simp [hid]
    · simp [hid, NodeContent.isElement, NodeContent.setAttribute, NodeContent.attributes]
    · simp [hid, NodeContent.isElement, NodeContent.setAttribute]
  · simp [hid]

theorem recordTags_insertAttribute {name : String}
    (hname : asciiLower name ≠ asciiLower settings.metaNameAttribute)
    (hdata : asciiLower name ≠ asciiLower settings.metaDataAttribute) (node : NodeId)
    (value : String) (id : NodeId) :
    (d.insertAttribute node name value).recordTags settings id = d.recordTags settings id := by
  unfold recordTags
  rw [attributes_insertAttribute]
  split
  · rw [OrderedMap.get?_insert, OrderedMap.get?_insert, if_neg hname.symm, if_neg hdata.symm]
  · rfl

theorem recordsOf_insertAttribute
    (hapart : asciiLower settings.metaNameAttribute ≠ asciiLower settings.metaDataAttribute)
    {node : NodeId} (helement : d.isElement node) {r : Record} {M : NodeId → Record → Prop}
    (hr : M node r) :
    d.RecordsOf settings M
      ((d.insertAttribute node settings.metaNameAttribute r.name).insertAttribute node
        settings.metaDataAttribute r.payload.canonical.compress) := by
  intro id
  by_cases hid : node = id
  · refine .inr ⟨r, hid ▸ hr, ?_⟩
    subst hid
    unfold Carries recordTags
    rw [attributes_insertAttribute, attributes_insertAttribute, isElement_insertAttribute]
    simp [helement, hapart]
  · left
    unfold recordTags
    rw [attributes_insertAttribute, attributes_insertAttribute]
    simp [hid]

end Document

namespace Pass

variable {settings : Settings} {s : Session Document}

theorem session_of_kept {α : Type} {x : Pass Document α}
    (h : ∀ I : Document → Registry → Prop, Parallel (Kept I) x x) (s : Session Document) :
    (x s).2 = s := by
  obtain ⟨-, -, hpage, hregistry⟩ :=
    h (fun e r ↦ e = s.page ∧ r = s.registry) s s ⟨rfl, rfl, rfl⟩
  exact Session.mk.injEq .. ▸ ⟨hpage, hregistry⟩

theorem session_resolveText (d : Directive) (node : NodeId) (s : Session Document) :
    (resolveText d node s).2 = s :=
  session_of_kept (fun _ ↦ resolveText_parallel (fun _ _ _ ↦ ask_kept _) (fun _ ↦ ask_kept _)
    (fun f _ node ↦ .answerOr "" (.inquiry ask_kept (f node))) node) s

theorem session_composeAttributes (d : Directive) (node : NodeId) (output : Outline)
    (s : Session Document) : (composeAttributes settings d node output s).2 = s :=
  session_of_kept (fun _ ↦ composeAttributes_parallel (fun _ _ ↦ ask_kept _)
    (fun p _ ↦ .answerOr none (.inquiry ask_kept (p.2 node))) output) s

theorem findMatches_apply (recipe : Recipe) (node : NodeId) (s : Session Document) :
    findMatches recipe node s =
      (s.page.query (if recipe.directive.queryFromRoot then Document.root else node)
        recipe.directive.selector recipe.directive.directChildOnly, s) := by
  unfold findMatches
  cases recipe.directive.queryFromRoot <;> rfl

theorem session_findMatches (recipe : Recipe) (node : NodeId) (s : Session Document) :
    (findMatches recipe node s).2 = s := by
  rw [findMatches_apply]

theorem onPage_setAttribute {node : NodeId} (h : s.page.isElement node) (name value : String) :
    onPage (setAttribute node name value) s =
      (.ok (), { s with page := s.page.insertAttribute node name value }) := by
  rw [onPage_apply]
  simp only [setAttribute, Document.setAttribute_of_isElement h]

theorem setRecord_page (settings : Settings) (node : NodeId) (r : Record) (s : Session Document) :
    ((onPage (setAttribute node settings.metaNameAttribute r.name) >>= fun _ ↦ onPage
        (setAttribute node settings.metaDataAttribute r.payload.canonical.compress)) s).2.page =
      if s.page.isElement node then
        (s.page.insertAttribute node settings.metaNameAttribute r.name).insertAttribute node
          settings.metaDataAttribute r.payload.canonical.compress
      else s.page := by
  split
  · next helement =>
    have hstill := (s.page.isElement_insertAttribute node settings.metaNameAttribute r.name
      node).trans helement
    rw [bind_of_ok (onPage_setAttribute helement _ _), onPage_setAttribute hstill]
  · next helement =>
    obtain ⟨failure, hset⟩ := Document.setAttribute_of_not_isElement helement
      settings.metaNameAttribute r.name
    rw [bind_apply, onPage_apply, hset]

theorem attachMetadata_cases (settings : Settings) (d : Directive) (node : NodeId)
    (s : Session Document) :
    (attachMetadata settings d node s).2.page = s.page ∨
      ∃ f r, d.metadata = some f ∧ ((f node).run s.page).1 = .ok (some r) ∧ s.page.isElement node ∧
        (attachMetadata settings d node s).2.page =
          (s.page.insertAttribute node settings.metaNameAttribute r.name).insertAttribute node
            settings.metaDataAttribute r.payload.canonical.compress := by
  unfold attachMetadata
  rcases hf : d.metadata with _ | f
  · exact .inl rfl
  have hanswer := answerOr_apply none (f node) s
  rcases hrun : ((f node).run s.page).1 with failure | _ | r <;> rw [hrun] at hanswer <;>
    dsimp only <;> rw [bind_of_ok hanswer]
  · exact .inl rfl
  · exact .inl rfl
  · have hpage := setRecord_page settings node r s
    by_cases helement : s.page.isElement node
    · rw [if_pos helement] at hpage
      exact .inr ⟨f, r, rfl, hrun, helement, hpage⟩
    · rw [if_neg helement] at hpage
      exact .inl hpage

theorem tagsInStep_of_kept {I : Document → Prop}
    (h : ∀ d node, ∀ name ∈ [settings.clickableAttribute, settings.inputAttribute,
      settings.selectAttribute], ∀ value, I d → I (d.insertAttribute node name value))
    (recipe : Recipe) :
    TagsInStep (Kept (σ := Document) fun d _ ↦ I d) settings settings (fun _ ↦ True) recipe
      recipe where
  route := ⟨rfl, rfl, rfl, rfl, rfl, rfl⟩
  label := rfl
  optionTag := rfl
  asks q _ := ask_kept q
  ids _ _ _ _ _ _ := trivial
  click name node _ := tag_kept (fun _ _ hd ↦ hd) fun d _ hd ↦ h d node _ (by simp) name hd
  input name node _ := tag_kept (fun _ _ hd ↦ hd) fun d _ hd ↦ h d node _ (by simp) name hd
  select name node := mark_kept fun d _ hd ↦ h d node _ (by simp) name hd

namespace Stop

/-- The recipe's generator makes a record of the node, as the page is at the stop. -/
def Makes (w : Stop Document) (r : Record) : Prop :=
  ∃ f, w.recipe.directive.metadata = some f ∧ ((f w.node).run w.session.page).1 = .ok (some r)

theorem tagsInStep_recordTags (hapart : settings.tagNames.Nodup) (d : Document)
    (recipe : Recipe) :
    TagsInStep (Kept (σ := Document) fun e _ ↦ e.recordTags settings = d.recordTags settings)
      settings settings (fun _ ↦ True) recipe recipe := by
  refine tagsInStep_of_kept (fun e node name hname value he ↦ ?_) recipe
  rw [← he]
  simp only [Settings.tagNames, List.map_cons, List.map_nil, List.nodup_cons, List.mem_cons,
    List.not_mem_nil, or_false, not_or] at hapart hname
  funext id
  rcases hname with rfl | rfl | rfl
  · exact Document.recordTags_insertAttribute hapart.1.2.2.1 hapart.1.2.2.2 node value id
  · exact Document.recordTags_insertAttribute hapart.2.1.2.1 hapart.2.1.2.2 node value id
  · exact Document.recordTags_insertAttribute hapart.2.2.1.1 hapart.2.2.1.2 node value id

theorem attachMetadata_recordsOf (hapart : settings.tagNames.Nodup) {w : Stop Document}
    {M : NodeId → Record → Prop} (hM : ∀ r, w.Makes r → M w.node r) :
    w.session.page.RecordsOf settings M
      (attachMetadata settings w.recipe.directive w.node w.session).2.page := by
  have hmeta : asciiLower settings.metaNameAttribute ≠ asciiLower settings.metaDataAttribute := by
    simp only [Settings.tagNames, List.map_cons, List.map_nil, List.nodup_cons] at hapart
    simpa using hapart.2.2.2.1
  rcases attachMetadata_cases settings w.recipe.directive w.node w.session with
    hpage | ⟨f, r, hf, hr, helement, hpage⟩
  · rw [hpage]
    exact .refl _
  · rw [hpage]
    exact Document.recordsOf_insertAttribute hmeta helement (hM r ⟨f, hf, hr⟩)

theorem enter_recordsOf (hapart : settings.tagNames.Nodup) {w : Stop Document}
    {M : NodeId → Record → Prop} (hM : ∀ r, w.Makes r → M w.node r) :
    w.session.page.RecordsOf settings M (w.enter settings).2.page := by
  let R (s t : Session Document) : Prop := s.page.RecordsOf settings M t.page
  have htrans {s t u : Session Document} (h : R s t) (h' : R t u) : R s u := h.trans h'
  have hsame {s t : Session Document} (h : t = s) : R s t := by
    subst h
    exact .refl t.page
  have hkept {α : Type} {Q : α → α → Prop} {x : Pass Document α} {s : Session Document}
      (h : Related (Kept fun e _ ↦ e.recordTags settings = s.page.recordTags settings) Q x x) :
      R s (x s).2 := fun id ↦ .inl (congrFun (h s s ⟨rfl, rfl⟩).2.2 id)
  unfold enter
  rw [enter_eq]
  -- Up to the metadata the session stays as it is, so that the record is made at the stop itself.
  refine bind_preserves (R := R) htrans (hsame rfl) fun liveTag s hs ↦ ?_
  obtain rfl : s = w.session := (congrArg Prod.snd hs).symm
  refine bind_preserves (R := R) htrans (hsame (session_resolveText ..)) fun text s hs ↦ ?_
  obtain rfl : s = w.session := (congrArg Prod.snd hs).symm.trans (session_resolveText ..)
  refine bind_preserves (R := R) htrans (attachMetadata_recordsOf hapart hM) fun _ s _ ↦ ?_
  generalize hu : (w.recipe.directive.name.resolve w.parent text w.index).usable? = name
  have hn : ∀ s ∈ name, s ≠ "" := fun s hs ↦ ne_empty_of_usable (hu.trans hs)
  have hclick := (tagsInStep_recordTags hapart s.page w.recipe).tagIfClickable hn w.node
  refine bind_preserves (R := R) htrans (hkept hclick.related) fun _ t _ ↦ ?_
  refine bind_preserves (R := R) htrans (hsame (session_composeAttributes ..)) fun output u _ ↦ ?_
  have hcontrol := (tagsInStep_recordTags hapart u.page w.recipe).describeControl .eq liveTag hn
    w.node (Eq.refl output)
  exact bind_preserves (R := R) htrans (hkept hcontrol) fun _ v _ ↦ hsame rfl

/-- A stop as a walk comes to it: the document is at most tagged, and its root reaches the node over
elements. -/
structure Placed (d : Document) (settings : Settings) (w : Stop Document) : Prop where
  session : Retags d settings w.session
  node : ReflTransGen d.HasChild Document.root w.node

theorem findMatches_eq_ok {recipe : Recipe} {node : NodeId} {s t : Session Document}
    {found : List NodeId} (h : findMatches recipe node s = (.ok found, t)) :
    ∃ context, (context = Document.root ∨ context = node) ∧
      s.page.query context recipe.directive.selector recipe.directive.directChildOnly =
        .ok found := by
  rw [findMatches_apply] at h
  refine ⟨_, ?_, congrArg Prod.fst h⟩
  cases recipe.directive.queryFromRoot with
  | false => exact .inr rfl
  | true => exact .inl rfl

theorem reaches_of_query {d : Document} {s : Session Document} (hs : Retags d settings s)
    {context : NodeId} (hcontext : ReflTransGen d.HasChild Document.root context)
    {selector : String} {direct : Bool} {found : List NodeId}
    (h : s.page.query context selector direct = .ok found) :
    ∀ x ∈ found, ReflTransGen d.HasChild Document.root x := by
  intro x hx
  have hreach := Document.reaches_of_mem_candidates (Document.mem_candidates_of_query h x hx)
  rw [hs.hasChild] at hreach
  exact hcontext.trans hreach

theorem Next.placed {d : Document} {v w : Stop Document} (hv : v.Placed d settings)
    (h : Next settings v w) : w.Placed d settings := by
  obtain @⟨recipe, childPrefix, output, _, s, t, _, earlier, later, child, hturned, hfound,
    hwalked⟩ := h
  have hs := hturned.retags hv.session
  obtain rfl : t = s := (congrArg Prod.snd hfound).symm.trans (session_findMatches ..)
  obtain ⟨context, hcontext, hquery⟩ := findMatches_eq_ok hfound
  have hreach : ReflTransGen d.HasChild Document.root context := by
    rcases hcontext with rfl | rfl
    · exact .refl
    · exact hv.node
  refine ⟨?_, reaches_of_query hs hreach hquery child ?_⟩
  · have hend := addMatches_retags recipe childPrefix v.recipe.directive.separatorEvery earlier
      output hs
    rwa [hwalked] at hend
  · exact List.mem_append_right _ List.mem_cons_self

theorem Reaches.placed {d : Document} {v w : Stop Document} (hv : v.Placed d settings)
    (h : Reaches settings v w) : w.Placed d settings := by
  induction h with
  | refl => exact hv
  | tail _ hnext ih => exact hnext.placed ih

end Stop

end Pass

namespace Engine

open Pass

variable {e : Engine} {d : Document} {path : String}

theorem onPage_queryFirst (context : NodeId) (selector : String) (s : Session Document) :
    onPage (queryFirst context selector) s =
      ((s.page.query context selector false).map List.head?, s) := by
  have hanswer := onPage_answer (.query context selector false) s
  rw [queryFirst, LivePage.query, onPage_bind, bind_apply, hanswer]
  simp only [Document.reply]
  cases s.page.query context selector false <;> rfl

theorem Starts.placed {v : Stop Document} (h : e.Starts d path v) :
    v.session.page = d ∧ v.Placed d e.settings := by
  obtain @⟨recipe, root, found, s, t, u, hselected, hrooted, hmatched⟩ := h
  rw [select_apply] at hselected
  obtain rfl : s = ⟨d, e.registry⟩ := (congrArg Prod.snd hselected).symm
  cases hrooted
  rw [onPage_queryFirst] at hmatched
  obtain rfl : u = ⟨d, e.registry⟩ := (congrArg Prod.snd hmatched).symm
  have hsession : Retags d e.settings ⟨d, e.registry⟩ := .refl d
  refine ⟨rfl, hsession, ?_⟩
  cases hquery : d.query Document.root recipe.selector false with
  | error failure =>
    rw [hquery] at hmatched
    cases hmatched
  | ok elements =>
    rw [hquery] at hmatched
    cases hmatched
    cases elements with
    | nil => exact .refl
    | cons x xs => exact Stop.reaches_of_query hsession .refl hquery x List.mem_cons_self

theorem Visits.placed {w : Stop Document} (h : e.Visits d path w) : w.Placed d e.settings := by
  obtain ⟨v, hv, hreaches⟩ := h
  exact hreaches.placed hv.placed.2

/-- In a pass an element gets no other record than those made where the walk stops at it. -/
theorem processPage_recordsOf (hapart : e.settings.tagNames.Nodup) {outline : Outline}
    (h : (e.processPage d path).1 = .ok outline) :
    d.RecordsOf e.settings (fun id r ↦ ∃ w, e.Visits d path w ∧ w.node = id ∧ w.Makes r)
      (e.processPage d path).2.2 := by
  obtain ⟨v, hv⟩ := exists_starts_of_ok h
  have hpage := hv.placed.1
  let M (id : NodeId) (r : Record) : Prop := ∃ w, e.Visits d path w ∧ w.node = id ∧ w.Makes r
  have hwalk : v.session.page.RecordsOf e.settings M (v.process e.settings).2.page := by
    refine Stop.process_preserves
      (R := fun s t : Session Document ↦ s.page.RecordsOf e.settings M t.page)
      (fun s ↦ .refl s.page) (fun h h' ↦ h.trans h') (fun recipe node s ↦ ?_) fun w hw ↦ ?_
    · rw [session_findMatches]
      exact .refl s.page
    · exact Stop.enter_recordsOf hapart fun r hr ↦ ⟨w, ⟨v, hv, hw⟩, rfl, hr⟩
  rw [hv.processPage]
  rwa [hpage] at hwalk

end Engine

end PageOutline
