import PageOutline.Proofs.Infallible
import PageOutline.Proofs.Traversal

namespace PageOutline

open LivePage

theorem Recipe.nodes_subset_of_mem_children {r recipe : Recipe} (h : r ∈ recipe.children) :
    r.nodes ⊆ recipe.nodes := by
  have hall (rs : List Recipe) (hr : r ∈ rs) : r.nodes ⊆ nodesAll rs := by
    induction rs with
    | nil => cases hr
    | cons r' rs ih =>
      rw [nodesAll]
      rcases List.mem_cons.1 hr with rfl | hr
      · exact List.subset_append_left _ _
      · exact List.subset_append_of_subset_right _ (ih hr)
  cases recipe with
  | node d rs =>
    rw [nodes]
    exact List.subset_cons_of_subset _ (hall rs h)

def NameMode.Static : NameMode → Prop
  | .literal name => name ≠ ""
  | .fromPosition => True
  | .none | .fromText => False

theorem joinName_ne_empty {segment : String} (parent : String) (h : segment ≠ "") :
    joinName parent segment ≠ "" := by
  unfold joinName
  split
  · exact h
  · exact Pass.append_dot_ne_empty parent segment

theorem toList_toString (index : Nat) : (toString index).toList = Nat.toDigits 10 index := by
  have hrepr : toString index = String.ofList (Nat.toDigits 10 index) :=
    Nat.repr_eq_ofList_toDigits
  rw [hrepr, String.toList_ofList]

theorem toString_ne_empty (index : Nat) : toString index ≠ "" := by
  intro h
  apply Nat.toDigits_ne_nil (b := 10) (n := index)
  rw [← toList_toString, h, String.toList_empty]

theorem Naming.usable?_named {name : String} (h : name ≠ "") :
    (Naming.named name).usable? = some name := by
  simp [Naming.usable?, Naming.named, h]

theorem NameMode.Static.usable?_ne_none {mode : NameMode} (h : mode.Static)
    (parent text : String) (index : Nat) :
    (mode.resolve parent text index).usable? ≠ Option.none := by
  cases mode with
  | none => exact h.elim
  | fromText => exact h.elim
  | literal name =>
    have hname := Naming.usable?_named (joinName_ne_empty parent h)
    exact Option.ne_none_iff_exists'.2 ⟨_, hname⟩
  | fromPosition =>
    have hname := Naming.usable?_named (joinName_ne_empty parent (toString_ne_empty index))
    exact Option.ne_none_iff_exists'.2 ⟨_, hname⟩

namespace Pass

variable {d : Document} {settings : Settings}

theorem tagIfClickable_retags {recipe : Recipe} {node : NodeId} (hr : recipe.directive.Readable)
    (name : Option String) (hnode : d.isElement node) :
    Ends (Retags d settings)
      (fun failure ↦ (recipe.directive.clickable ∧ name = none) ∧
        failure = .unnamedClickable recipe.selector node)
      (fun _ ↦ ¬(recipe.directive.clickable ∧ name = none))
      (tagIfClickable settings recipe name node) := by
  unfold tagIfClickable
  split
  · next hclickable =>
    cases name with
    | none => exact .throw ⟨⟨hclickable, rfl⟩, rfl⟩
    | some name => exact (tagClickTarget_retags hr name hnode).mono fun _ _ ↦ by simp
  · next hclickable => exact .pure fun h ↦ hclickable h.1

namespace Stop

/-- The recipe makes the node clickable, and the name that it gives the node is absent or empty. -/
def Unnamed {σ : Type} [LivePage σ] (w : Stop σ) : Prop :=
  w.recipe.directive.clickable ∧
    ∃ text, (resolveText w.recipe.directive w.node w.session).1 = .ok text ∧
      (w.recipe.directive.name.resolve w.parent text w.index).usable? = none

/-- A stop as a walk over a document comes to it. -/
structure Sound (d : Document) (settings : Settings) (w : Stop Document) : Prop where
  session : Retags d settings w.session
  node : d.isElement w.node
  recipe : ∀ r ∈ w.recipe.nodes, r.directive.Readable

theorem enter_cases (hd : d.Linked) (hs : settings.Readable) {w : Stop Document}
    (hw : w.Sound d settings) :
    Ending (fun failure ↦ w.Unnamed ∧ failure = .unnamedClickable w.recipe.selector w.node)
      (fun _ ↦ ¬w.Unnamed) (w.enter settings).1 ∧ Retags d settings (w.enter settings).2 := by
  obtain ⟨hsession, hnode, hrecipe⟩ := hw
  have hr := hrecipe w.recipe w.recipe.self_mem_nodes
  have htag : d.Answers (.tag w.node) := hnode
  obtain ⟨liveTag, hanswer⟩ := (Document.exists_reply_iff (.tag w.node)).2
    ((hsession.answers (.tag w.node)).2 htag)
  have htagged : onPage (tag w.node) w.session = (.ok liveTag, w.session) := by
    rw [tag, onPage_answer, hanswer]
  obtain ⟨text, t, htext, -, ht⟩ := (resolveText_retags hr hnode).exists_ok hsession
  -- Tag and text are told whatever they are, and with the text it is settled if there is a name.
  have hunnamed : w.Unnamed ↔ w.recipe.directive.clickable ∧
      (w.recipe.directive.name.resolve w.parent text w.index).usable? = none := by
    unfold Unnamed
    rw [htext]
    refine and_congr_right fun _ ↦ ⟨?_, fun h ↦ ⟨text, rfl, h⟩⟩
    rintro ⟨_, ⟨⟩, h⟩
    exact h
  unfold enter
  rw [enter_eq, bind_of_ok htagged, bind_of_ok htext, hunnamed]
  generalize w.recipe.directive.name.resolve w.parent text w.index = naming
  have hrest : Ends (Retags d settings)
      (fun failure ↦ (w.recipe.directive.clickable ∧ naming.usable? = none) ∧
        failure = .unnamedClickable w.recipe.selector w.node)
      (fun _ ↦ ¬(w.recipe.directive.clickable ∧ naming.usable? = none))
      (do
        attachMetadata settings w.recipe.directive w.node
        tagIfClickable settings w.recipe naming.usable? w.node
        let output ← composeAttributes settings w.recipe.directive w.node
          (w.recipe.directive.head liveTag text naming.usable?)
        let output ← describeControl settings w.recipe liveTag naming.usable? w.node output
        return (output, naming.childPrefix)) := by
    refine (attachMetadata_retags _ hnode).bind fun _ _ ↦ ?_
    refine (tagIfClickable_retags hr _ hnode).bind fun _ hnamed ↦ ?_
    have hknown (s : Session Document) (h : Retags d settings s) : (s.page.node? w.node).isSome :=
      (h.isSome_node? w.node).trans (Document.node?_of_isElement hnode)
    refine (composeAttributes_ends hknown settings _ _).bind fun output _ ↦ ?_
    exact (describeControl_retags hd hs liveTag _ hnode output).bind fun _ _ ↦ .pure hnamed
  exact hrest t ht

theorem enter_eq_error (hd : d.Linked) (hs : settings.Readable) {w : Stop Document}
    (hw : w.Sound d settings) {failure : Failure} :
    (w.enter settings).1 = .error failure ↔
      w.Unnamed ∧ failure = .unnamedClickable w.recipe.selector w.node := by
  obtain ⟨hend, -⟩ := enter_cases hd hs hw
  constructor
  · intro h
    rw [h] at hend
    exact hend
  · rintro ⟨hunnamed, rfl⟩
    rcases hresult : (w.enter settings).1 with failure | out
    · rw [hresult] at hend
      rw [hend.2]
    · rw [hresult] at hend
      exact absurd hunnamed hend

end Stop

section Walk

variable (d settings)

theorem inStep_kept (recipe : Recipe) :
    InStep (Kept (σ := Document) fun e _ ↦ d.Tagged settings.tagNames e) Eq settings settings
      (fun _ ↦ True) recipe recipe :=
  (d.tagged_keptByTags settings recipe).respects.inStep

variable {d settings}

theorem retags_of_related {α : Type} {R : α → α → Prop} {x : Pass Document α}
    (h : Related (Kept fun e _ ↦ d.Tagged settings.tagNames e) R x x) {s : Session Document}
    (hs : Retags d settings s) : Retags d settings (x s).2 := (h s s ⟨rfl, hs⟩).2.2

theorem processChildren_retags (every : Option Nat) (node : NodeId) (childPrefix : String)
    (recipes : List Recipe) (output : Outline) {s : Session Document}
    (hs : Retags d settings s) :
    Retags d settings (processChildren settings every node childPrefix recipes output s).2 :=
  retags_of_related (processChildren_related .eq recipes recipes
    (Recipe.pairedAll_self recipes fun r _ ↦ inStep_kept d settings r)
    (fun _ _ _ ho ↦ ho ▸ rfl) node childPrefix rfl) hs

theorem addMatches_retags (recipe : Recipe) (childPrefix : String) (every : Option Nat)
    (nodes : List NodeId) (output : Outline) {s : Session Document} (hs : Retags d settings s) :
    Retags d settings (addMatches (fun child i ↦ process settings recipe child childPrefix i) every
      nodes 0 output s).2 := by
  have hself := Recipe.paired_self recipe fun r _ ↦ inStep_kept d settings r
  exact retags_of_related (addMatches_related .eq
    (fun child i ↦ process_related .eq recipe recipe hself child childPrefix i)
    (fun _ _ _ ho ↦ ho ▸ rfl) nodes 0 rfl) hs

end Walk

namespace Stop

theorem enter_retags {w : Stop Document} (h : Retags d settings w.session) :
    Retags d settings (w.enter settings).2 :=
  retags_of_related ((inStep_kept d settings w.recipe).enter .eq w.node w.parent w.index) h

theorem TurnsTo.retags {v : Stop Document} (hv : Retags d settings v.session) {recipe : Recipe}
    {childPrefix : String} {output : Outline} {s : Session Document}
    (h : v.TurnsTo settings recipe childPrefix output s) : Retags d settings s := by
  obtain @⟨before, _, _, head, _, _, _, _, -, hentered, hwalked⟩ := h
  have hstart := enter_retags hv
  rw [hentered] at hstart
  have hend := processChildren_retags v.recipe.directive.separatorEvery v.node childPrefix before
    head hstart
  rwa [hwalked] at hend

theorem TurnsTo.readable {v : Stop Document} (hv : v.Sound d settings) {recipe : Recipe}
    {childPrefix : String} {output : Outline} {s : Session Document}
    (h : v.TurnsTo settings recipe childPrefix output s) :
    ∀ r ∈ recipe.nodes, r.directive.Readable :=
  fun r hr ↦ hv.recipe r (Recipe.nodes_subset_of_mem_children h.mem hr)

theorem Next.sound (hd : d.Linked) {v w : Stop Document}
    (hv : v.Sound d settings) (h : Next settings v w) : w.Sound d settings := by
  obtain @⟨recipe, childPrefix, output, _, _, _, _, earlier, _, child, hturned, hfound,
    hwalked⟩ := h
  have hreadable := hturned.readable hv
  have hfind : Ends (Retags d settings) (fun _ ↦ True) _ (findMatches recipe v.node) :=
    findMatches_retags hd (hreadable recipe recipe.self_mem_nodes) hv.node
  obtain ⟨helements, hstart⟩ := hfind.of_ok (hturned.retags hv.session) hfound
  refine ⟨?_, helements child ?_, hreadable⟩
  · have hend := addMatches_retags recipe childPrefix v.recipe.directive.separatorEvery earlier
      output hstart
    rwa [hwalked] at hend
  · exact List.mem_append_right _ List.mem_cons_self

theorem Reaches.sound (hd : d.Linked) {v w : Stop Document}
    (hv : v.Sound d settings) (h : Reaches settings v w) : w.Sound d settings := by
  induction h with
  | refl => exact hv
  | tail _ hnext ih => exact hnext.sound hd ih

theorem Reaches.mem_nodes {σ : Type} [LivePage σ] {v w : Stop σ} (h : Reaches settings v w) :
    w.recipe ∈ v.recipe.nodes := by
  induction h using Relation.ReflTransGen.head_induction_on with
  | refl => exact w.recipe.self_mem_nodes
  | head hnext _ ih => exact Recipe.nodes_subset_of_mem_children hnext.mem ih

theorem breaks_iff (hd : d.Linked) (hs : settings.Readable) {w : Stop Document}
    (hw : w.Sound d settings) {failure : Failure} :
    w.Breaks settings failure ↔
      w.Unnamed ∧ failure = .unnamedClickable w.recipe.selector w.node := by
  rw [← enter_eq_error hd hs hw]
  constructor
  · rintro (h | @⟨recipe, _, _, s, hturned, h⟩)
    · exact h
    · have hfind : Ends (Retags d settings) (fun _ ↦ False) _ (findMatches recipe w.node) :=
        findMatches_retags hd (hturned.readable hw recipe recipe.self_mem_nodes) hw.node
      obtain ⟨found, _, hfound, -⟩ := hfind.exists_ok (hturned.retags hw.session)
      rw [hfound] at h
      cases h
  · exact .enter

theorem process_eq_error_iff_unnamed (hd : d.Linked) (hs : settings.Readable) {v : Stop Document}
    (hv : v.Sound d settings) {failure : Failure} :
    (v.process settings).1 = .error failure ↔
      ∃ w, Reaches settings v w ∧ w.Unnamed ∧
        failure = .unnamedClickable w.recipe.selector w.node := by
  rw [process_eq_error_iff_reaches]
  refine exists_congr fun w ↦ and_congr_right fun hreaches ↦ ?_
  exact breaks_iff hd hs (hreaches.sound hd hv)

end Stop

end Pass

namespace Engine

open Pass

variable {e : Engine} {d : Document} {path : String}

instance decidableEqError {ε α : Type} [DecidableEq ε] (x : Except ε α) (failure : ε) :
    Decidable (x = .error failure) :=
  match x with
  | .ok _ => .isFalse (by simp)
  | .error failure' => decidable_of_iff (failure' = failure) (by simp)

theorem select_apply (c : Catalog) (path : String) (s : Session Document) :
    onPage (c.select path) s = ((c.select path s.page).1, s) := by
  let I : Document → Registry → Prop := fun d r ↦ d = s.page ∧ r = s.registry
  have hrules (entry entry' : CatalogEntry) (he : entry = entry') :
      Parallel (Kept (σ := Document) I) (onPage (entry.rule.holds (normalizePath path)))
        (onPage (entry'.rule.holds (normalizePath path))) := by
    subst he
    exact entry.rule.holds_parallel _ fun q _ ↦ ask_kept q
  have hkept := Catalog.selectAmong_related hrules
    (List.forall₂_same.2 fun entry (_ : entry ∈ c.entries) ↦ rfl)
  obtain ⟨-, -, hpage, hregistry⟩ := hkept s s ⟨rfl, rfl, rfl⟩
  exact Prod.ext rfl (Session.mk.injEq .. ▸ ⟨hpage, hregistry⟩)

theorem exists_starts (hd : d.Linked) {recipe : Recipe}
    (hselected : (e.catalog.select path d).1 = .ok recipe)
    (hr : ∀ r ∈ recipe.nodes, r.directive.Readable) :
    ∃ v, e.Starts d path v ∧ v.recipe = recipe ∧ v.Sound d e.settings := by
  have hselect := select_apply e.catalog path ⟨d, e.registry⟩
  rw [hselected] at hselect
  have hsession : Retags d e.settings ⟨d, e.registry⟩ := .refl d
  have hroot : onPage LivePage.root (Session.mk d e.registry) =
      (.ok Document.root, ⟨d, e.registry⟩) := rfl
  have hfirst : Ends (Retags d e.settings) (fun _ ↦ False) _
      (onPage (queryFirst Document.root recipe.selector)) :=
    queryFirst_retags (hr recipe recipe.self_mem_nodes).selector
      (Document.node?_of_isElement hd.root)
  obtain ⟨found, u, hmatched, hfound, hu⟩ := hfirst.exists_ok hsession
  refine ⟨_, ⟨hselect, hroot, hmatched⟩, rfl, hu, ?_, hr⟩
  cases found with
  | none => exact hd.root
  | some node => exact hfound node rfl

/-- A pass over a document whose selectors can be read ends early for two reasons only: no recipe
fits the page, or it comes to a node that is to be clickable and has no name. The second happens
exactly where it comes to such a node, and never where all such names are fixed or told by place. -/
theorem processPage_endings (e : Engine) {d : Document} (hd : d.Built) (path : String)
    (hs : e.settings.Readable)
    (hr : ∀ recipe, (e.catalog.select path d).1 = .ok recipe →
      ∀ r ∈ recipe.nodes, r.directive.Readable) :
    (∀ failure, (e.processPage d path).1 = .error failure →
      failure = .noMatchingRecipe (normalizePath path) ∨
        ∃ selector node, failure = .unnamedClickable selector node) ∧
    (∀ selector node, (e.processPage d path).1 = .error (.unnamedClickable selector node) ↔
      ∃ w, e.Visits d path w ∧ w.Unnamed ∧ w.recipe.selector = selector ∧ w.node = node) ∧
    ∀ recipe, (e.catalog.select path d).1 = .ok recipe →
      (∀ r ∈ recipe.nodes, r.directive.clickable → r.directive.name.Static) →
        ∃ outline, (e.processPage d path).1 = .ok outline := by
  have hlinked := hd.linked
  rcases hselected : (e.catalog.select path d).1 with failure | recipe
  · have hselect := select_apply e.catalog path ⟨d, e.registry⟩
    rw [hselected] at hselect
    obtain rfl : failure = .noMatchingRecipe (normalizePath path) :=
      Catalog.selectAmong_eq_error (congrArg Prod.fst hselect)
    have hresult : (e.processPage d path).1 = .error (.noMatchingRecipe (normalizePath path)) := by
      unfold processPage
      rw [pass_eq, bind_apply, hselect]
    rw [hresult]
    refine ⟨fun _ h ↦ .inl (Except.error.inj h).symm, fun selector node ↦ ⟨?_, ?_⟩, ?_⟩
    · rintro ⟨⟩
    · rintro ⟨w, ⟨_, ⟨hselect', -, -⟩, -⟩, -⟩
      cases hselect.symm.trans hselect'
    · rintro _ ⟨⟩
  · obtain ⟨v, hv, rfl, hsound⟩ := exists_starts hlinked hselected (hr recipe hselected)
    have hfails {failure : Failure} : (e.processPage d path).1 = .error failure ↔
        ∃ w, Stop.Reaches e.settings v w ∧ w.Unnamed ∧
          failure = .unnamedClickable w.recipe.selector w.node := by
      rw [hv.processPage]
      exact Stop.process_eq_error_iff_unnamed hlinked hs hsound
    refine ⟨fun failure h ↦ ?_, fun selector node ↦ ?_, fun _ hsame hstatic ↦ ?_⟩
    · obtain ⟨w, -, -, rfl⟩ := hfails.1 h
      exact .inr ⟨_, _, rfl⟩
    · rw [hfails]
      refine exists_congr fun w ↦ ?_
      rw [visits_iff hv, Failure.unnamedClickable.injEq, eq_comm, @eq_comm _ node]
    · obtain rfl := Except.ok.inj hsame
      rcases hresult : (e.processPage d path).1 with failure | outline
      · obtain ⟨w, hreaches, ⟨hclickable, text, -, hunnamed⟩, -⟩ := hfails.1 hresult
        have hname := hstatic w.recipe hreaches.mem_nodes hclickable
        exact absurd hunnamed (hname.usable?_ne_none _ _ _)
      · exact ⟨outline, rfl⟩

def menu : Engine :=
  .ofCatalog ⟨[⟨.path "/menu" false, .node (Directive.ofSelector "ul")
    [.node { Directive.ofSelector "li" with text := .own, name := .fromText, clickable := true }
      []]⟩]⟩

def menuPage : Document :=
  let list := ((Document.new "body").appendElement 0 "ul").appendElement 1 "li"
  (list.appendText 2 "Tea").appendElement 1 "li"

theorem built_menuPage : menuPage.Built := by
  have hlist := (Document.Built.new "body").appendElement 0 (by decide) "ul"
  have hentry := (hlist.appendElement 1 (by decide) "li").appendText 2 (by decide) "Tea"
  exact hentry.appendElement 1 (by decide) "li"

theorem processPage_endings_menuPage :
    menuPage.Built ∧ menu.settings.Readable ∧
    (∀ recipe, (menu.catalog.select "/menu/" menuPage).1 = .ok recipe →
      ∀ r ∈ recipe.nodes, r.directive.Readable) ∧
    ∃ w, menu.Visits menuPage "/menu/" w ∧ w.Unnamed ∧ w.recipe.selector = "li" ∧ w.node = 4 := by
  have hs : menu.settings.Readable := ⟨by decide +kernel, 'a', [], rfl, rfl, by simp⟩
  have hr : ∀ recipe, (menu.catalog.select "/menu/" menuPage).1 = .ok recipe →
      ∀ r ∈ recipe.nodes, r.directive.Readable := by
    intro recipe hselected r hr
    obtain ⟨entry, hentry, rfl⟩ := Catalog.exists_entry_of_select hselected
    obtain rfl := List.mem_singleton.1 hentry
    rcases hr with _ | ⟨_, _ | ⟨_, ⟨⟩⟩⟩
    · exact ⟨by decide +kernel, by rintro _ ⟨⟩, by rintro _ ⟨⟩⟩
    · exact ⟨by decide +kernel, by rintro _ ⟨⟩, by rintro _ ⟨⟩⟩
  have hends := processPage_endings menu built_menuPage "/menu/" hs hr
  exact ⟨built_menuPage, hs, hr, (hends.2.1 "li" 4).1 (by decide +kernel)⟩

end Engine

end PageOutline
