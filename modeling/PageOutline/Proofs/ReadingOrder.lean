import PageOutline.Proofs.Lockstep
import PageOutline.Proofs.Overlay
import PageOutline.Proofs.Traversal

namespace PageOutline

open LivePage

namespace OrderedMap

variable {α : Type} {m n p : OrderedMap α} {names names' : List String}

/-- The second map has the keys of the first one and then new ones, which are some of the names in
their order. -/
def GrowsBy (names : List String) (m n : OrderedMap α) : Prop :=
  ∃ added, n.keys = m.keys ++ added ∧ added.Sublist names

theorem GrowsBy.refl (m : OrderedMap α) : m.GrowsBy names m :=
  ⟨[], (List.append_nil _).symm, List.nil_sublist _⟩

theorem GrowsBy.trans (h : m.GrowsBy names n) (h' : n.GrowsBy names' p) :
    m.GrowsBy (names ++ names') p := by
  obtain ⟨added, hn, hsub⟩ := h
  obtain ⟨added', hp, hsub'⟩ := h'
  refine ⟨added ++ added', ?_, hsub.append hsub'⟩
  rw [hp, hn, List.append_assoc]

theorem growsBy_insert (m : OrderedMap α) (key : String) (value : α) :
    m.GrowsBy [key] (m.insert key value) := by
  by_cases hm : key ∈ m.keys
  · exact ⟨[], by simp [keys_insert, hm], List.nil_sublist _⟩
  · exact ⟨[key], by simp [keys_insert, hm], List.Sublist.refl _⟩

theorem GrowsBy.again {name : String} (h : m.GrowsBy [name] n) (h' : n.GrowsBy [name] p) :
    m.GrowsBy [name] p := by
  obtain ⟨added, hn, hsub⟩ := h
  obtain ⟨added', hp, hsub'⟩ := h'
  have hnodup := p.nodup_keys
  rw [hp, hn] at hnodup
  rcases List.sublist_singleton.1 hsub with rfl | rfl
  · exact ⟨added', by rw [hp, hn, List.append_nil], hsub'⟩
  · rcases List.sublist_singleton.1 hsub' with rfl | rfl
    · exact ⟨[name], by rw [hp, hn, List.append_nil], List.Sublist.refl _⟩
    · have hdisjoint := (List.nodup_append.1 hnodup).2.2
      exact absurd rfl (hdisjoint name (by simp) name (by simp))

end OrderedMap

namespace Registry

variable {r r' r'' : Registry} {names names' : List String}

structure GrowsBy (names : List String) (r r' : Registry) : Prop where
  clickables : r.clickables.GrowsBy names r'.clickables
  inputs : r.inputs.GrowsBy names r'.inputs

theorem GrowsBy.refl (r : Registry) : r.GrowsBy names r := ⟨.refl _, .refl _⟩

theorem GrowsBy.trans (h : r.GrowsBy names r') (h' : r'.GrowsBy names' r'') :
    r.GrowsBy (names ++ names') r'' :=
  ⟨h.clickables.trans h'.clickables, h.inputs.trans h'.inputs⟩

theorem growsBy_addClickable (r : Registry) (name : String) (recipe : Recipe) :
    r.GrowsBy [name] (r.addClickable name recipe) :=
  ⟨r.clickables.growsBy_insert name recipe, .refl _⟩

theorem growsBy_addInput (r : Registry) (name : String) (recipe : Recipe) :
    r.GrowsBy [name] (r.addInput name recipe) :=
  ⟨.refl _, r.inputs.growsBy_insert name recipe⟩

theorem GrowsBy.again {name : Option String} (h : r.GrowsBy name.toList r')
    (h' : r'.GrowsBy name.toList r'') : r.GrowsBy name.toList r'' := by
  cases name with
  | none => exact h.trans h'
  | some name => exact ⟨h.clickables.again h'.clickables, h.inputs.again h'.inputs⟩

end Registry

namespace OutlineNode

theorem elementsAll_append (ns ns' : List OutlineNode) :
    elementsAll (ns ++ ns') = elementsAll ns ++ elementsAll ns' := by
  induction ns with
  | nil => rfl
  | cons n ns ih => rw [List.cons_append, elementsAll, elementsAll, ih, List.append_assoc]

mutual

theorem findByName_eq (name : String) (n : OutlineNode) :
    n.findByName name = n.elements.find? fun o ↦ o.name? = some name := by
  match n with
  | .separator => rfl
  | .element tag attributes text children =>
    rw [findByName, elements, List.find?_cons, findByNameAmong_eq name children]
    by_cases h : attributes.get? "name" = some name <;> simp [Outline.name?, h]

theorem findByNameAmong_eq (name : String) (ns : List OutlineNode) :
    findByNameAmong name ns = (elementsAll ns).find? fun o ↦ o.name? = some name := by
  match ns with
  | [] => rfl
  | n :: ns =>
    rw [findByNameAmong, elementsAll, List.find?_append, findByName_eq name n,
      findByNameAmong_eq name ns]
    cases n.elements.find? fun o ↦ o.name? = some name <;> rfl

end

end OutlineNode

namespace Outline

/-- The names in an outline, a node before those below it. -/
def names (o : Outline) : List String := o.toNode.elements.filterMap name?

theorem names_eq (o : Outline) :
    o.names = o.name?.toList ++ (OutlineNode.elementsAll o.children).filterMap name? := by
  unfold names toNode
  rw [OutlineNode.elements, List.filterMap_cons]
  cases o with
  | mk tag attributes text children => cases name? ⟨tag, attributes, text, children⟩ <;> rfl

theorem names_setAttribute (o : Outline) (name : String) (h : name ≠ "name") (value : String) :
    (o.setAttribute name value).names = o.names := by
  have hname : (o.setAttribute name value).name? = o.name? := by
    unfold name? setAttribute
    rw [OrderedMap.get?_insert, if_neg h.symm]
  rw [names_eq, names_eq, hname]
  rfl

theorem names_setAttribute? (o : Outline) (name : String) (h : name ≠ "name")
    (value : Option String) : ((value.map (o.setAttribute name)).getD o).names = o.names := by
  cases value with
  | none => rfl
  | some value => exact o.names_setAttribute name h value

theorem names_push (o child : Outline) : (o.push child).names = o.names ++ child.names := by
  have hchildren : (OutlineNode.elementsAll (o.push child).children).filterMap name? =
      (OutlineNode.elementsAll o.children).filterMap name? ++ child.names := by
    change (OutlineNode.elementsAll (o.children ++ [child.toNode])).filterMap name? = _
    rw [OutlineNode.elementsAll_append, List.filterMap_append, OutlineNode.elementsAll,
      OutlineNode.elementsAll, List.append_nil]
    rfl
  rw [names_eq, names_eq o, hchildren, List.append_assoc]
  rfl

theorem names_pushSeparator (o : Outline) : o.pushSeparator.names = o.names := by
  have hchildren : OutlineNode.elementsAll o.pushSeparator.children =
      OutlineNode.elementsAll o.children := by
    change OutlineNode.elementsAll (o.children ++ [.separator]) = _
    rw [OutlineNode.elementsAll_append, OutlineNode.elementsAll, OutlineNode.elementsAll]
    exact List.append_nil _
  rw [names_eq, names_eq, hchildren]
  rfl

theorem exists_findByName {o : Outline} {name : String} (h : name ∈ o.names) :
    ∃ found, o.findByName name = some found ∧ found.name? = some name := by
  obtain ⟨x, hx, hname⟩ := List.mem_filterMap.1 h
  have hsome : (o.toNode.elements.find? fun o ↦ o.name? = some name).isSome := by
    rw [List.find?_isSome]
    exact ⟨x, hx, by simpa using hname⟩
  obtain ⟨found, hfound⟩ := Option.isSome_iff_exists.1 hsome
  refine ⟨found, (OutlineNode.findByName_eq name o.toNode).trans hfound, ?_⟩
  simpa using List.find?_some hfound

end Outline

namespace Pass

variable {σ : Type} {output output' output'' : Outline} {r r' r'' : Registry}

/-- The outline has got names at its end, and the registry some of them in their order. -/
def Aligned (output : Outline) (r : Registry) (output' : Outline) (r' : Registry) : Prop :=
  ∃ added, output'.names = output.names ++ added ∧ r.GrowsBy added r'

theorem Aligned.of_same (h : output'.names = output.names) : Aligned output r output' r :=
  ⟨[], by rw [h, List.append_nil], .refl r⟩

theorem Aligned.trans (h : Aligned output r output' r') (h' : Aligned output' r' output'' r'') :
    Aligned output r output'' r'' := by
  obtain ⟨added, hnames, hr⟩ := h
  obtain ⟨added', hnames', hr'⟩ := h'
  exact ⟨added ++ added', by rw [hnames', hnames, List.append_assoc], hr.trans hr'⟩

theorem Aligned.push (output : Outline) {child : Outline} (h : r.GrowsBy child.names r') :
    Aligned output r (output.push child) r' := ⟨child.names, output.names_push child, h⟩

theorem names_pushSeparators (output : Outline) (n : Nat) :
    (pushSeparators output n).names = output.names := by
  induction n generalizing output with
  | zero => rfl
  | succ n ih => rw [pushSeparators, ih, Outline.names_pushSeparator]

theorem names_finish (d : Directive) (output : Outline) :
    (finish d output).names = output.names := by
  unfold finish
  split <;> rfl

theorem names_head (d : Directive) (liveTag text : String) (name : Option String) :
    (d.head liveTag text name).names = name.toList := by
  have htag : (Outline.ofTag (d.tagName.getD liveTag)).names = [] := rfl
  unfold Directive.head
  cases name with
  | none =>
    dsimp only [Option.map_none, Option.getD_none]
    split
    · exact htag
    · exact htag
  | some name =>
    rw [Outline.names_eq]
    have hname (o : Outline) : (o.setAttribute "name" name).name? = some name := by
      unfold Outline.name? Outline.setAttribute
      rw [OrderedMap.get?_insert, if_pos rfl]
    dsimp only [Option.map_some, Option.getD_some]
    rw [hname]
    split <;> rfl

variable [LivePage σ] {settings : Settings} {recipe : Recipe} {node : NodeId} {s t : Session σ}

def WithRegistry (r : Registry) (s t : Session σ) : Prop := s = t ∧ s.registry = r

omit [LivePage σ] in
theorem onPage_withRegistry {α : Type} (r : Registry) (x : Access σ α) :
    Parallel (WithRegistry r) (onPage x) (onPage x) := by
  rintro s _ ⟨rfl, hr⟩
  exact ⟨rfl, rfl, hr⟩

theorem answerOr_withRegistry {α : Type} (r : Registry) (default : α) (i : Inquiry α) :
    Parallel (WithRegistry (σ := σ) r) (answerOr default i) (answerOr default i) :=
  .answerOr default (onPage_withRegistry r _)

omit [LivePage σ] in
theorem registry_of_parallel {α : Type} {x : Pass σ α}
    (h : ∀ r, Parallel (WithRegistry r) x x) {result : Except Failure α} (hx : x s = (result, t)) :
    t.registry = s.registry := by
  have hend := (h s.registry s s ⟨rfl, rfl⟩).2.2
  rwa [hx] at hend

theorem registry_resolveText {d : Directive} {text : String}
    (h : resolveText d node s = (.ok text, t)) : t.registry = s.registry :=
  registry_of_parallel (fun r ↦ resolveText_parallel (fun _ _ _ ↦ onPage_withRegistry r _)
    (fun _ ↦ onPage_withRegistry r _) (fun _ _ _ ↦ answerOr_withRegistry r _ _) node) h

theorem registry_attachMetadata {d : Directive}
    (h : attachMetadata settings d node s = (.ok (), t)) : t.registry = s.registry :=
  registry_of_parallel (fun r ↦ attachMetadata_parallel (fun _ _ _ ↦ answerOr_withRegistry r _ _)
    (fun _ _ _ _ ↦ onPage_withRegistry r _) node) h

theorem registry_composeAttributes {d : Directive}
    (h : composeAttributes settings d node output s = (.ok output', t)) :
    t.registry = s.registry :=
  registry_of_parallel (fun r ↦ composeAttributes_parallel (fun _ _ ↦ onPage_withRegistry r _)
    (fun _ _ ↦ answerOr_withRegistry r _ _) output) h

theorem names_copyAttributes {names : List String} (hn : "name" ∉ names)
    (h : copyAttributes node names output s = (.ok output', t)) : output'.names = output.names := by
  induction names generalizing output s with
  | nil =>
    cases h
    rfl
  | cons name names ih =>
    rw [List.mem_cons, not_or] at hn
    obtain ⟨value, u, -, h⟩ := bind_eq_ok.1 h
    rw [ih hn.2 h, output.names_setAttribute? _ (Ne.symm hn.1)]

theorem names_computeAttributes {computers : List (String × AttributeFunction)}
    (hn : "name" ∉ computers.map Prod.fst)
    (h : computeAttributes node computers output s = (.ok output', t)) :
    output'.names = output.names := by
  induction computers generalizing output s with
  | nil =>
    cases h
    rfl
  | cons computer computers ih =>
    rw [List.map_cons, List.mem_cons, not_or] at hn
    obtain ⟨value, u, -, h⟩ := bind_eq_ok.1 h
    rw [ih hn.2 h, output.names_setAttribute? _ (Ne.symm hn.1)]

/-- Nothing that is copied from the page or computed takes the place of a name. -/
structure KeepsNames (settings : Settings) (d : Directive) : Prop where
  preserved : "name" ∉ settings.preservedAttributes
  kept : "name" ∉ d.keepAttributes
  computed : "name" ∉ d.computers.keys

theorem names_composeAttributes {d : Directive} (hd : KeepsNames settings d)
    (h : composeAttributes settings d node output s = (.ok output', t)) :
    output'.names = output.names := by
  obtain ⟨copied, u, hcopied, h⟩ := bind_eq_ok.1 h
  have hattributes : "name" ∉ settings.preservedAttributes ++ d.keepAttributes := by
    rw [List.mem_append, not_or]
    exact ⟨hd.preserved, hd.kept⟩
  rw [names_computeAttributes hd.computed h, Outline.names_setAttribute? _ _ (by decide),
    Outline.names_setAttribute? _ _ (by decide), names_copyAttributes hattributes hcopied]

theorem growsBy_tagClickable {name : String}
    (h : tagClickable settings recipe name node s = (.ok (), t)) :
    s.registry.GrowsBy [name] t.registry := by
  obtain ⟨_, u, htag, h⟩ := bind_eq_ok.1 h
  cases h
  rw [← registry_of_onPage htag]
  exact u.registry.growsBy_addClickable name recipe

theorem growsBy_tagInput {name : String}
    (h : tagInput settings recipe name node s = (.ok (), t)) :
    s.registry.GrowsBy [name] t.registry := by
  obtain ⟨_, u, htag, h⟩ := bind_eq_ok.1 h
  cases h
  rw [← registry_of_onPage htag]
  exact u.registry.growsBy_addInput name recipe

theorem growsBy_tagClickTarget {name : String}
    (h : tagClickTarget settings recipe name node s = (.ok (), t)) :
    s.registry.GrowsBy [name] t.registry := by
  unfold tagClickTarget at h
  cases hc : recipe.directive.clickSelector with
  | none =>
    rw [hc] at h
    exact growsBy_tagClickable h
  | some selector =>
    rw [hc] at h
    obtain ⟨target, u, htarget, h⟩ := bind_eq_ok.1 h
    rw [← registry_of_onPage htarget]
    cases target with
    | none =>
      cases h
      exact .refl _
    | some target => exact growsBy_tagClickable h

theorem growsBy_tagIfClickable {name : Option String}
    (h : tagIfClickable settings recipe name node s = (.ok (), t)) :
    s.registry.GrowsBy name.toList t.registry := by
  unfold tagIfClickable at h
  split at h
  · cases name with
    | none => cases h
    | some name => exact growsBy_tagClickTarget h
  · cases h
    exact .refl _

theorem describeInput_names {name : Option String}
    (h : describeInput settings recipe name node output s = (.ok output', t)) :
    output'.names = output.names ∧ s.registry.GrowsBy name.toList t.registry := by
  obtain ⟨type, u, htype, h⟩ := bind_eq_ok.1 h
  rw [← registry_of_onPage htype]
  dsimp only at h
  split at h
  · obtain ⟨value, v, hvalue, h⟩ := bind_eq_ok.1 h
    have hnames := output.names_setAttribute? "value" (by decide) value
    rw [← registry_of_onPage hvalue]
    cases name with
    | none =>
      cases h
      exact ⟨hnames, .refl _⟩
    | some name =>
      obtain ⟨_, w, htag, h⟩ := bind_eq_ok.1 h
      cases h
      exact ⟨hnames, growsBy_tagInput htag⟩
  · split at h
    · obtain ⟨checked, v, hchecked, h⟩ := bind_eq_ok.1 h
      have hnames := output.names_setAttribute "checked" (by decide) (toString checked)
      rw [← registry_of_onPage hchecked]
      cases name with
      | none =>
        cases h
        exact ⟨hnames, .refl _⟩
      | some name =>
        obtain ⟨_, w, htag, h⟩ := bind_eq_ok.1 h
        cases h
        exact ⟨hnames, growsBy_tagClickable htag⟩
    · split at h
      · obtain ⟨checked, v, hchecked, h⟩ := bind_eq_ok.1 h
        cases h
        rw [← registry_of_onPage hchecked]
        exact ⟨output.names_setAttribute "checked" (by decide) _, .refl _⟩
      · cases h
        exact ⟨rfl, .refl _⟩

theorem expandLabel_aligned {name : String}
    (h : expandLabel settings recipe name node output s = (.ok output', t)) :
    Aligned output s.registry output' t.registry := by
  unfold expandLabel at h
  obtain ⟨parent, u, hparent, h⟩ := bind_eq_ok.1 h
  rw [← registry_of_onPage hparent]
  cases parent with
  | none =>
    cases h
    exact .of_same rfl
  | some parent =>
    obtain ⟨label, v, hlabel, h⟩ := bind_eq_ok.1 h
    rw [← registry_of_onPage hlabel]
    cases label with
    | none =>
      cases h
      exact .of_same rfl
    | some label =>
      obtain ⟨liveTag, w, htag, h⟩ := bind_eq_ok.1 h
      obtain ⟨text, x, htext, h⟩ := bind_eq_ok.1 h
      obtain ⟨_, y, hclick, h⟩ := bind_eq_ok.1 h
      cases h
      rw [← registry_of_onPage htag, ← registry_of_onPage htext]
      exact .push output (growsBy_tagClickable hclick)

theorem expandOption_aligned {name : String}
    (h : expandOption settings recipe name node output s = (.ok output', t)) :
    Aligned output s.registry output' t.registry := by
  obtain ⟨text, u, htext, h⟩ := bind_eq_ok.1 h
  obtain ⟨value, v, hvalue, h⟩ := bind_eq_ok.1 h
  obtain ⟨selected, w, hselected, h⟩ := bind_eq_ok.1 h
  obtain ⟨_, x, hclick, h⟩ := bind_eq_ok.1 h
  cases h
  rw [← registry_of_onPage htext, ← registry_of_onPage hvalue, ← registry_of_onPage hselected]
  exact .push output (growsBy_tagClickable hclick)

theorem expandOptions_aligned {name : String} {control : NodeId} {nodes : List NodeId}
    (h : expandOptions settings recipe name control nodes output s = (.ok output', t)) :
    Aligned output s.registry output' t.registry := by
  induction nodes generalizing output s with
  | nil =>
    cases h
    exact .of_same rfl
  | cons node nodes ih =>
    rw [expandOptions] at h
    split at h
    · exact ih h
    · obtain ⟨expanded, u, hoption, h⟩ := bind_eq_ok.1 h
      exact (expandOption_aligned hoption).trans (ih h)

theorem expandDropdown_aligned {name : String}
    (h : expandDropdown settings recipe name node output s = (.ok output', t)) :
    Aligned output s.registry output' t.registry := by
  obtain ⟨_, u, hmark, h⟩ := bind_eq_ok.1 h
  obtain ⟨labelled, v, hlabel, h⟩ := bind_eq_ok.1 h
  obtain ⟨id, w, hid, h⟩ := bind_eq_ok.1 h
  rw [← registry_of_onPage hmark]
  refine (expandLabel_aligned hlabel).trans ?_
  rw [← registry_of_onPage hid]
  cases hi : id.filter fun id ↦ !id.isEmpty with
  | none =>
    rw [hi] at h
    cases h
    exact .of_same rfl
  | some id =>
    rw [hi] at h
    obtain ⟨options, x, hoptions, h⟩ := bind_eq_ok.1 h
    rw [← registry_of_onPage hoptions]
    exact expandOptions_aligned h

theorem growsBy_describeControl {liveTag : String} {name : Option String} {r : Registry}
    (hr : r.GrowsBy name.toList s.registry) (houtput : output.names = name.toList)
    (h : describeControl settings recipe liveTag name node output s = (.ok output', t)) :
    r.GrowsBy output'.names t.registry := by
  unfold describeControl at h
  split at h
  · obtain ⟨hnames, hgrows⟩ := describeInput_names h
    rw [hnames, houtput]
    exact hr.again hgrows
  · split at h
    · cases name with
      | none =>
        cases h
        rwa [houtput]
      | some name =>
        obtain ⟨added, hnames, hgrows⟩ := expandDropdown_aligned h
        rw [hnames, houtput]
        exact hr.trans hgrows
    · cases h
      rwa [houtput]

theorem registry_findMatches {found : List NodeId}
    (h : findMatches recipe node s = (.ok found, t)) : t.registry = s.registry := by
  unfold findMatches at h
  split at h
  · obtain ⟨root, u, hroot, h⟩ := bind_eq_ok.1 h
    rw [registry_of_onPage h, registry_of_onPage hroot]
  · exact registry_of_onPage h

theorem growsBy_enter {parent childPrefix : String} {index : Nat}
    (hd : KeepsNames settings recipe.directive)
    (h : enter settings recipe node parent index s = (.ok (output, childPrefix), t)) :
    s.registry.GrowsBy output.names t.registry := by
  rw [enter_eq] at h
  obtain ⟨liveTag, u, htag, h⟩ := bind_eq_ok.1 h
  obtain ⟨text, v, htext, h⟩ := bind_eq_ok.1 h
  obtain ⟨_, w, hmetadata, h⟩ := bind_eq_ok.1 h
  obtain ⟨_, x, hclick, h⟩ := bind_eq_ok.1 h
  obtain ⟨composed, y, hcompose, h⟩ := bind_eq_ok.1 h
  obtain ⟨described, z, hcontrol, h⟩ := bind_eq_ok.1 h
  cases h
  rw [← registry_of_onPage htag, ← registry_resolveText htext, ← registry_attachMetadata hmetadata]
  have hnamed := growsBy_tagIfClickable hclick
  rw [← registry_composeAttributes hcompose] at hnamed
  refine growsBy_describeControl hnamed ?_ hcontrol
  rw [names_composeAttributes hd hcompose, names_head]

omit [LivePage σ] in
theorem addMatches_aligned {step : NodeId → Nat → Pass σ Outline}
    (hstep : ∀ node index s child t, step node index s = (.ok child, t) →
      s.registry.GrowsBy child.names t.registry)
    {every : Option Nat} {nodes : List NodeId} {index : Nat}
    (h : addMatches step every nodes index output s = (.ok output', t)) :
    Aligned output s.registry output' t.registry := by
  induction nodes generalizing index output s with
  | nil =>
    cases h
    exact .of_same rfl
  | cons node nodes ih =>
    obtain ⟨child, u, hchild, h⟩ := bind_eq_ok.1 h
    refine (Aligned.push output (hstep _ _ _ _ _ hchild)).trans ?_
    exact (Aligned.of_same (names_pushSeparators _ _)).trans (ih h)

mutual

theorem growsBy_process (recipe : Recipe)
    (hr : ∀ r ∈ recipe.nodes, KeepsNames settings r.directive) {node : NodeId} {parent : String}
    {index : Nat} {output : Outline} {s t : Session σ}
    (h : process settings recipe node parent index s = (.ok output, t)) :
    s.registry.GrowsBy output.names t.registry := by
  match recipe with
  | .node d children =>
    rw [Recipe.nodes, List.forall_mem_cons] at hr
    obtain ⟨⟨head, childPrefix⟩, u, hentered, h⟩ := bind_eq_ok.1 h
    obtain ⟨filled, v, hchildren, h⟩ := bind_eq_ok.1 h
    cases h
    -- The head has the names of the node and of its control, the children add theirs behind them.
    obtain ⟨added, hnames, hgrows⟩ := processChildren_aligned children hr.2 hchildren
    rw [names_finish, hnames]
    exact (growsBy_enter hr.1 hentered).trans hgrows

theorem processChildren_aligned (recipes : List Recipe)
    (hr : ∀ r ∈ Recipe.nodesAll recipes, KeepsNames settings r.directive) {every : Option Nat}
    {node : NodeId} {childPrefix : String} {output output' : Outline} {s t : Session σ}
    (h : processChildren settings every node childPrefix recipes output s = (.ok output', t)) :
    Aligned output s.registry output' t.registry := by
  match recipes with
  | [] =>
    cases h
    exact .of_same rfl
  | recipe :: recipes =>
    rw [Recipe.nodesAll, List.forall_mem_append] at hr
    rw [processChildren_cons] at h
    obtain ⟨found, u, hfound, h⟩ := bind_eq_ok.1 h
    obtain ⟨filled, v, hmatches, h⟩ := bind_eq_ok.1 h
    rw [← registry_findMatches hfound]
    refine (addMatches_aligned (fun child i s o t hchild ↦ ?_) hmatches).trans ?_
    · exact growsBy_process recipe hr.1 hchild
    · exact processChildren_aligned recipes hr.2 h

end

end Pass

namespace Engine

open Pass

variable {σ : Type} [LivePage σ]

/-- The names that a pass registers in an empty registry stand in its outline in the same order,
where nothing that is copied or computed takes the place of a name. Each of them is found there. -/
theorem processPage_inReadingOrder (e : Engine) (page : σ) (path : String) {outline : Outline}
    (hempty : e.registry = ∅)
    (hkeep : ∀ recipe, (e.catalog.select path page).1 = .ok recipe →
      ∀ r ∈ recipe.nodes, KeepsNames e.settings r.directive)
    (h : (e.processPage page path).1 = .ok outline) :
    let registry := (e.processPage page path).2.1.registry
    registry.clickables.keys.Sublist outline.names ∧
      registry.inputs.keys.Sublist outline.names ∧
      ∀ name ∈ registry.clickables.keys ++ registry.inputs.keys,
        ∃ o, outline.findByName name = some o ∧ o.name? = some name := by
  obtain ⟨v, hv⟩ := exists_starts_of_ok h
  rw [hv.processPage] at h ⊢
  have hprocess : process e.settings v.recipe v.node v.parent v.index v.session =
      (.ok outline, (v.process e.settings).2) := Prod.ext h rfl
  obtain ⟨⟨clicked, hclickables, hclicked⟩, ⟨entered, hinputs, hentered⟩⟩ :=
    growsBy_process v.recipe (hkeep v.recipe hv.selected) hprocess
  rw [hv.registry, hempty] at hclickables hinputs
  dsimp only
  rw [hclickables, hinputs]
  refine ⟨hclicked, hentered, fun name hname ↦ Outline.exists_findByName ?_⟩
  rcases List.mem_append.1 hname with hname | hname
  · exact hclicked.subset hname
  · exact hentered.subset hname

def orderRecipe : Recipe :=
  .node { Directive.ofSelector "form" with name := .literal "order" }
    [.node { Directive.ofSelector "select" with name := .literal "size", clickable := true } [],
      .node { Directive.ofSelector "input" with name := .fromPosition } []]

def orderForm : Engine := .ofCatalog ⟨[⟨.text "form" none, orderRecipe⟩]⟩

def orderPage : Document :=
  let form := (Document.new "body").appendElement 0 "form"
  let select := (form.appendElement 1 "select").insertAttribute 2 "id" "s"
  let option := (select.appendElement 1 "a").insertAttribute 3 "id" "s1"
  (option.appendText 3 "Small").appendElement 1 "input"

theorem processPage_inReadingOrder_orderPage :
    orderForm.registry = ∅ ∧
    (∀ recipe, (orderForm.catalog.select "/" orderPage).1 = .ok recipe →
      ∀ r ∈ recipe.nodes, KeepsNames orderForm.settings r.directive) ∧
    ∃ outline, (orderForm.processPage orderPage "/").1 = .ok outline ∧
      ["order.size", "order.size.Small"].Sublist outline.names ∧
      ["order.0"].Sublist outline.names := by
  have hkeep : ∀ recipe, (orderForm.catalog.select "/" orderPage).1 = .ok recipe →
      ∀ r ∈ recipe.nodes, KeepsNames orderForm.settings r.directive := by
    intro recipe hselected
    obtain ⟨entry, hentry, rfl⟩ := Catalog.exists_entry_of_select hselected
    obtain rfl := List.mem_singleton.1 hentry
    have hplain : ∀ r ∈ orderRecipe.nodes, "name" ∉ r.directive.keepAttributes ∧
        "name" ∉ r.directive.computers.keys := by decide
    exact fun r hr ↦ ⟨by decide, (hplain r hr).1, (hplain r hr).2⟩
  rcases hresult : (orderForm.processPage orderPage "/").1 with failure | outline
  · have hok : ((orderForm.processPage orderPage "/").1).isOk := by decide +kernel
    rw [hresult] at hok
    cases hok
  · obtain ⟨hclickables, hinputs, -⟩ :=
      processPage_inReadingOrder orderForm orderPage "/" rfl hkeep hresult
    have hclicked : (orderForm.processPage orderPage "/").2.1.registry.clickables.keys =
        ["order.size", "order.size.Small"] := by decide +kernel
    have hentered : (orderForm.processPage orderPage "/").2.1.registry.inputs.keys =
        ["order.0"] := by decide +kernel
    rw [hclicked] at hclickables
    rw [hentered] at hinputs
    exact ⟨rfl, hkeep, outline, rfl, hclickables, hinputs⟩

end Engine

end PageOutline
