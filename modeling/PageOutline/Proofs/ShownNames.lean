import PageOutline.Proofs.Arena
import PageOutline.Proofs.OutlineShape
import PageOutline.Proofs.ReadingOrder

namespace PageOutline

open LivePage
open Text (asciiLower)

/-- The attribute `name` of a node on the page, where the settings or the recipe have it copied. An
empty one is not copied. -/
def Document.copiedName? (d : Document) (settings : Settings) (directive : Directive)
    (node : NodeId) : Option String :=
  if "name" ∈ settings.preservedAttributes ++ directive.keepAttributes then
    ((d.attributes node).get? "name").filter fun value ↦ !value.isEmpty
  else none

def Document.inputType (d : Document) (node : NodeId) : String :=
  (((d.attributes node).get? "type").map asciiLower).getD "text"

theorem Document.copiedName?_eq_none_iff {d : Document} {settings : Settings}
    {directive : Directive} {node : NodeId} : d.copiedName? settings directive node = none ↔
      ("name" ∈ settings.preservedAttributes ++ directive.keepAttributes →
        ∀ value, (d.attributes node).get? "name" = some value → value = "") := by
  unfold copiedName?
  split
  · next hlisted => simp [hlisted, Option.filter_eq_none_iff]
  · next hlisted => simp [hlisted]

namespace Outline

theorem name?_setAttribute_of_ne (o : Outline) {key : String} (h : key ≠ "name") (value : String) :
    (o.setAttribute key value).name? = o.name? := by
  rw [name?, setAttribute, OrderedMap.get?_insert, if_neg h.symm, name?]

theorem name?_setName (o : Outline) (name : String) :
    (o.setAttribute "name" name).name? = some name := by
  rw [name?, setAttribute, OrderedMap.get?_insert, if_pos rfl]

theorem name?_setOptional_of_ne (o : Outline) {key : String} (h : key ≠ "name")
    (value : Option String) : ((value.map (o.setAttribute key)).getD o).name? = o.name? := by
  cases value with
  | none => rfl
  | some value => exact o.name?_setAttribute_of_ne h value

theorem name?_setOptionalName (o : Outline) (name : Option String) :
    ((name.map (o.setAttribute "name")).getD o).name? = name.or o.name? := by
  cases name with
  | none => rfl
  | some name => exact o.name?_setName name

theorem mem_elements (o : Outline) : o ∈ o.toNode.elements := by
  rw [toNode, OutlineNode.elements]
  exact List.mem_cons_self

theorem mem_elements_of_child (o : Outline) {child : Outline} (h : child.toNode ∈ o.children)
    {o' : Outline} (h' : o' ∈ child.toNode.elements) : o' ∈ o.toNode.elements := by
  obtain ⟨before, after, hchildren⟩ := List.append_of_mem h
  rw [toNode, OutlineNode.elements, hchildren, OutlineNode.elementsAll_append,
    OutlineNode.elementsAll]
  simp [h']

end Outline

theorem Directive.head_name? (d : Directive) (liveTag text : String) (name : Option String) :
    (d.head liveTag text name).name? = name := by
  unfold head
  rw [Outline.name?_setOptionalName]
  cases d.attachText && !text.isEmpty <;> exact Option.or_none

namespace Pass

variable {settings : Settings} {recipe : Recipe} {node : NodeId} {output output' : Outline}
  {s t : Session Document}

theorem get?_of_onPage {key : String} {value : Option String}
    (h : onPage (attr node key) s = (.ok value, t)) :
    value = (s.page.attributes node).get? (asciiLower key) ∧ t = s := by
  rw [attr, onPage_answer, Prod.mk.injEq] at h
  obtain ⟨hreply, rfl⟩ := h
  rw [Document.reply, Document.attributeOf, Document.known] at hreply
  split at hreply
  · cases hreply
    exact ⟨rfl, rfl⟩
  · cases hreply

theorem copyAttributes_name? {names : List String}
    (h : copyAttributes node names output s = (.ok output', t)) :
    output'.name? = (if "name" ∈ names then
      ((s.page.attributes node).get? "name").filter fun value ↦ !value.isEmpty else none).or
        output.name? := by
  induction names generalizing output with
  | nil =>
    cases h
    simp
  | cons key names ih =>
    obtain ⟨value, u, hvalue, h⟩ := bind_eq_ok.1 h
    obtain ⟨rfl, rfl⟩ := get?_of_onPage hvalue
    rw [ih h]
    by_cases hkey : key = "name"
    · have hlower : asciiLower "name" = "name" := by decide
      rw [hkey, hlower, Outline.name?_setOptionalName, if_pos List.mem_cons_self]
      split
      · rw [← Option.or_assoc, Option.or_self]
      · rw [Option.none_or]
    · rw [Outline.name?_setOptional_of_ne _ hkey]
      simp [Ne.symm hkey]

theorem computeAttributes_name? {computers : List (String × AttributeFunction)}
    (hn : "name" ∉ computers.map Prod.fst)
    (h : computeAttributes node computers output s = (.ok output', t)) :
    output'.name? = output.name? := by
  induction computers generalizing output s with
  | nil =>
    cases h
    rfl
  | cons computer computers ih =>
    rw [List.map_cons, List.mem_cons, not_or] at hn
    obtain ⟨value, u, -, h⟩ := bind_eq_ok.1 h
    rw [ih hn.2 h, output.name?_setOptional_of_ne (Ne.symm hn.1)]

theorem composeAttributes_name? {d : Directive} (hn : "name" ∉ d.computers.keys)
    (h : composeAttributes settings d node output s = (.ok output', t)) :
    output'.name? = (s.page.copiedName? settings d node).or output.name? := by
  obtain ⟨copied, u, hcopied, h⟩ := bind_eq_ok.1 h
  rw [computeAttributes_name? hn h, Outline.name?_setOptional_of_ne _ (by decide),
    Outline.name?_setOptional_of_ne _ (by decide), copyAttributes_name? hcopied]
  rfl

theorem describeControl_name? {liveTag : String} {name : Option String}
    (h : describeControl settings recipe liveTag name node output s = (.ok output', t)) :
    output'.name? = output.name? := by
  unfold describeControl at h
  split at h
  · rcases describeInput_cases h with rfl | ⟨key, hkey, value, rfl⟩
    · rfl
    · refine output.name?_setAttribute_of_ne ?_ value
      rintro rfl
      revert hkey
      decide
  · split at h
    · cases name with
      | none =>
        cases h
        rfl
      | some name =>
        obtain ⟨entries, rfl⟩ := expandDropdown_pushAll h
        rfl
    · cases h
      rfl

theorem finish_name? (d : Directive) (output : Outline) :
    (finish d output).name? = output.name? := by
  unfold finish
  split <;> rfl

theorem toNode_mem_block (every : Option Nat) (index : Nat) (child : Outline) :
    child.toNode ∈ block every index child := by
  unfold block
  split
  · simp
  · split <;> simp

theorem get?_of_setAttribute {key value : String}
    (h : onPage (setAttribute node key value) s = (.ok (), t)) :
    (t.page.attributes node).get? (asciiLower key) = some value := by
  by_cases helement : s.page.isElement node
  · rw [onPage_setAttribute helement] at h
    cases h
    rw [Document.attributes_insertAttribute, if_pos ⟨rfl, helement⟩, OrderedMap.get?_insert,
      if_pos rfl]
  · obtain ⟨failure, hset⟩ := Document.setAttribute_of_not_isElement helement key value
    rw [onPage_apply, hset] at h
    cases h

theorem tagClickable_eq_ok {name : String}
    (h : tagClickable settings recipe name node s = (.ok (), t)) :
    (t.page.attributes node).get? (asciiLower settings.clickableAttribute) = some name ∧
      t.registry.clickables.get? name = some recipe := by
  obtain ⟨_, u, htag, ⟨⟩⟩ := bind_eq_ok.1 h
  have hlive := get?_of_setAttribute htag
  exact ⟨hlive, by simp [Registry.addClickable]⟩

theorem tagInput_eq_ok {name : String} (h : tagInput settings recipe name node s = (.ok (), t)) :
    (t.page.attributes node).get? (asciiLower settings.inputAttribute) = some name ∧
      t.registry.inputs.get? name = some recipe := by
  obtain ⟨_, u, htag, ⟨⟩⟩ := bind_eq_ok.1 h
  have hlive := get?_of_setAttribute htag
  exact ⟨hlive, by simp [Registry.addInput]⟩

theorem describeControl_tags {name : String}
    (h : describeControl settings recipe "input" (some name) node output s = (.ok output', t))
    (htype : s.page.inputType node ∈ ["text", "number"]) :
    (t.page.attributes node).get? (asciiLower settings.inputAttribute) = some name ∧
      t.registry.inputs.get? name = some recipe := by
  rw [describeControl, if_pos rfl] at h
  obtain ⟨type, u, hlive, h⟩ := bind_eq_ok.1 h
  obtain ⟨rfl, rfl⟩ := get?_of_onPage hlive
  have hlower : asciiLower "type" = "type" := by decide
  have hfield : u.page.inputType node = "text" ∨ u.page.inputType node = "number" := by
    simpa using htype
  dsimp only at h
  rw [hlower, ← Document.inputType, if_pos hfield] at h
  obtain ⟨value, v, -, h⟩ := bind_eq_ok.1 h
  obtain ⟨_, w, htagged, ⟨⟩⟩ := bind_eq_ok.1 h
  exact tagInput_eq_ok htagged

namespace Stop

variable {v w : Stop Document}

def mark (settings : Settings) (w : Stop Document) (name : Option String) : Pass Document Unit := do
  attachMetadata settings w.recipe.directive w.node
  tagIfClickable settings w.recipe name w.node

theorem mark_tags {name : String} {u : Session Document}
    (h : w.mark settings (some name) w.session = (.ok (), u))
    (hclickable : w.recipe.directive.clickable = true)
    (htarget : w.recipe.directive.clickSelector = none) :
    (u.page.attributes w.node).get? (asciiLower settings.clickableAttribute) = some name ∧
      u.registry.clickables.get? name = some w.recipe := by
  obtain ⟨_, y, -, h⟩ := bind_eq_ok.1 h
  rw [tagIfClickable, if_pos hclickable, tagClickTarget, htarget] at h
  exact tagClickable_eq_ok h

/-- A node is marked, its attributes are composed, its state is told, and what is made below it is
added at the end. -/
theorem process_stages (h : w.process settings = (.ok output, t)) :
    ∃ liveTag text u composed head v nodes, w.session.page.tag? w.node = some liveTag ∧
      resolveText w.recipe.directive w.node w.session = (.ok text, w.session) ∧
      let name := (w.recipe.directive.name.resolve w.parent text w.index).usable?
      w.mark settings name w.session = (.ok (), u) ∧
      composeAttributes settings w.recipe.directive w.node
        (w.recipe.directive.head liveTag text name) u = (.ok composed, u) ∧
      describeControl settings w.recipe liveTag name w.node composed u = (.ok head, v) ∧
      (w.enter settings).2 = v ∧ output = finish w.recipe.directive (head.pushNodes nodes) := by
  rw [Stop.process, process_eq, bind_eq_ok] at h
  obtain ⟨⟨head, childPrefix⟩, s, hentered, h⟩ := h
  obtain ⟨full, s', hfull, ⟨⟩⟩ := bind_eq_ok.1 h
  obtain ⟨groups, -, rfl⟩ := processChildren_eq_ok.1 hfull
  have hsession : (w.enter settings).2 = s := congrArg Prod.snd hentered
  rw [enter_eq, bind_eq_ok] at hentered
  obtain ⟨liveTag, _, htag, hentered⟩ := hentered
  obtain ⟨hlive, rfl⟩ := tag?_of_onPage htag
  obtain ⟨text, x, htext, hentered⟩ := bind_eq_ok.1 hentered
  obtain rfl : x = w.session := (congrArg Prod.snd htext).symm.trans (session_resolveText ..)
  obtain ⟨_, y, hmetadata, hentered⟩ := bind_eq_ok.1 hentered
  obtain ⟨_, u, hclick, hentered⟩ := bind_eq_ok.1 hentered
  obtain ⟨composed, z, hcomposed, hrest⟩ := bind_eq_ok.1 hentered
  obtain rfl : z = u := (congrArg Prod.snd hcomposed).symm.trans (session_composeAttributes ..)
  obtain ⟨_, v, hdescribed, ⟨⟩⟩ := bind_eq_ok.1 hrest
  exact ⟨liveTag, text, z, composed, head, s, _, hlive, htext,
    bind_eq_ok.2 ⟨(), y, hmetadata, hclick⟩, hcomposed, hdescribed, hsession, rfl⟩

theorem process_name? (hn : "name" ∉ w.recipe.directive.computers.keys)
    (h : w.process settings = (.ok output, t)) :
    ∃ liveTag text u composed v, w.session.page.tag? w.node = some liveTag ∧
      resolveText w.recipe.directive w.node w.session = (.ok text, w.session) ∧
      let name := (w.recipe.directive.name.resolve w.parent text w.index).usable?
      w.mark settings name w.session = (.ok (), u) ∧
      (∃ head, describeControl settings w.recipe liveTag name w.node composed u = (.ok head, v)) ∧
      (w.enter settings).2 = v ∧
      output.name? = (u.page.copiedName? settings w.recipe.directive w.node).or name := by
  obtain ⟨liveTag, text, u, composed, head, v, nodes, hlive, htext, hmark, hcomposed, hdescribed,
    hsession, rfl⟩ := process_stages h
  refine ⟨liveTag, text, u, composed, v, hlive, htext, hmark, ⟨head, hdescribed⟩, hsession, ?_⟩
  have hpushed : (head.pushNodes nodes).name? = head.name? := rfl
  rw [finish_name?, hpushed, describeControl_name? hdescribed, composeAttributes_name? hn hcomposed,
    Directive.head_name?]

theorem Next.process_mem (hnext : Next settings v w) (h : v.process settings = (.ok output, t)) :
    ∃ made u, w.process settings = (.ok made, u) ∧ made.toNode ∈ output.children := by
  obtain @⟨recipe, childPrefix, grown, grown', _, _, u, earlier, later, child,
    @⟨before, after, _, head, _, _, _, _, hchildren, hentered, hbefore⟩, hfound, hearlier⟩ := hnext
  rw [Stop.process, process_eq] at h
  rw [Stop.enter] at hentered
  rw [bind_of_ok hentered] at h
  obtain ⟨full, _, hfull, ⟨⟩⟩ := bind_eq_ok.1 h
  rw [hchildren, processChildren_append, bind_of_ok hbefore, processChildren_cons,
    bind_of_ok hfound] at hfull
  obtain ⟨walked, x, hwalked, hafter⟩ := bind_eq_ok.1 hfull
  rw [addMatches_append, bind_of_ok hearlier, addMatches, bind_eq_ok] at hwalked
  obtain ⟨made, y, hmade, hlater⟩ := hwalked
  rw [Nat.zero_add] at hmade
  refine ⟨made, y, hmade, ?_⟩
  -- Whatever is added after it, what is made of the node stays among the children.
  obtain ⟨groups, -, rfl⟩ := processChildren_eq_ok.1 hafter
  obtain ⟨more, -, -, rfl⟩ := addMatches_eq_ok.1 hlater
  have hblock := toNode_mem_block v.recipe.directive.separatorEvery earlier.length made
  rw [finish_children, pushSeparators_push, Nat.zero_add]
  simp [Outline.pushNodes, hblock]

theorem Reaches.process_mem (hw : Reaches settings v w)
    (h : v.process settings = (.ok output, t)) :
    ∃ made u, w.process settings = (.ok made, u) ∧ made ∈ output.toNode.elements := by
  induction hw using Relation.ReflTransGen.head_induction_on generalizing output t with
  | refl => exact ⟨output, t, h, output.mem_elements⟩
  | head hnext _ ih =>
    obtain ⟨child, u, hchild, hmem⟩ := hnext.process_mem h
    obtain ⟨made, u', hmade, hbelow⟩ := ih hchild
    exact ⟨made, u', hmade, output.mem_elements_of_child hmem hbelow⟩

end Stop

/-- Every node that is named has an outline in the whole one. It shows the name under which the node
is tagged and registered, unless an attribute `name` that is not empty is copied over it. -/
theorem process_shows_names {parent : String} {index : Nat}
    (hn : ∀ r ∈ recipe.nodes, "name" ∉ r.directive.computers.keys)
    (h : process settings recipe node parent index s = (.ok output, t)) {w : Stop Document}
    (hw : Stop.Reaches settings ⟨s, recipe, node, parent, index⟩ w) :
    ∃ made, (w.process settings).1 = .ok made ∧ made ∈ output.toNode.elements ∧
      ∃ liveTag text u, w.session.page.tag? w.node = some liveTag ∧
        resolveText w.recipe.directive w.node w.session = (.ok text, w.session) ∧
        let d := w.recipe.directive
        let name := (d.name.resolve w.parent text w.index).usable?
        let after := (w.enter settings).2
        w.mark settings name w.session = (.ok (), u) ∧
        made.name? = (u.page.copiedName? settings d w.node).or name ∧
        ∀ shown, name = some shown →
          (("name" ∈ settings.preservedAttributes ++ d.keepAttributes →
            ∀ value, (u.page.attributes w.node).get? "name" = some value → value = "") →
              made.name? = some shown) ∧
          (d.clickable = true → d.clickSelector = none →
            (u.page.attributes w.node).get? (asciiLower settings.clickableAttribute) =
              some shown ∧ u.registry.clickables.get? shown = some w.recipe) ∧
          (liveTag = "input" → u.page.inputType w.node ∈ ["text", "number"] →
            (after.page.attributes w.node).get? (asciiLower settings.inputAttribute) =
              some shown ∧ after.registry.inputs.get? shown = some w.recipe) := by
  obtain ⟨made, x, hmade, hmem⟩ := hw.process_mem h
  obtain ⟨liveTag, text, u, composed, v, hlive, htext, hmark, ⟨head, hdescribed⟩, rfl, hname⟩ :=
    Stop.process_name? (hn w.recipe hw.mem_nodes) hmade
  refine ⟨made, congrArg Prod.fst hmade, hmem, liveTag, text, u, hlive, htext, hmark, hname, ?_⟩
  intro shown hshown
  rw [hshown] at hmark hdescribed hname
  refine ⟨fun hfree ↦ ?_, Stop.mark_tags hmark, ?_⟩
  · rw [hname, Document.copiedName?_eq_none_iff.2 hfree, Option.none_or]
  · rintro rfl htype
    exact describeControl_tags hdescribed htype

def fieldPage (name : String) : Document :=
  (((Document.new "form").appendElement Document.root "input").insertAttribute 1 "type"
    "NUMBER").insertAttribute 1 "name" name

def keptField : Recipe :=
  .node { Directive.ofSelector "input" with name := .fromPosition, keepAttributes := ["name"] } []

def searchForm : Recipe :=
  .node { Directive.ofSelector "form" with name := .literal "search" } [keptField]

theorem reaches_keptField {name : String}
    (hfound : (fieldPage name).query Document.root "input" false = .ok [1]) :
    Stop.Reaches {} ⟨⟨fieldPage name, ∅⟩, searchForm, Document.root, "", 0⟩
      ⟨⟨fieldPage name, ∅⟩, keptField, 1, "search", 0⟩ := by
  have hturned : Stop.TurnsTo {} ⟨⟨fieldPage name, ∅⟩, searchForm, Document.root, "", 0⟩ keptField
      "search" ((Outline.ofTag "form").setAttribute "name" "search") ⟨fieldPage name, ∅⟩ :=
    ⟨(rfl : searchForm.children = [] ++ keptField :: []), rfl,
      congrFun (processChildren_nil ..) _⟩
  have hmatched : findMatches keptField Document.root (Session.mk (fieldPage name) ∅) =
      (.ok ([] ++ 1 :: []), ⟨fieldPage name, ∅⟩) :=
    (findMatches_apply ..).trans (Prod.ext hfound rfl)
  exact .single ⟨hturned, hmatched, rfl⟩

theorem usable?_keptField (text : String) :
    (keptField.directive.name.resolve "search" text 0).usable? = some "search.0" := by
  change (Naming.named (joinName "search" (toString 0))).usable? = some "search.0"
  decide +kernel

theorem process_shows_names_fieldPage :
    (∀ r ∈ searchForm.nodes, "name" ∉ r.directive.computers.keys) ∧
    Stop.Reaches {} ⟨⟨fieldPage "", ∅⟩, searchForm, Document.root, "", 0⟩
      ⟨⟨fieldPage "", ∅⟩, keptField, 1, "search", 0⟩ ∧
    ∃ output t, process {} searchForm Document.root "" 0 ⟨fieldPage "", ∅⟩ = (.ok output, t) ∧
      ∃ made ∈ output.toNode.elements, made.name? = some "search.0" := by
  have hn : ∀ r ∈ searchForm.nodes, "name" ∉ r.directive.computers.keys := by decide
  have hfound : (fieldPage "").query Document.root "input" false = .ok [1] :=
    eq_ok_of_toOption (by decide +kernel)
  have hw := reaches_keptField hfound
  have hok : (process {} searchForm Document.root "" 0 ⟨fieldPage "", ∅⟩).1.isOk := by
    decide +kernel
  obtain ⟨output, t, hresult⟩ := exists_eq_ok hok
  obtain ⟨made, -, hmem, liveTag, text, u, -, -, hmark, -, hshown⟩ :=
    process_shows_names hn hresult hw
  obtain ⟨hfree, -⟩ := hshown "search.0" (usable?_keptField text)
  refine ⟨hn, hw, output, t, hresult, made, hmem, hfree fun _ value hvalue ↦ ?_⟩
  rw [usable?_keptField] at hmark
  cases hmark
  have hlive : ((fieldPage "").attributes 1).get? "name" = some "" := by decide +kernel
  exact Option.some.inj (hvalue.symm.trans hlive)

/-- A node can be registered under one name and show another one. -/
theorem not_forall_shows_names :
    ¬∀ (settings : Settings) (recipe : Recipe) (s t : Session Document) (node : NodeId)
      (parent : String) (index : Nat) (output : Outline),
      (∀ r ∈ recipe.nodes, "name" ∉ r.directive.computers.keys) →
        process settings recipe node parent index s = (.ok output, t) → ∀ w made text name,
          Stop.Reaches settings ⟨s, recipe, node, parent, index⟩ w →
            (w.process settings).1 = .ok made →
              resolveText w.recipe.directive w.node w.session = (.ok text, w.session) →
                (w.recipe.directive.name.resolve w.parent text w.index).usable? = some name →
                  made.name? = some name := by
  intro hall
  have hfound : (fieldPage "q").query Document.root "input" false = .ok [1] :=
    eq_ok_of_toOption (by decide +kernel)
  have hw := reaches_keptField hfound
  have hok : (process {} searchForm Document.root "" 0 ⟨fieldPage "q", ∅⟩).1.isOk := by
    decide +kernel
  obtain ⟨output, t, hresult⟩ := exists_eq_ok hok
  obtain ⟨made, _, hmade, -⟩ := hw.process_mem hresult
  have hshown := hall {} searchForm _ t Document.root "" 0 output (by decide) hresult _ made ""
    "search.0" hw (congrArg Prod.fst hmade) rfl (usable?_keptField "")
  have hcopied : (process {} keptField 1 "search" 0 ⟨fieldPage "q", ∅⟩).1.toOption.map
      Outline.name? = some (some "q") := by
    decide +kernel
  rw [Stop.process] at hmade
  rw [hmade] at hcopied
  simp [Except.toOption, hshown] at hcopied

end Pass

end PageOutline
