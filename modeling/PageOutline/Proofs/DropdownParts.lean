import PageOutline.Proofs.DocumentOrder
import PageOutline.Proofs.Records

namespace PageOutline

open LivePage
open Relation (TransGen)
open Text (asciiLower)

namespace Document

def shownText (d : Document) (node : NodeId) : String := Text.collapseBlanks (d.textContent node)

def dropdownLabel? (d : Document) (selector : Css.Selector) (control : NodeId) : Option NodeId :=
  (d.parent? control).bind fun parent ↦ (d.descendants parent).find? (d.isMatch selector parent)

def isOption (settings : Settings) (d : Document) (id : String) (node : NodeId) : Bool :=
  d.tag? node == some (asciiLower settings.dropdownOptionTag) &&
    ((d.attributes node).get? "id").any fun value ↦ id.toList.isPrefixOf value.toList

def optionName (d : Document) (name : String) (option : NodeId) : String :=
  name ++ "." ++ d.shownText option

def labelEntry (d : Document) (name : String) (label : NodeId) : Outline where
  tag := (d.tag? label).getD ""
  attributes := .ofList [("name", name ++ ".open_drop_down_list")]
  text := some (d.shownText label)
  children := []

def optionEntry (d : Document) (name : String) (option : NodeId) : Outline where
  tag := "option"
  attributes := .ofList
    [("value", ((d.attributes option).get? "value").getD (d.shownText option)),
      ("name", d.optionName name option),
      ("selected", toString ((d.attributes option).get? "aria-selected" == some "true"))]
  text := some (d.shownText option)
  children := []

def optionAttributes : List String := ["id", "value", "aria-selected"]

/-- The second document shows the same parts of dropdowns as the first one. -/
structure SameParts (d e : Document) : Prop where
  tag? : e.tag? = d.tag?
  shownText : e.shownText = d.shownText
  descendants : e.descendants = d.descendants
  get? : ∀ x, ∀ key ∈ optionAttributes, (e.attributes x).get? key = (d.attributes x).get? key

namespace SameParts

variable {d e f : Document}

theorem refl (d : Document) : d.SameParts d := ⟨rfl, rfl, rfl, fun _ _ _ ↦ rfl⟩

theorem trans (h : d.SameParts e) (h' : e.SameParts f) : d.SameParts f where
  tag? := h'.tag?.trans h.tag?
  shownText := h'.shownText.trans h.shownText
  descendants := h'.descendants.trans h.descendants
  get? x key hkey := (h'.get? x key hkey).trans (h.get? x key hkey)

variable (h : d.SameParts e)

include h

theorem isElement (x : NodeId) : e.isElement x = d.isElement x := by
  rw [Document.isElement, h.tag?, Document.isElement]

theorem isOption (settings : Settings) (id : String) :
    e.isOption settings id = d.isOption settings id := by
  funext x
  rw [Document.isOption, h.tag?, h.get? x "id" (by decide), Document.isOption]

theorem labelEntry (name : String) : e.labelEntry name = d.labelEntry name := by
  funext x
  rw [Document.labelEntry, h.tag?, h.shownText, Document.labelEntry]

theorem optionName (name : String) : e.optionName name = d.optionName name := by
  funext x
  rw [Document.optionName, h.shownText, Document.optionName]

theorem optionEntry (name : String) : e.optionEntry name = d.optionEntry name := by
  funext x
  rw [Document.optionEntry, h.shownText, h.optionName, h.get? x "value" (by decide),
    h.get? x "aria-selected" (by decide), Document.optionEntry]

end SameParts

theorem sameParts_insertAttribute (d : Document) (node : NodeId) {name : String} (value : String)
    (h : asciiLower name ∉ optionAttributes) :
    d.SameParts (d.insertAttribute node name value) where
  tag? := by
    funext x
    rw [insertAttribute_eq, tag?_mapAttributes]
  shownText := by
    funext x
    rw [shownText, insertAttribute_eq, textContent_mapAttributes, shownText]
  descendants := by
    funext x
    rw [insertAttribute_eq, descendants_mapAttributes]
  get? x key hkey := by
    have hne : key ≠ asciiLower name := fun heq ↦ h (heq ▸ hkey)
    rw [attributes_insertAttribute]
    split
    · rw [OrderedMap.get?_insert, if_neg hne]
    · rfl

theorem query_optionSelector {d : Document} {settings : Settings} {context : NodeId} {id : String}
    (hword : Css.IsWord settings.dropdownOptionTag) (hne : id ≠ "") (hnul : '\x00' ∉ id.toList)
    (hcontext : (d.node? context).isSome) :
    d.query context (Pass.optionSelector settings id) false =
      .ok ((d.descendants context).filter (d.isOption settings id)) := by
  have htest : (Css.AttributeTest.compare .startsWith id false).holds =
      fun value ↦ id.toList.isPrefixOf value.toList := by
    have hchars : id.toList.isEmpty = false := by simpa using hne
    funext value
    simp [Css.AttributeTest.holds, Css.Comparison.holds, Css.comparedChars, hchars]
  unfold Pass.optionSelector
  rw [query_of_parse (Css.parse?_prefixSelector hword id) hcontext, Css.asRead_of_notMem hnul]
  refine congrArg Except.ok (List.filter_congr fun x hx ↦ ?_)
  have helement : d.isElement x := isElement_of_mem_candidates hx
  obtain ⟨tag, htag⟩ := Option.isSome_iff_exists.1 helement
  simp [isMatch, Css.Selector.matches, Css.anyMatches, Css.Complex.matches, Css.allMatch,
    Css.Simple.matches, view, isOption, htag, htest]

end Document

namespace Outline

def pushNodes (o : Outline) (nodes : List OutlineNode) : Outline :=
  { o with children := o.children ++ nodes }

def pushAll (o : Outline) (entries : List Outline) : Outline :=
  o.pushNodes (entries.map toNode)

theorem pushNodes_nil (o : Outline) : o.pushNodes [] = o := by
  rw [pushNodes, List.append_nil]

theorem pushNodes_pushNodes (o : Outline) (nodes more : List OutlineNode) :
    (o.pushNodes nodes).pushNodes more = o.pushNodes (nodes ++ more) := by
  rw [pushNodes, pushNodes, pushNodes, List.append_assoc]

theorem pushAll_nil (o : Outline) : o.pushAll [] = o := o.pushNodes_nil

theorem pushAll_pushAll (o : Outline) (entries more : List Outline) :
    (o.pushAll entries).pushAll more = o.pushAll (entries ++ more) := by
  rw [pushAll, pushAll, pushNodes_pushNodes, pushAll, List.map_append]

theorem push_pushAll (o child : Outline) (entries : List Outline) :
    (o.push child).pushAll entries = o.pushAll (child :: entries) :=
  o.pushAll_pushAll [child] entries

end Outline

namespace Session

/-- The session with a node tagged as clickable under a name, and the name registered. -/
def click (settings : Settings) (recipe : Recipe) (s : Session Document)
    (part : NodeId × String) : Session Document where
  page := s.page.insertAttribute part.1 settings.clickableAttribute part.2
  registry := s.registry.addClickable part.2 recipe

section Clicks

variable {settings : Settings}
  (h : asciiLower settings.clickableAttribute ∉ Document.optionAttributes) (recipe : Recipe)

include h

theorem sameParts_click (part : NodeId × String) (s : Session Document) :
    s.page.SameParts (s.click settings recipe part).page :=
  s.page.sameParts_insertAttribute part.1 part.2 h

theorem sameParts_foldl_click (parts : List (NodeId × String)) (s : Session Document) :
    s.page.SameParts (parts.foldl (click settings recipe) s).page := by
  induction parts generalizing s with
  | nil => exact .refl s.page
  | cons part parts ih => exact (sameParts_click h recipe part s).trans (ih (s.click _ _ part))

end Clicks

end Session

namespace Pass

variable {settings : Settings} {recipe : Recipe} {name : String} {node : NodeId} {output : Outline}
  {s : Session Document}

theorem onPage_tag (h : s.page.isElement node) :
    onPage (tag node) s = (.ok ((s.page.tag? node).getD ""), s) := by
  obtain ⟨live, hlive⟩ := Option.isSome_iff_exists.1 h
  obtain ⟨n, hn⟩ := Option.isSome_iff_exists.1 (Document.node?_of_isElement h)
  rw [tag, onPage_answer, Document.reply, hlive, hn]
  rfl

theorem onPage_text (h : (s.page.node? node).isSome) :
    onPage (text node) s = (.ok (s.page.textContent node), s) := by
  obtain ⟨n, hn⟩ := Option.isSome_iff_exists.1 h
  rw [text, onPage_answer, Document.reply, Document.known, hn]

theorem onPage_attr (h : (s.page.node? node).isSome) (key : String) :
    onPage (attr node key) s = (.ok ((s.page.attributes node).get? (asciiLower key)), s) := by
  obtain ⟨n, hn⟩ := Option.isSome_iff_exists.1 h
  rw [attr, onPage_answer, Document.reply, Document.attributeOf, Document.known, hn]

theorem onPage_parent (h : (s.page.node? node).isSome) :
    onPage (parent node) s = (.ok (s.page.parent? node), s) := by
  obtain ⟨n, hn⟩ := Option.isSome_iff_exists.1 h
  rw [parent, onPage_answer, Document.reply, Document.known, hn, Document.parent?, hn]
  rfl

theorem tagClickable_apply (h : s.page.isElement node) :
    tagClickable settings recipe name node s = (.ok (), s.click settings recipe (node, name)) := by
  unfold tagClickable
  rw [bind_of_ok (onPage_setAttribute h settings.clickableAttribute name)]
  rfl

theorem labelName_of_ne_empty (h : name ≠ "") :
    labelName name = name ++ ".open_drop_down_list" := by
  rw [labelName, joinName, if_neg (by simpa using h), String.append_assoc]
  rfl

theorem expandLabel_apply (hd : s.page.Arboreal) {selector : Css.Selector}
    (hselector : Css.Selector.parse? settings.dropdownLabelSelector = some selector)
    (hname : name ≠ "") (h : s.page.isElement node) :
    let label := (s.page.dropdownLabel? selector node).toList
    expandLabel settings recipe name node output s =
      (.ok (output.pushAll (label.map (s.page.labelEntry name))),
        (label.map (·, name ++ ".open_drop_down_list")).foldl (Session.click settings recipe)
          s) := by
  have hknown := Document.node?_of_isElement h
  unfold expandLabel Document.dropdownLabel?
  rw [bind_of_ok (onPage_parent hknown), labelName_of_ne_empty hname]
  cases hp : s.page.parent? node with
  | none => exact congrArg (fun o ↦ (Except.ok o, s)) output.pushAll_nil.symm
  | some parent =>
    have hparent : (s.page.node? parent).isSome :=
      Document.isSome_node?.2 ((hd.parent_lt hp).trans (Document.lt_size_of_parent? hp))
    have hquery : onPage (queryFirst parent settings.dropdownLabelSelector) s =
        (.ok ((s.page.descendants parent).find? (s.page.isMatch selector parent)), s) := by
      rw [Engine.onPage_queryFirst, Document.query_of_parse hselector hparent,
        ← List.head?_filter]
      rfl
    dsimp only
    rw [bind_of_ok hquery, Option.bind_some]
    cases hl : (s.page.descendants parent).find? (s.page.isMatch selector parent) with
    | none => exact congrArg (fun o ↦ (Except.ok o, s)) output.pushAll_nil.symm
    | some label =>
      have hcandidate : label ∈ s.page.candidates parent false := List.mem_of_find?_eq_some hl
      have helement := Document.isElement_of_mem_candidates hcandidate
      dsimp only
      rw [bind_of_ok (onPage_tag helement),
        bind_of_ok (onPage_text (Document.node?_of_isElement helement)),
        bind_of_ok (tagClickable_apply helement)]
      rfl

theorem expandOption_apply (h : s.page.isElement node) :
    expandOption settings recipe name node output s =
      (.ok (output.push (s.page.optionEntry name node)),
        s.click settings recipe (node, s.page.optionName name node)) := by
  have hknown := Document.node?_of_isElement h
  unfold expandOption
  rw [bind_of_ok (onPage_text hknown), bind_of_ok (onPage_attr hknown _),
    bind_of_ok (onPage_attr hknown _), bind_of_ok (tagClickable_apply h)]
  rfl

/-- The entries of options are those of the page as it was before any of them was tagged. -/
theorem expandOptions_apply
    (hclick : asciiLower settings.clickableAttribute ∉ Document.optionAttributes)
    (control : NodeId) {nodes : List NodeId} (h : ∀ x ∈ nodes, s.page.isElement x) :
    let options := nodes.filter (· ≠ control)
    expandOptions settings recipe name control nodes output s =
      (.ok (output.pushAll (options.map (s.page.optionEntry name))),
        (options.map fun x ↦ (x, s.page.optionName name x)).foldl (Session.click settings recipe)
          s) := by
  dsimp only
  induction nodes generalizing output s with
  | nil =>
    rw [expandOptions, List.filter_nil]
    exact congrArg (fun o ↦ (Except.ok o, s)) output.pushAll_nil.symm
  | cons x nodes ih =>
    rw [List.forall_mem_cons] at h
    rw [expandOptions]
    by_cases hx : x = control
    · rw [if_pos hx, List.filter_cons_of_neg (by simpa using hx)]
      exact ih h.2
    rw [if_neg hx, List.filter_cons_of_pos (by simpa using hx),
      bind_of_ok (expandOption_apply h.1)]
    have hsame := Session.sameParts_click hclick recipe (x, s.page.optionName name x) s
    dsimp only
    rw [ih fun y hy ↦ (hsame.isElement y).trans (h.2 y hy), hsame.optionEntry, hsame.optionName,
      Outline.push_pushAll]
    rfl

theorem onPage_queryRoot (selector : String) (s : Session Document) :
    onPage (do query (← root) selector false) s =
      (s.page.query Document.root selector false, s) := rfl

/-- A dropdown lists its label, where there is one, and in document order its options, the control
itself excepted. Each part is tagged under its name, and the last one under a name keeps it. -/
theorem expandDropdown_lists {id : String} {selector : Css.Selector} (hpage : s.page.Reached)
    (hnode : s.page.isElement node) (hname : name ≠ "")
    (hid : (s.page.attributes node).get? "id" = some id) (hne : id ≠ "")
    (hnul : '\x00' ∉ id.toList) (hword : Css.IsWord settings.dropdownOptionTag)
    (hselector : Css.Selector.parse? settings.dropdownLabelSelector = some selector)
    (hclick : asciiLower settings.clickableAttribute ∉ Document.optionAttributes)
    (hselect : asciiLower settings.selectAttribute ∉ Document.optionAttributes) :
    ∃ order : List NodeId, s.page.InPreorder (s.page.childIds Document.root) order ∧
      (∀ x, x ∈ order ↔ TransGen s.page.HasChild Document.root x) ∧ order.Nodup ∧
      let marked := s.page.insertAttribute node settings.selectAttribute name
      let label := (marked.dropdownLabel? selector node).toList
      let options := order.filter fun x ↦ x ≠ node && s.page.isOption settings id x
      expandDropdown settings recipe name node output s =
        (.ok (output.pushAll (label.map (s.page.labelEntry name) ++
            options.map (s.page.optionEntry name))),
          (label.map (·, name ++ ".open_drop_down_list") ++
              options.map fun x ↦ (x, s.page.optionName name x)).foldl
            (Session.click settings recipe) { s with page := marked }) := by
  have hd := Document.arboreal_keptByBuilding.reached hpage
  refine ⟨s.page.descendants Document.root, hd.inPreorder_descendants _,
    fun x ↦ hd.mem_descendants, hd.nodup_descendants _, ?_⟩
  intro marked label options
  have hmarked : marked.isElement node := (s.page.isElement_insertAttribute ..).trans hnode
  set t := (label.map (·, name ++ ".open_drop_down_list")).foldl (Session.click settings recipe)
    { s with page := marked } with ht
  have hlabelled : expandLabel settings recipe name node output { s with page := marked } =
      (.ok (output.pushAll (label.map (marked.labelEntry name))), t) :=
    expandLabel_apply (hd.insertAttribute ..) hselector hname hmarked
  have hsame := s.page.sameParts_insertAttribute node name hselect
  rw [hsame.labelEntry] at hlabelled
  unfold expandDropdown
  rw [bind_of_ok (onPage_setAttribute hnode settings.selectAttribute name), bind_of_ok hlabelled,
    List.foldl_append]
  -- What is read from here on is read from a tagged page, and is what the page itself says.
  replace hsame := hsame.trans (ht ▸ Session.sameParts_foldl_click hclick recipe _ _)
  have hidt : (t.page.attributes node).get? "id" = some id :=
    (hsame.get? node "id" (by decide)).trans hid
  have hknown := Document.node?_of_isElement ((hsame.isElement node).trans hnode)
  have hroot := Document.node?_of_isElement ((hsame.isElement Document.root).trans hd.root)
  have hquery := Document.query_optionSelector hword hne hnul hroot
  have hfilter : id.isEmpty = false := by simpa using hne
  rw [bind_of_ok (onPage_attr hknown "id"), show asciiLower "id" = "id" from rfl, hidt]
  simp only [Option.filter_some, hfilter, Bool.not_false, if_true]
  rw [bind_of_ok ((onPage_queryRoot _ t).trans (congrArg (·, t) hquery)),
    expandOptions_apply hclick node (Document.isElement_of_query hquery), hsame.descendants,
    hsame.isOption, hsame.optionEntry, hsame.optionName, List.filter_filter,
    Outline.pushAll_pushAll]

def boldLabels : Settings := { dropdownLabelSelector := "b" }

def sizesPage : Document :=
  let control := ((Document.new "body").appendElement 0 "b").appendElement 0 "select"
  let option := (control.insertAttribute 2 "id" "size\"]").appendElement 0 "a"
  let text := (option.insertAttribute 3 "id" "size\"]-1").appendText 3 " Small "
  (text.appendElement 0 "a").insertAttribute 5 "id" "SIZE\"]-2"

theorem reached_sizesPage : sizesPage.Reached := by
  refine .insertAttribute (.appendElement (.appendText (.insertAttribute (.appendElement
    (.insertAttribute (.appendElement (.appendElement (.new "body") ?_ _) ?_ _) _ _ _) ?_ _) _ _ _)
      ?_ _) ?_ _) _ _ _ <;> decide

theorem expandDropdown_lists_sizesPage :
    sizesPage.Reached ∧ sizesPage.isElement 2 ∧
    (sizesPage.attributes 2).get? "id" = some "size\"]" ∧
    Css.IsWord boldLabels.dropdownOptionTag ∧
    Css.Selector.parse? boldLabels.dropdownLabelSelector =
      some ⟨[.compound [.localName "b"]]⟩ ∧
    ∃ order, sizesPage.InPreorder (sizesPage.childIds Document.root) order ∧
      (order.filter fun x ↦ x ≠ 2 && sizesPage.isOption boldLabels "size\"]" x) = [3] ∧
      ∃ output t, expandDropdown boldLabels (.ofSelector "select") "shirt" 2 (.ofTag "select")
        ⟨sizesPage, ∅⟩ = (.ok output, t) ∧ output.children.length = 2 := by
  have hnode : sizesPage.isElement 2 := by decide
  have hid : (sizesPage.attributes 2).get? "id" = some "size\"]" := by decide
  have hword : Css.IsWord boldLabels.dropdownOptionTag := ⟨'a', [], rfl, rfl, by simp⟩
  have hselector : Css.Selector.parse? boldLabels.dropdownLabelSelector =
      some ⟨[.compound [.localName "b"]]⟩ := by rfl
  have hlabel : (sizesPage.insertAttribute 2 boldLabels.selectAttribute "shirt").dropdownLabel?
      ⟨[.compound [.localName "b"]]⟩ 2 = some 1 := by decide +kernel
  have hd := Document.arboreal_keptByBuilding.reached reached_sizesPage
  obtain ⟨order, horder, -, -, happly⟩ := expandDropdown_lists (s := ⟨sizesPage, ∅⟩)
    reached_sizesPage hnode (show "shirt" ≠ "" by decide) hid (by decide) (by decide) hword
    hselector (by decide) (by decide)
  obtain rfl := horder.unique (hd.inPreorder_descendants Document.root)
  have hoptions : ((sizesPage.descendants Document.root).filter fun x ↦
      x ≠ 2 && sizesPage.isOption boldLabels "size\"]" x) = [3] := by decide +kernel
  refine ⟨reached_sizesPage, hnode, hid, hword, hselector, _, horder, hoptions, _, _, happly, ?_⟩
  rw [hlabel, hoptions]
  rfl

def coveredPage : Document :=
  let control := ((Document.new "body").appendElement 0 "select").insertAttribute 1 "id" "size"
  ((control.appendText 0 "Size").appendElement 2 "a").insertAttribute 3 "id" "size-1"

theorem reached_coveredPage : coveredPage.Reached := by
  refine .insertAttribute (.appendElement (.appendText (.insertAttribute (.appendElement
    (.new "body") ?_ _) _ _ _) ?_ _) ?_ _) _ _ _ <;> decide

/-- An option is not listed if it stands below a text, or if the tag of the control, spelled in
capitals, takes the place of its id. -/
theorem expandDropdown_omits :
    (Css.IsWord boldLabels.dropdownOptionTag ∧
      (Css.Selector.parse? boldLabels.dropdownLabelSelector).isSome ∧
      boldLabels.clickableAttribute ∉ ["id", "value", "aria-selected"] ∧
      boldLabels.selectAttribute ∉ ["id", "value", "aria-selected"]) ∧
    (coveredPage.Reached ∧ coveredPage.tag? 1 = some "select" ∧
      (coveredPage.attributes 1).get? "id" = some "size" ∧
      coveredPage.isOption boldLabels "size" 3 ∧
      (expandDropdown boldLabels (.ofSelector "select") "shirt" 1 (.ofTag "select")
        ⟨coveredPage, ∅⟩).1.toOption.map (·.childElements.map Outline.tag) = some []) ∧
    (sizesPage.Reached ∧ sizesPage.tag? 2 = some "select" ∧
      (sizesPage.attributes 2).get? "id" = some "size\"]" ∧
      "ID" ∉ ["id", "value", "aria-selected"] ∧ sizesPage.isOption boldLabels "size\"]" 3 ∧
      (expandDropdown { boldLabels with selectAttribute := "ID" } (.ofSelector "select") "shirt" 2
        (.ofTag "select") ⟨sizesPage, ∅⟩).1.toOption.map (·.childElements.map Outline.tag) =
          some ["b"]) :=
  ⟨⟨⟨'a', [], rfl, rfl, by simp⟩, by decide +kernel, by decide, by decide⟩,
    ⟨reached_coveredPage, by decide, by decide, by decide, by decide +kernel⟩,
    reached_sizesPage, by decide, by decide, by decide, by decide, by decide +kernel⟩

end Pass

end PageOutline
