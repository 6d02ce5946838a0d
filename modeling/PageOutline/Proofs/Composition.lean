import PageOutline.Proofs.Frame
import PageOutline.Proofs.Marking
import PageOutline.Proofs.ShownNames

namespace PageOutline

open LivePage
open Text (asciiLower)

namespace OrderedMap

variable {α : Type}

def write (m : OrderedMap α) (writes : List (String × α)) : OrderedMap α :=
  writes.foldl (fun m e ↦ m.insert e.1 e.2) m

theorem ofList_eq_write (writes : List (String × α)) : ofList writes = write ∅ writes := rfl

theorem write_concat (m : OrderedMap α) (writes : List (String × α)) (e : String × α) :
    m.write (writes ++ [e]) = (m.write writes).insert e.1 e.2 :=
  List.foldl_concat ..

theorem write_append (m : OrderedMap α) (first last : List (String × α)) :
    m.write (first ++ last) = (m.write first).write last :=
  List.foldl_append

theorem mem_keys_write {m : OrderedMap α} {writes : List (String × α)} {key : String} :
    key ∈ (m.write writes).keys ↔ key ∈ m.keys ∨ key ∈ writes.map Prod.fst := by
  induction writes using List.reverseRecOn with
  | nil => simp [write]
  | append_singleton writes e ih =>
    rw [write_concat, mem_keys_insert, ih, List.map_append, List.map_singleton, List.mem_append,
      List.mem_singleton, or_left_comm, or_comm (a := key = e.1)]

theorem get?_write (m : OrderedMap α) (writes : List (String × α)) (key : String) :
    (m.write writes).get? key =
      ((writes.findRev? (·.1 == key)).map Prod.snd).or (m.get? key) := by
  induction writes using List.reverseRecOn with
  | nil => rfl
  | append_singleton writes e ih =>
    rw [write_concat, get?_insert, ih]
    simp only [List.findRev?_eq_find?_reverse, List.reverse_append, List.reverse_singleton,
      List.singleton_append, List.find?_cons]
    by_cases h : key = e.1
    · simp [h]
    · have hbeq : (e.1 == key) = false := beq_false_of_ne (Ne.symm h)
      simp [h, hbeq]

theorem keys_write_of_subset {m : OrderedMap α} {writes : List (String × α)}
    (h : ∀ e ∈ writes, e.1 ∈ m.keys) : (m.write writes).keys = m.keys := by
  induction writes using List.reverseRecOn with
  | nil => rfl
  | append_singleton writes e ih =>
    rw [List.forall_mem_append, List.forall_mem_singleton] at h
    rw [write_concat, keys_insert, ih h.1, if_pos h.2]

theorem write_write (m : OrderedMap α) (writes : List (String × α)) :
    (m.write writes).write writes = m.write writes := by
  apply ext_get?
  · apply keys_write_of_subset
    intro e he
    exact mem_keys_write.2 (.inr (List.mem_map_of_mem he))
  · intro key
    rw [get?_write, get?_write, ← Option.or_assoc, Option.or_self]

end OrderedMap

namespace Outline

def write (o : Outline) (writes : List (String × String)) : Outline :=
  { o with attributes := o.attributes.write writes }

@[simp] theorem attributes_write (o : Outline) (writes : List (String × String)) :
    (o.write writes).attributes = o.attributes.write writes := rfl

theorem write_nil (o : Outline) : o.write [] = o := rfl

theorem write_append (o : Outline) (first last : List (String × String)) :
    o.write (first ++ last) = (o.write first).write last := by
  simp only [write, OrderedMap.write_append]

theorem setOptional_eq_write (o : Outline) (key : String) (value : Option String) :
    (value.map (o.setAttribute key)).getD o = o.write (value.map (key, ·)).toList := by
  cases value <;> rfl

theorem write_write (o : Outline) (writes : List (String × String)) :
    (o.write writes).write writes = o.write writes := by
  simp only [write, OrderedMap.write_write]

end Outline

theorem Directive.attributes_head (d : Directive) (liveTag text : String) (name : Option String) :
    (d.head liveTag text name).attributes = .ofList (name.map ("name", ·)).toList := by
  unfold head
  rw [Outline.setOptional_eq_write]
  cases d.attachText && !text.isEmpty <;> rfl

def Directive.overrides (r : Directive) : List (String × String) :=
  (r.classOverride.map ("class", ·)).toList ++ (r.idOverride.map ("id", ·)).toList

namespace Document

variable (d : Document) (settings : Settings) (r : Directive) (node : NodeId)

/-- The attributes of a node with the given names, unless empty, each under its name as given. -/
def copies (names : List String) : List (String × String) :=
  names.filterMap fun name ↦
    (((d.attributes node).get? (asciiLower name)).filter fun value ↦ !value.isEmpty).map (name, ·)

def computed (computers : List (String × AttributeFunction)) : List (String × String) :=
  computers.filterMap fun c ↦ (((c.2 node).run d).1.toOption.getD none).map (c.1, ·)

def composition : List (String × String) :=
  d.copies node (settings.preservedAttributes ++ r.keepAttributes) ++ r.overrides ++
    d.computed node r.computers.entries

/-- What the state of a control writes: the value of a text field, and whether a button with two
states is checked. -/
def controlState (liveTag : String) : List (String × String) :=
  if liveTag = "input" then
    if d.inputType node ∈ ["text", "number"] then
      (((d.attributes node).get? "value").map ("value", ·)).toList
    else if d.inputType node ∈ ["radio", "checkbox"] then
      [("checked", toString ((d.attributes node).contains "checked"))]
    else []
  else []

variable {d}

theorem controlState_cases (liveTag : String) :
    d.controlState node liveTag = [] ∨ ∃ e, d.controlState node liveTag = [e] := by
  unfold controlState
  split
  · split
    · cases (d.attributes node).get? "value" <;> simp
    · split <;> simp
  · simp

end Document

namespace Pass

variable {settings : Settings} {recipe : Recipe} {node : NodeId} {output output' : Outline}
  {s t : Session Document}

theorem copyAttributes_apply {names : List String}
    (h : (s.page.node? node).isSome ∨ names = []) (output : Outline) :
    copyAttributes node names output s = (.ok (output.write (s.page.copies node names)), s) := by
  rcases h with hnode | rfl
  · induction names generalizing output with
    | nil => rfl
    | cons name names ih =>
      rw [copyAttributes, bind_of_ok (onPage_attr hnode name), ih, Outline.setOptional_eq_write,
        ← Outline.write_append]
      unfold Document.copies
      rw [List.filterMap_cons]
      split <;> simp [*]
  · rfl

theorem copyAttributes_of_unknown (h : s.page.node? node = none) {names : List String}
    (hnames : names ≠ []) (output : Outline) :
    copyAttributes node names output s = (.error (.unknownNode node), s) := by
  obtain ⟨name, names, rfl⟩ := List.exists_cons_of_ne_nil hnames
  have hattr : onPage (attr node name) s = (.error (.unknownNode node), s) := by
    rw [attr, onPage_answer, Document.reply, Document.attributeOf, Document.known, h]
  rw [copyAttributes, bind_apply, hattr]

theorem computeAttributes_apply (computers : List (String × AttributeFunction)) (output : Outline)
    (s : Session Document) : computeAttributes node computers output s =
      (.ok (output.write (s.page.computed node computers)), s) := by
  induction computers generalizing output with
  | nil => rfl
  | cons c computers ih =>
    rw [computeAttributes, bind_of_ok (answerOr_apply none (c.2 node) s), ih,
      Outline.setOptional_eq_write, ← Outline.write_append]
    unfold Document.computed
    rw [List.filterMap_cons]
    split <;> simp [*]

theorem composeAttributes_eq {d : Directive}
    (h : (s.page.node? node).isSome ∨ settings.preservedAttributes ++ d.keepAttributes = [])
    (output : Outline) : composeAttributes settings d node output s =
      (.ok (output.write (s.page.composition settings d node)), s) := by
  rw [composeAttributes, bind_of_ok (copyAttributes_apply h output), computeAttributes_apply,
    Document.composition, Directive.overrides]
  simp only [Outline.setOptional_eq_write, Outline.write_append]

theorem composeAttributes_twice (d : Directive) (output : Outline) (s : Session Document) :
    (composeAttributes settings d node output >>= composeAttributes settings d node) s =
      composeAttributes settings d node output s := by
  by_cases h : (s.page.node? node).isSome ∨ settings.preservedAttributes ++ d.keepAttributes = []
  · rw [bind_of_ok (composeAttributes_eq h output), composeAttributes_eq h,
      composeAttributes_eq h, Outline.write_write]
  · rw [not_or, Option.not_isSome_iff_eq_none] at h
    have herror : composeAttributes settings d node output s = (.error (.unknownNode node), s) := by
      rw [composeAttributes, bind_apply, copyAttributes_of_unknown h.1 h.2]
    rw [bind_apply, herror]

theorem value_of_onPage {current : Option String}
    (h : onPage (value node) s = (.ok current, t)) :
    current = (s.page.attributes node).get? "value" ∧ t = s := by
  have hlower : asciiLower "value" = "value" := by decide
  have hvalue : onPage (attr node "value") s = (.ok current, t) := h
  rw [← hlower]
  exact get?_of_onPage hvalue

theorem checked_of_onPage {current : Bool} (h : onPage (checked node) s = (.ok current, t)) :
    current = (s.page.attributes node).contains "checked" ∧ t = s := by
  have hlower : asciiLower "checked" = "checked" := by decide
  rw [checked, onPage_answer, Document.reply, Prod.mk.injEq] at h
  obtain ⟨hreply, rfl⟩ := h
  cases hattr : s.page.attributeOf node "checked" with
  | error failure =>
    rw [hattr] at hreply
    cases hreply
  | ok state =>
    rw [hattr] at hreply
    cases hreply
    have hpage : onPage (attr node "checked") s = (.ok state, s) := by
      rw [attr, onPage_answer, Document.reply, hattr]
    obtain ⟨rfl, -⟩ := get?_of_onPage hpage
    exact ⟨by rw [hlower]; rfl, rfl⟩

theorem eq_of_tagging {tagging : String → Pass Document Unit} {name : Option String}
    (h : (match name with
      | some name => tagging name >>= fun _ ↦ pure output
      | none => pure output) s = (.ok output', t)) : output' = output := by
  cases name with
  | none =>
    cases h
    rfl
  | some name =>
    obtain ⟨_, u, -, ⟨⟩⟩ := bind_eq_ok.1 h
    rfl

theorem describeInput_eq_ok {name : Option String}
    (h : describeInput settings recipe name node output s = (.ok output', t)) :
    output' = output.write (s.page.controlState node "input") := by
  obtain ⟨type, u, hlive, h⟩ := bind_eq_ok.1 h
  obtain ⟨rfl, rfl⟩ := get?_of_onPage hlive
  have hlower : asciiLower "type" = "type" := by decide
  dsimp only at h
  rw [hlower, ← Document.inputType] at h
  unfold Document.controlState
  generalize u.page.inputType node = type at h ⊢
  rw [if_pos rfl]
  by_cases hfield : type = "text" ∨ type = "number"
  · rw [if_pos hfield] at h
    obtain ⟨current, v, hcurrent, h⟩ := bind_eq_ok.1 h
    obtain ⟨rfl, rfl⟩ := value_of_onPage hcurrent
    rw [if_pos (by simpa using hfield), ← Outline.setOptional_eq_write]
    exact eq_of_tagging h
  · rw [if_neg hfield] at h
    rw [if_neg (by simpa using hfield)]
    by_cases hradio : type = "radio"
    · rw [if_pos hradio] at h
      obtain ⟨current, v, hcurrent, h⟩ := bind_eq_ok.1 h
      obtain ⟨rfl, rfl⟩ := checked_of_onPage hcurrent
      rw [if_pos (by simp [hradio])]
      exact eq_of_tagging h
    · rw [if_neg hradio] at h
      by_cases hbox : type = "checkbox"
      · rw [if_pos hbox] at h
        obtain ⟨current, v, hcurrent, ⟨⟩⟩ := bind_eq_ok.1 h
        obtain ⟨rfl, rfl⟩ := checked_of_onPage hcurrent
        rw [if_pos (by simp [hbox])]
        rfl
      · rw [if_neg hbox] at h
        cases h
        rw [if_neg (by simp [hradio, hbox]), Outline.write_nil]

theorem attributes_of_describeControl {liveTag : String} {name : Option String}
    (h : describeControl settings recipe liveTag name node output s = (.ok output', t)) :
    output'.attributes = output.attributes.write (s.page.controlState node liveTag) := by
  unfold describeControl at h
  split at h
  · next hinput =>
    subst hinput
    rw [describeInput_eq_ok h]
    rfl
  · next hinput =>
    rw [Document.controlState, if_neg hinput]
    split at h
    · cases name with
      | none =>
        cases h
        rfl
      | some name =>
        obtain ⟨entries, rfl⟩ := expandDropdown_pushAll h
        rfl
    · cases h
      rfl

theorem attributes_finish (d : Directive) (output : Outline) :
    (finish d output).attributes = output.attributes := by
  unfold finish
  split <;> rfl

namespace Stop

variable {w : Stop Document}

theorem tagged_mark {name : Option String} (hname : ∀ x ∈ name, x ≠ "") {u : Session Document}
    (h : w.mark settings name w.session = (.ok (), u)) :
    w.session.page.Tagged settings.tagNames u.page := by
  have hsteps := ((w.session.page.tagged_keptByTags settings w.recipe).respects
    (σ := Document)).inStep
  have hkept := ((hsteps.metadata w.node).bind fun _ ↦ hsteps.tagIfClickable hname w.node)
    w.session w.session ⟨rfl, .refl _⟩
  unfold mark at h
  rw [h] at hkept
  exact hkept.2.2

/-- All that is written among the attributes of a node, once the page `d` has been marked: its name,
what the recipe asks for, and the state of a control. -/
def writes (settings : Settings) (w : Stop Document) (d : Document) (liveTag text : String) :
    List (String × String) :=
  ((w.recipe.directive.name.resolve w.parent text w.index).usable?.map ("name", ·)).toList ++
    d.composition settings w.recipe.directive w.node ++ d.controlState w.node liveTag

theorem attributes_process (h : w.process settings = (.ok output, t)) :
    ∃ liveTag text u, w.session.page.tag? w.node = some liveTag ∧
      resolveText w.recipe.directive w.node w.session = (.ok text, w.session) ∧
      w.mark settings (w.recipe.directive.name.resolve w.parent text w.index).usable? w.session =
        (.ok (), u) ∧
      w.session.page.Tagged settings.tagNames u.page ∧
      output.attributes = .ofList (w.writes settings u.page liveTag text) := by
  obtain ⟨liveTag, text, u, composed, head, v, nodes, hlive, htext, hmark, hcomposed, hdescribed,
    -, rfl⟩ := process_stages h
  have htagged := tagged_mark (fun _ hname ↦ ne_empty_of_usable hname) hmark
  have hnode : (u.page.node? w.node).isSome := by
    have helement : w.session.page.isElement w.node := Option.isSome_iff_exists.2 ⟨liveTag, hlive⟩
    obtain ⟨m, hm⟩ := Option.isSome_iff_exists.1 (Document.node?_of_isElement helement)
    obtain ⟨n, hn, -⟩ := htagged.node w.node m hm
    exact Option.isSome_iff_exists.2 ⟨n, hn⟩
  rw [composeAttributes_eq (.inl hnode), Prod.mk.injEq] at hcomposed
  obtain ⟨⟨⟩, -⟩ := hcomposed
  have hpushed : (head.pushNodes nodes).attributes = head.attributes := rfl
  refine ⟨liveTag, text, u, hlive, htext, hmark, htagged, ?_⟩
  rw [attributes_finish, hpushed, attributes_of_describeControl hdescribed,
    Outline.attributes_write, Directive.attributes_head, writes]
  simp only [OrderedMap.ofList_eq_write, OrderedMap.write_append]

end Stop

/-- The attributes of an outline node are what is written among them in order: the last write to a
key gives its value, the first one its place, and the state of a control comes last of all.
Composing them again changes nothing. -/
theorem process_attributes (settings : Settings) :
    (∀ (w : Stop Document) (output : Outline) (t : Session Document),
      w.process settings = (.ok output, t) →
        ∃ liveTag text u, w.session.page.tag? w.node = some liveTag ∧
          resolveText w.recipe.directive w.node w.session = (.ok text, w.session) ∧
          w.mark settings (w.recipe.directive.name.resolve w.parent text w.index).usable?
            w.session = (.ok (), u) ∧
          w.session.page.Tagged settings.tagNames u.page ∧
          let writes := w.writes settings u.page liveTag text
          output.attributes = .ofList writes ∧
          output.attributes.keys = (writes.map Prod.fst).eraseDups ∧
          (∀ key, output.attributes.get? key = (writes.findRev? (·.1 == key)).map Prod.snd) ∧
          ∀ key value, (key, value) ∈ u.page.controlState w.node liveTag →
            output.attributes.get? key = some value) ∧
    ∀ (d : Directive) (node : NodeId) (output : Outline) (s : Session Document),
      (composeAttributes settings d node output >>= composeAttributes settings d node) s =
        composeAttributes settings d node output s := by
  refine ⟨fun w output t h ↦ ?_, fun d node output s ↦ composeAttributes_twice d output s⟩
  obtain ⟨liveTag, text, u, hlive, htext, hmark, htagged, hattributes⟩ := Stop.attributes_process h
  refine ⟨liveTag, text, u, hlive, htext, hmark, htagged, hattributes, ?_, ?_, ?_⟩
  · rw [hattributes, OrderedMap.keys_ofList]
  · intro key
    rw [hattributes, OrderedMap.get?_ofList]
  · intro key value hstate
    rw [hattributes, Stop.writes]
    rcases u.page.controlState_cases w.node liveTag with hnone | ⟨e, hone⟩
    · rw [hnone] at hstate
      cases hstate
    · rw [hone, List.mem_singleton] at hstate
      rw [hone, OrderedMap.ofList_concat, OrderedMap.get?_insert, ← hstate, if_pos rfl]

def quantityPage : Document :=
  ((Document.new "input").insertAttribute 0 "type" "Number").insertAttribute 0 "value" "2"

def quantityField : Recipe :=
  .node { Directive.ofSelector "input" with
    name := .literal "quantity"
    keepAttributes := ["TYPE"]
    idOverride := some "quantity"
    computers := .ofList [("value", fun _ ↦ .done (some "9")),
      ("title", fun node ↦ .fail (.unknownNode node))] } []

theorem process_attributes_quantityField :
    let w : Stop Document := ⟨⟨quantityPage, ∅⟩, quantityField, Document.root, "", 0⟩
    ∃ output t, w.process {} = (.ok output, t) ∧ output.attributes.get? "value" = some "2" ∧
      output.attributes.keys = ["name", "type", "value", "TYPE", "id"] := by
  intro w
  have hok : (w.process {}).1.isOk := by decide +kernel
  obtain ⟨output, houtput⟩ := exists_ok_of_isOk hok
  have hresult : w.process {} = (.ok output, (w.process {}).2) := Prod.ext houtput rfl
  obtain ⟨liveTag, text, u, hlive, htext, hmark, -, -, hkeys, -, hstate⟩ :=
    (process_attributes {}).1 _ _ _ hresult
  obtain rfl : liveTag = "input" := Option.some.inj (hlive.symm.trans (by decide +kernel))
  cases htext
  cases hmark
  have hwrites : (w.writes {} quantityPage "input" "").map Prod.fst =
      ["name", "type", "value", "TYPE", "id", "value", "value"] := by
    decide +kernel
  refine ⟨output, _, hresult, hstate _ _ (by decide +kernel), hkeys.trans ?_⟩
  exact (congrArg List.eraseDups hwrites).trans (by decide)

end Pass

end PageOutline
