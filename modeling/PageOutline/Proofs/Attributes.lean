import PageOutline.Page.Live
import PageOutline.Proofs.Selectors
import PageOutline.Proofs.Overlay

namespace PageOutline

open Text (asciiLower)

namespace NodeContent

def attributes : NodeContent → OrderedMap String
  | .element _ attributes => attributes
  | .text _ => ∅

def mapAttributes (f : OrderedMap String → OrderedMap String) : NodeContent → NodeContent
  | .element tag attributes => .element tag (f attributes)
  | .text s => .text s

theorem setAttribute_eq (name value : String) (c : NodeContent) :
    c.setAttribute name value = c.mapAttributes fun m ↦ m.insert (asciiLower name) value := by
  cases c <;> rfl

end NodeContent

namespace NodeEntry

def mapAttributes (f : OrderedMap String → OrderedMap String) (n : NodeEntry) : NodeEntry :=
  { n with content := n.content.mapAttributes f }

theorem mapAttributes_mapAttributes (f g : OrderedMap String → OrderedMap String) (n : NodeEntry) :
    (n.mapAttributes f).mapAttributes g = n.mapAttributes fun m ↦ g (f m) := by
  rcases n with ⟨_ | _, _, _, _⟩ <;> rfl

theorem mapAttributes_id (n : NodeEntry) : n.mapAttributes (fun m ↦ m) = n := by
  rcases n with ⟨_ | _, _, _, _⟩ <;> rfl

end NodeEntry

namespace Tree

theorem elementsAll_eq_flatMap (ts : List Tree) : elementsAll ts = ts.flatMap elements := by
  induction ts with
  | nil => rfl
  | cons t ts ih => rw [elementsAll, ih, List.flatMap_cons]

theorem textContentAll_congr {l : List NodeId} {f g : NodeId → Tree}
    (h : ∀ id, (f id).textContent = (g id).textContent) :
    textContentAll (l.map f) = textContentAll (l.map g) := by
  induction l with
  | nil => rfl
  | cons id l ih => rw [List.map_cons, List.map_cons, textContentAll, textContentAll, h, ih]

end Tree

namespace Document

def mapAttributes (f : NodeId → OrderedMap String → OrderedMap String) (d : Document) : Document :=
  { d with nodes := d.nodes.mapIdx fun id n ↦ n.mapAttributes (f id) }

theorem ext_node? {d e : Document} (hv : d.viewport = e.viewport)
    (hn : ∀ id, d.node? id = e.node? id) : d = e := by
  have hnodes : d.nodes = e.nodes := Array.ext_getElem? hn
  cases d
  cases e
  cases hv
  cases hnodes
  rfl

theorem attributes_eq (d : Document) (node : NodeId) :
    d.attributes node = ((d.node? node).map fun n ↦ n.content.attributes).getD ∅ := by
  unfold attributes
  rcases d.node? node with _ | ⟨_ | _, _, _, _⟩ <;> rfl

theorem node?_insertAttribute (d : Document) (node id : NodeId) (name value : String) :
    (d.insertAttribute node name value).node? id =
      if node = id then
        (d.node? id).map fun n ↦ { n with content := n.content.setAttribute name value }
      else d.node? id :=
  Array.getElem?_modify

section MapAttributes

variable (d : Document) (f g : NodeId → OrderedMap String → OrderedMap String) (id : NodeId)

theorem node?_mapAttributes :
    (d.mapAttributes f).node? id = (d.node? id).map (·.mapAttributes (f id)) :=
  Array.getElem?_mapIdx

theorem mapAttributes_mapAttributes :
    (d.mapAttributes f).mapAttributes g = d.mapAttributes fun id m ↦ g id (f id m) := by
  refine ext_node? rfl fun id ↦ ?_
  simp only [node?_mapAttributes, Option.map_map, Function.comp_def,
    NodeEntry.mapAttributes_mapAttributes]

theorem insertAttribute_eq (node : NodeId) (name value : String) :
    d.insertAttribute node name value =
      d.mapAttributes fun id m ↦ if node = id then m.insert (asciiLower name) value else m := by
  refine ext_node? rfl fun id ↦ ?_
  rw [node?_insertAttribute, node?_mapAttributes]
  by_cases h : node = id
  · simp only [h, if_true, NodeContent.setAttribute_eq]
    rfl
  · simp only [h, if_false, NodeEntry.mapAttributes_id, Option.map_id']

@[simp] theorem size_mapAttributes : (d.mapAttributes f).size = d.size := Array.size_mapIdx

@[simp] theorem tag?_mapAttributes : (d.mapAttributes f).tag? id = d.tag? id := by
  unfold tag?
  rw [node?_mapAttributes]
  rcases d.node? id with _ | ⟨_ | _, _, _, _⟩ <;> rfl

@[simp] theorem isElement_mapAttributes : (d.mapAttributes f).isElement id = d.isElement id := by
  unfold isElement
  rw [tag?_mapAttributes]

@[simp] theorem childIds_mapAttributes : (d.mapAttributes f).childIds id = d.childIds id := by
  unfold childIds
  rw [node?_mapAttributes]
  cases d.node? id <;> rfl

@[simp] theorem parent?_mapAttributes : (d.mapAttributes f).parent? id = d.parent? id := by
  unfold parent?
  rw [node?_mapAttributes]
  cases d.node? id <;> rfl

theorem elements_treeTo_mapAttributes (depth : Nat) :
    ((d.mapAttributes f).treeTo depth id).elements = (d.treeTo depth id).elements := by
  induction depth generalizing id with
  | zero => rfl
  | succ depth ih =>
    unfold treeTo
    rw [node?_mapAttributes]
    rcases d.node? id with _ | ⟨⟨tag, attributes⟩ | s, parent, children, box⟩
    · rfl
    · refine congrArg (id :: ·) ?_
      simp only [Tree.elementsAll_eq_flatMap, List.flatMap_map, ih]
    · rfl

theorem textContent_treeTo_mapAttributes (depth : Nat) :
    ((d.mapAttributes f).treeTo depth id).textContent = (d.treeTo depth id).textContent := by
  induction depth generalizing id with
  | zero => rfl
  | succ depth ih =>
    unfold treeTo
    rw [node?_mapAttributes]
    rcases d.node? id with _ | ⟨⟨tag, attributes⟩ | s, parent, children, box⟩
    · rfl
    · exact Tree.textContentAll_congr ih
    · rfl

@[simp] theorem textContent_mapAttributes :
    (d.mapAttributes f).textContent id = d.textContent id := by
  unfold textContent tree
  rw [size_mapAttributes, textContent_treeTo_mapAttributes]

@[simp] theorem descendants_mapAttributes :
    (d.mapAttributes f).descendants id = d.descendants id := by
  unfold descendants tree
  simp only [childIds_mapAttributes, size_mapAttributes, elements_treeTo_mapAttributes]

@[simp] theorem ancestorsTo_mapAttributes (fuel : Nat) :
    (d.mapAttributes f).ancestorsTo fuel id = d.ancestorsTo fuel id := by
  induction fuel generalizing id with
  | zero => rfl
  | succ fuel ih => simp only [ancestorsTo, parent?_mapAttributes, isElement_mapAttributes, ih]

@[simp] theorem siblings_mapAttributes : (d.mapAttributes f).siblings id = d.siblings id := by
  simp only [siblings, parent?_mapAttributes, childIds_mapAttributes]

@[simp] theorem isBare_mapAttributes : (d.mapAttributes f).isBare id = d.isBare id := by
  unfold isBare
  rw [childIds_mapAttributes]
  refine congrArg (List.all (d.childIds id)) (funext fun child ↦ ?_)
  rw [node?_mapAttributes]
  rcases d.node? child with _ | ⟨_ | _, _, _, _⟩ <;> rfl

theorem view_mapAttributes :
    (d.mapAttributes f).view = { d.view with attr := (d.mapAttributes f).view.attr } := by
  have hisElement : (d.mapAttributes f).isElement = d.isElement :=
    funext (isElement_mapAttributes d f)
  simp only [view, size_mapAttributes, tag?_mapAttributes, parent?_mapAttributes,
    siblings_mapAttributes, hisElement, Css.View.mk.injEq, true_and]
  refine ⟨funext (isBare_mapAttributes d f), ?_, funext (descendants_mapAttributes d f)⟩
  exact funext fun id ↦ ancestorsTo_mapAttributes d f id d.size

@[simp] theorem candidates_mapAttributes (direct : Bool) :
    (d.mapAttributes f).candidates id direct = d.candidates id direct := by
  have hisElement : (d.mapAttributes f).isElement = d.isElement :=
    funext (isElement_mapAttributes d f)
  simp only [candidates, childIds_mapAttributes, hisElement, descendants_mapAttributes]

@[simp] theorem known_mapAttributes {α : Type} {h : NodeEntry → α}
    (hh : ∀ g n, h (n.mapAttributes g) = h n) :
    (d.mapAttributes f).known id h = d.known id h := by
  unfold known
  rw [node?_mapAttributes]
  cases d.node? id with
  | none => rfl
  | some n => exact congrArg Except.ok (hh _ n)

end MapAttributes

def OnlyChanges (names : List String) (f : NodeId → OrderedMap String → OrderedMap String) : Prop :=
  ∀ id m name, name ∉ names → (f id m).get? name = m.get? name

section OnlyChanges

variable {names : List String} {f : NodeId → OrderedMap String → OrderedMap String}
  (hf : OnlyChanges names f) (d : Document)

include hf

theorem get?_attributes_mapAttributes (id : NodeId) {name : String} (hname : name ∉ names) :
    ((d.mapAttributes f).attributes id).get? name = (d.attributes id).get? name := by
  rw [attributes_eq, attributes_eq, node?_mapAttributes]
  rcases d.node? id with _ | ⟨⟨tag, attributes⟩ | s, parent, children, box⟩
  · rfl
  · exact hf id attributes name hname
  · rfl

theorem attributeOf_mapAttributes (id : NodeId) {name : String} (hname : asciiLower name ∉ names) :
    (d.mapAttributes f).attributeOf id name = d.attributeOf id name := by
  unfold attributeOf
  rw [known_mapAttributes d f id fun _ _ ↦ rfl, get?_attributes_mapAttributes hf d id hname]

theorem isMatch_mapAttributes (hid : "id" ∉ names) (hclass : "class" ∉ names)
    {selector : Css.Selector} (hs : ∀ name ∈ selector.attributeNames, name ∉ names)
    (scope id : NodeId) :
    (d.mapAttributes f).isMatch selector scope id = d.isMatch selector scope id := by
  unfold isMatch
  rw [view_mapAttributes]
  exact selector.matches_withAttr
    ⟨hid, hclass, fun e _ hname ↦ get?_attributes_mapAttributes hf d e hname⟩ hs id

theorem query_mapAttributes (hid : "id" ∉ names) (hclass : "class" ∉ names) (context : NodeId)
    {selector : String} (hs : Css.Selector.Avoids names selector) (direct : Bool) :
    (d.mapAttributes f).query context selector direct = d.query context selector direct := by
  unfold query
  cases hparse : Css.Selector.parse? selector with
  | none => rfl
  | some parsed =>
    have hmatch (id : NodeId) :=
      isMatch_mapAttributes hf d hid hclass (hs parsed hparse) context id
    dsimp only
    rw [node?_mapAttributes]
    cases d.node? context with
    | none => rfl
    | some n =>
      simp only [Option.map_some, candidates_mapAttributes]
      exact congrArg Except.ok (List.filter_congr fun id _ ↦ hmatch id)

end OnlyChanges

end Document

def Question.Avoids (names : List String) : Question → Prop
  | .query _ selector _ => Css.Selector.Avoids names selector
  | .attr _ name => asciiLower name ∉ names
  | .value _ => "value" ∉ names
  | .checked _ => "checked" ∉ names
  | .markup _ | .document => False
  | .root | .tag _ | .text _ | .parent _ | .box _ | .viewport => True

theorem Document.reply_mapAttributes {names : List String}
    {f : NodeId → OrderedMap String → OrderedMap String} (hf : OnlyChanges names f) (d : Document)
    (hid : "id" ∉ names) (hclass : "class" ∉ names) (q : Question) (hq : q.Avoids names) :
    (d.mapAttributes f).reply q = d.reply q := by
  cases q with
  | root => rfl
  | query context selector direct => exact query_mapAttributes hf d hid hclass context hq direct
  | tag id =>
    simp only [reply, tag?_mapAttributes, node?_mapAttributes]
    cases d.node? id <;> cases d.tag? id <;> rfl
  | text id =>
    simp only [reply, textContent_mapAttributes]
    exact known_mapAttributes d f id fun _ _ ↦ rfl
  | attr id name => exact attributeOf_mapAttributes hf d id hq
  | parent id => exact known_mapAttributes d f id fun _ _ ↦ rfl
  | box id => exact known_mapAttributes d f id fun _ _ ↦ rfl
  | viewport => rfl
  | value id => exact attributeOf_mapAttributes hf d id hq
  | checked id => exact congrArg (Option.isSome <$> ·) (attributeOf_mapAttributes hf d id hq)
  | markup id => exact hq.elim
  | document => exact hq.elim

end PageOutline
