import PageOutline.Page.Rendered
import PageOutline.Proofs.Attributes

namespace PageOutline

def NodeContent.isElement : NodeContent → Bool
  | .element _ _ => true
  | .text _ => false

namespace Document

/-- The documents that can be made. A node may hang below itself: its number is the next one. -/
inductive Built : Document → Prop
  | new (tag : String) : Built (new tag)
  | withViewport {d : Document} (h : Built d) (viewport : Box) : Built (d.withViewport viewport)
  | appendNode {d : Document} (h : Built d) (parent : Nat) (hp : parent ≤ d.size)
      (content : NodeContent) : Built (d.appendNode parent content)
  | insertAttribute {d : Document} (h : Built d) (node : NodeId) (name value : String) :
      Built (d.insertAttribute node name value)
  | setBox? {d : Document} (h : Built d) (node : NodeId) (box : Option Box) :
      Built (d.setBox? node box)

structure Linked (d : Document) : Prop where
  root : d.isElement root
  parent : ∀ node parent, d.parent? node = some parent → (d.node? parent).isSome

theorem isElement_eq (d : Document) (node : NodeId) :
    d.isElement node = (d.node? node).any fun n ↦ n.content.isElement := by
  unfold isElement tag?
  rcases d.node? node with _ | ⟨_ | _, _, _, _⟩ <;> rfl

theorem isSome_node? {d : Document} {node : Nat} : (d.node? node).isSome ↔ node < d.size := by
  unfold node? size
  simp

theorem node?_of_isElement {d : Document} {node : NodeId} (h : d.isElement node) :
    (d.node? node).isSome := by
  rw [isElement_eq] at h
  cases hn : d.node? node with
  | none =>
    rw [hn] at h
    cases h
  | some n => rfl

theorem node?_appendNode (d : Document) (parent node : NodeId) (content : NodeContent) :
    (d.appendNode parent content).node? node =
      (if node = d.size then some ⟨content, some parent, [], none⟩ else d.node? node).map fun n ↦
        if parent = node then { n with children := n.children ++ [d.size] } else n := by
  unfold appendNode node? size
  rw [Array.getElem?_modify, Array.getElem?_push]
  split <;> simp

theorem size_appendNode (d : Document) (parent : NodeId) (content : NodeContent) :
    (d.appendNode parent content).size = d.size + 1 := by
  simp [appendNode, size]

theorem node?_setBox? (d : Document) (node id : NodeId) (box : Option Box) :
    (d.setBox? node box).node? id =
      (d.node? id).map fun n ↦ if node = id then { n with box } else n := by
  have hmodify : (d.setBox? node box).node? id =
      if node = id then (d.node? id).map fun n ↦ { n with box } else d.node? id :=
    Array.getElem?_modify
  rw [hmodify]
  split
  · rfl
  · rw [Option.map_id']

theorem isElement_appendNode_of_ne {d : Document} {id : NodeId} (hid : id ≠ d.size)
    (parent : NodeId) (content : NodeContent) :
    (d.appendNode parent content).isElement id = d.isElement id := by
  rw [isElement_eq, isElement_eq, node?_appendNode, if_neg hid]
  cases d.node? id with
  | none => rfl
  | some n =>
    rw [Option.map_some, Option.any_some, Option.any_some]
    split <;> rfl

theorem parent?_appendNode (d : Document) (parent : NodeId) (content : NodeContent) (id : NodeId) :
    (d.appendNode parent content).parent? id =
      if id = d.size then some parent else d.parent? id := by
  unfold parent?
  rw [node?_appendNode]
  by_cases hid : id = d.size
  · simp only [hid, if_true, Option.map_some, Option.bind_some]
    split <;> rfl
  · simp only [hid, if_false]
    cases d.node? id with
    | none => rfl
    | some n =>
      simp only [Option.map_some, Option.bind_some]
      split <;> rfl

theorem isElement_setBox? (d : Document) (node : NodeId) (box : Option Box) (id : NodeId) :
    (d.setBox? node box).isElement id = d.isElement id := by
  rw [isElement_eq, isElement_eq, node?_setBox?]
  cases d.node? id with
  | none => rfl
  | some n =>
    rw [Option.map_some, Option.any_some, Option.any_some]
    split <;> rfl

theorem parent?_setBox? (d : Document) (node : NodeId) (box : Option Box) (id : NodeId) :
    (d.setBox? node box).parent? id = d.parent? id := by
  unfold parent?
  rw [node?_setBox?]
  cases d.node? id with
  | none => rfl
  | some n =>
    rw [Option.map_some, Option.bind_some, Option.bind_some]
    split <;> rfl

theorem size_insertAttribute (d : Document) (node : NodeId) (name value : String) :
    (d.insertAttribute node name value).size = d.size := Array.size_modify

theorem size_setBox? (d : Document) (node : NodeId) (box : Option Box) :
    (d.setBox? node box).size = d.size := Array.size_modify

theorem Linked.of_same {d e : Document} (h : d.Linked)
    (hn : ∀ node, (e.node? node).isSome = (d.node? node).isSome)
    (he : ∀ node, e.isElement node = d.isElement node)
    (hp : ∀ node, e.parent? node = d.parent? node) : e.Linked where
  root := (he _).trans h.root
  parent node parent hnode := by
    rw [hn]
    exact h.parent node parent ((hp node).symm.trans hnode)

theorem linked_new (tag : String) : (new tag).Linked where
  root := rfl
  parent node parent h := by
    cases node with
    | zero => cases h
    | succ node => cases h

theorem Linked.appendNode {d : Document} (h : d.Linked) {parent : Nat} (hp : parent ≤ d.size)
    (content : NodeContent) : (d.appendNode parent content).Linked where
  root := by
    have hroot : Document.root ≠ d.size := Nat.ne_of_lt (isSome_node?.1 (node?_of_isElement h.root))
    exact (isElement_appendNode_of_ne hroot parent content).trans h.root
  parent node above hnode := by
    rw [isSome_node?, size_appendNode]
    rw [parent?_appendNode] at hnode
    split at hnode
    · obtain rfl := Option.some.inj hnode
      omega
    · have habove := isSome_node?.1 (h.parent node above hnode)
      omega

theorem Built.linked {d : Document} (h : d.Built) : d.Linked := by
  induction h with
  | new tag => exact linked_new tag
  | withViewport _ viewport ih => exact ih.of_same (fun _ ↦ rfl) (fun _ ↦ rfl) fun _ ↦ rfl
  | appendNode _ parent hp content ih => exact ih.appendNode hp content
  | @insertAttribute d _ node name value ih =>
    rw [insertAttribute_eq]
    refine ih.of_same (fun id ↦ ?_) (isElement_mapAttributes d _) (parent?_mapAttributes d _)
    rw [node?_mapAttributes, Option.isSome_map]
  | @setBox? d _ node box ih =>
    refine ih.of_same (fun id ↦ ?_) (d.isElement_setBox? node box) (d.parent?_setBox? node box)
    rw [node?_setBox?, Option.isSome_map]

theorem Built.appendElement {d : Document} (h : d.Built) (parent : Nat) (hp : parent ≤ d.size)
    (tag : String) : (d.appendElement parent tag).Built := h.appendNode parent hp _

theorem Built.appendText {d : Document} (h : d.Built) (parent : Nat) (hp : parent ≤ d.size)
    (s : String) : (d.appendText parent s).Built := h.appendNode parent hp _

/-- A property of documents that making one gives, and that building on it and changing it keep. -/
structure KeptByBuilding (P : Document → Prop) : Prop where
  new : ∀ tag, P (new tag)
  withViewport : ∀ (d : Document) viewport, P d → P (d.withViewport viewport)
  appendElement : ∀ (d : Document) (parent : Nat) tag, P d → parent < d.size →
    P (d.appendElement parent tag)
  appendText : ∀ (d : Document) (parent : Nat) s, P d → parent < d.size → P (d.appendText parent s)
  insertAttribute : ∀ (d : Document) node name value, P d → P (d.insertAttribute node name value)
  setBox? : ∀ (d : Document) node box, P d → P (d.setBox? node box)

namespace KeptByBuilding

variable {P : Document → Prop} (h : KeptByBuilding P)

include h

theorem insertAttributes {d : Document} (hd : P d) (node : NodeId)
    (pairs : List (String × String)) :
    P (d.insertAttributes node pairs) ∧ (d.insertAttributes node pairs).size = d.size := by
  unfold Document.insertAttributes
  induction pairs generalizing d with
  | nil => exact ⟨hd, rfl⟩
  | cons pair pairs ih =>
    obtain ⟨hkept, hsize⟩ := ih (h.insertAttribute d node pair.1 pair.2 hd)
    exact ⟨hkept, hsize.trans (size_insertAttribute d node _ _)⟩

theorem importNodes {d : Document} (hd : P d) (parent : Nat) (hp : parent < d.size)
    (nodes : List SnapshotNode) :
    P (d.importNodes parent nodes) ∧ d.size ≤ (d.importNodes parent nodes).size := by
  match nodes with
  | [] =>
    rw [Document.importNodes]
    exact ⟨hd, Nat.le_refl _⟩
  | .text s :: rest =>
    have hsize : (d.appendText parent s).size = d.size + 1 := size_appendNode d parent _
    have hkept := h.appendText d parent s hd hp
    obtain ⟨hrest, hle⟩ := importNodes hkept parent (by omega) rest
    rw [Document.importNodes]
    exact ⟨hrest, by omega⟩
  | .element tag attributes children box :: rest =>
    have hsize : (d.appendElement parent tag).size = d.size + 1 := size_appendNode d parent _
    obtain ⟨hattributes, hsame⟩ :=
      h.insertAttributes (h.appendElement d parent tag hd hp) d.size attributes.entries
    have hbox := h.setBox? _ d.size box hattributes
    have hboxSize := size_setBox? ((d.appendElement parent tag).insertAttributes d.size
      attributes.entries) d.size box
    obtain ⟨hchildren, hle⟩ := importNodes hbox d.size (by omega) children
    obtain ⟨hrest, hle'⟩ := importNodes hchildren parent (by omega) rest
    rw [Document.importNodes]
    exact ⟨hrest, by omega⟩

theorem ofSnapshot (s : Snapshot) : P (ofSnapshot s) := by
  obtain ⟨hattributes, hsize⟩ := h.insertAttributes (h.new s.tag) root s.attributes.entries
  refine (h.importNodes (h.setBox? _ root s.box hattributes) root ?_ s.children).1
  rw [size_setBox?, hsize]
  exact Nat.zero_lt_one

theorem ofHtml (text : String) : P (ofHtml text) := h.ofSnapshot _

end KeptByBuilding

theorem Built.keptByBuilding : KeptByBuilding Built where
  new := .new
  withViewport _ viewport hd := hd.withViewport viewport
  appendElement _ parent tag hd hp := hd.appendElement parent (Nat.le_of_lt hp) tag
  appendText _ parent s hd hp := hd.appendText parent (Nat.le_of_lt hp) s
  insertAttribute _ node name value hd := hd.insertAttribute node name value
  setBox? _ node box hd := hd.setBox? node box

theorem built_ofSnapshot (s : Snapshot) : (ofSnapshot s).Built := Built.keptByBuilding.ofSnapshot s

theorem built_ofHtml (text : String) : (ofHtml text).Built := built_ofSnapshot _

end Document

end PageOutline
