import PageOutline.Proofs.Answers
import Mathlib.Data.List.Chain
import Mathlib.Data.List.Nodup
import Mathlib.Data.List.Perm.Subperm
import Mathlib.Logic.Relation

namespace PageOutline

open Text (asciiLower)

def IsLowered (s : String) : Prop := ∀ c ∈ s.toList, c.isUpper = false

instance (s : String) : Decidable (IsLowered s) := List.decidableBAll _ _

theorem isUpper_toLower (c : Char) : c.toLower.isUpper = false := by
  delta Char.isUpper Char.toLower
  split <;> grind [UInt32.toNat_add, Char.toNat_val]

theorem toLower_of_not_isUpper {c : Char} (h : c.isUpper = false) : c.toLower = c :=
  dif_neg (of_decide_eq_false h)

theorem isLowered_asciiLower (s : String) : IsLowered (asciiLower s) := by
  intro c hc
  rw [asciiLower, String.toList_ofList] at hc
  obtain ⟨b, -, rfl⟩ := List.mem_map.1 hc
  exact isUpper_toLower b

theorem asciiLower_of_isLowered {s : String} (h : IsLowered s) : asciiLower s = s := by
  have hsame : s.toList.map Char.toLower = s.toList := by
    exact (List.map_congr_left fun c hc ↦ toLower_of_not_isUpper (h c hc)).trans (List.map_id _)
  rw [asciiLower, hsame, String.ofList_toList]

def NodeContent.Lowered : NodeContent → Prop
  | .element tag attributes => IsLowered tag ∧ ∀ name ∈ attributes.keys, IsLowered name
  | .text _ => True

theorem NodeContent.Lowered.setAttribute {c : NodeContent} (h : c.Lowered) (name value : String) :
    (c.setAttribute name value).Lowered := by
  cases c with
  | text s => trivial
  | element tag attributes =>
    refine ⟨h.1, fun key hkey ↦ ?_⟩
    rcases OrderedMap.mem_keys_insert.1 hkey with rfl | hkey
    · exact isLowered_asciiLower name
    · exact h.2 key hkey

theorem NodeContent.lowered_element (tag : String) :
    (NodeContent.element (asciiLower tag) ∅).Lowered := by
  refine ⟨isLowered_asciiLower tag, fun name hname ↦ ?_⟩
  cases hname

namespace Document

def Lowered (d : Document) : Prop := ∀ id n, d.node? id = some n → n.content.Lowered

/-- Parents and children tell of the same tree, whose nodes come after their parents. -/
structure Arboreal (d : Document) : Prop where
  root : d.isElement Document.root
  parent?_root : d.parent? Document.root = none
  exists_parent : ∀ id : Nat, id < d.size → id ≠ Document.root → ∃ p, d.parent? id = some p
  parent_lt : ∀ {id p : Nat}, d.parent? id = some p → p < id
  mem_childIds : ∀ {p id : Nat}, id ∈ d.childIds p ↔ d.parent? id = some p
  sorted : ∀ p : Nat, (d.childIds p).Pairwise (· < ·)

/-- The documents that are made, read, and then built on and changed. -/
inductive Reached : Document → Prop
  | new (tag : String) : Reached (new tag)
  | ofSnapshot (s : Snapshot) : Reached (ofSnapshot s)
  | ofHtml (text : String) : Reached (ofHtml text)
  | appendElement {d : Document} (h : Reached d) {parent : NodeId} (hp : parent < d.size)
      (tag : String) : Reached (d.appendElement parent tag)
  | appendText {d : Document} (h : Reached d) {parent : NodeId} (hp : parent < d.size)
      (s : String) : Reached (d.appendText parent s)
  | insertAttribute {d : Document} (h : Reached d) (node : NodeId) (name value : String) :
      Reached (d.insertAttribute node name value)
  | setAttribute {d : Document} (h : Reached d) (node : NodeId) (name value : String) :
      Reached (LivePage.setAttribute node name value d).2
  | setBox {d : Document} (h : Reached d) (node : NodeId) (box : Box) : Reached (d.setBox node box)
  | withViewport {d : Document} (h : Reached d) (viewport : Box) : Reached (d.withViewport viewport)

section Tree

variable {d e : Document}

theorem node?_eq_none {id : Nat} (h : d.size ≤ id) : d.node? id = none :=
  Array.getElem?_eq_none h

theorem lt_size_of_parent? {id p : Nat} (h : d.parent? id = some p) : id < d.size := by
  by_contra hid
  have hnone : d.parent? id = none := by
    rw [Document.parent?, node?_eq_none (by omega), Option.bind_none]
  rw [hnone] at h
  cases h

theorem childIds_appendNode {parent : Nat} (hp : parent < d.size) (content : NodeContent)
    (id : Nat) :
    (d.appendNode parent content).childIds id =
      if id = parent then d.childIds id ++ [d.size] else d.childIds id := by
  unfold childIds
  rw [node?_appendNode]
  by_cases hid : id = d.size
  · have hne : parent ≠ d.size := by omega
    have hnone : d.node? d.size = none := node?_eq_none le_rfl
    simp [hid, hne, hne.symm, hnone]
  · obtain hn | ⟨n, hn⟩ := Option.eq_none_or_eq_some (d.node? id)
    · have hne : id ≠ parent := by
        rintro rfl
        have hsome := isSome_node?.2 hp
        rw [hn] at hsome
        cases hsome
      simp [hid, hn, hne]
    · by_cases hpid : id = parent
      · simp [← hpid, hid, hn]
      · simp [hid, hn, hpid, Ne.symm hpid]

theorem Arboreal.of_same (h : d.Arboreal) (hsize : e.size = d.size)
    (he : e.isElement Document.root = d.isElement Document.root)
    (hp : ∀ id, e.parent? id = d.parent? id) (hc : ∀ id, e.childIds id = d.childIds id) :
    e.Arboreal where
  root := he.trans h.root
  parent?_root := (hp _).trans h.parent?_root
  exists_parent id hid hne := by
    rw [hp]
    exact h.exists_parent id (hsize ▸ hid) hne
  parent_lt hpar := h.parent_lt ((hp _).symm.trans hpar)
  mem_childIds := by
    intro p id
    rw [hc, hp]
    exact h.mem_childIds
  sorted p := by
    rw [hc]
    exact h.sorted p

theorem childIds_new (tag : String) (p : Nat) : (new tag).childIds p = [] := by
  cases p <;> rfl

theorem arboreal_new (tag : String) : (new tag).Arboreal where
  root := rfl
  parent?_root := rfl
  exists_parent id hid hne := absurd (Nat.lt_one_iff.1 hid) hne
  parent_lt {id p} h := by
    cases id with
    | zero => cases h
    | succ id => cases h
  mem_childIds {p id} := by
    have hparent : (new tag).parent? id = none := by
      cases id <;> rfl
    simp [childIds_new, hparent]
  sorted p := by
    rw [childIds_new]
    exact .nil

theorem Arboreal.root_lt_size (h : d.Arboreal) : Document.root < d.size :=
  isSome_node?.1 (node?_of_isElement h.root)

theorem Arboreal.appendNode (h : d.Arboreal) {parent : Nat} (hp : parent < d.size)
    (content : NodeContent) : (d.appendNode parent content).Arboreal where
  root := (isElement_appendNode_of_ne (Nat.ne_of_lt h.root_lt_size) parent content).trans h.root
  parent?_root := by
    rw [parent?_appendNode, if_neg (Nat.ne_of_lt h.root_lt_size)]
    exact h.parent?_root
  exists_parent id hid hne := by
    rw [size_appendNode] at hid
    rw [parent?_appendNode]
    by_cases hnew : id = d.size
    · exact ⟨parent, if_pos hnew⟩
    · rw [if_neg hnew]
      exact h.exists_parent id (by omega) hne
  parent_lt {id p} hpar := by
    rw [parent?_appendNode] at hpar
    by_cases hnew : id = d.size
    · rw [if_pos hnew] at hpar
      obtain rfl := Option.some.inj hpar
      omega
    · rw [if_neg hnew] at hpar
      exact h.parent_lt hpar
  mem_childIds {p id} := by
    rw [childIds_appendNode hp, parent?_appendNode]
    by_cases hnew : id = d.size
    · have hold : d.size ∉ d.childIds p := by
        intro hmem
        have hlt := lt_size_of_parent? (h.mem_childIds.1 hmem)
        omega
      rw [if_pos hnew, hnew]
      by_cases hpp : p = parent
      · simp [hpp]
      · simp [hpp, hold, Ne.symm hpp]
    · rw [if_neg hnew]
      split
      · simp [h.mem_childIds, hnew]
      · exact h.mem_childIds
  sorted p := by
    rw [childIds_appendNode hp]
    split
    · rw [List.pairwise_append]
      refine ⟨h.sorted p, List.pairwise_singleton _ _, ?_⟩
      intro id hid new hnew
      obtain rfl := List.mem_singleton.1 hnew
      exact lt_size_of_parent? (h.mem_childIds.1 hid)
    · exact h.sorted p

theorem Arboreal.insertAttribute (h : d.Arboreal) (node : NodeId) (name value : String) :
    (d.insertAttribute node name value).Arboreal := by
  rw [insertAttribute_eq]
  exact h.of_same (size_mapAttributes d _) (isElement_mapAttributes d _ _)
    (parent?_mapAttributes d _) (childIds_mapAttributes d _)

theorem Arboreal.setBox? (h : d.Arboreal) (node : NodeId) (box : Option Box) :
    (d.setBox? node box).Arboreal := by
  refine h.of_same (size_setBox? d node box) (d.isElement_setBox? node box _)
    (d.parent?_setBox? node box) fun id ↦ ?_
  unfold childIds
  rw [node?_setBox?]
  cases d.node? id with
  | none => rfl
  | some n =>
    simp only [Option.map_some]
    split <;> rfl

end Tree

section Building

variable {d : Document}

theorem Lowered.appendNode (h : d.Lowered) (parent : NodeId) {content : NodeContent}
    (hc : content.Lowered) : (d.appendNode parent content).Lowered := by
  intro id n hn
  rw [node?_appendNode] at hn
  obtain ⟨m, hm, rfl⟩ := Option.map_eq_some_iff.1 hn
  have hcontent : m.content.Lowered := by
    split at hm
    · obtain rfl := Option.some.inj hm
      exact hc
    · exact h id m hm
  split <;> exact hcontent

theorem Lowered.insertAttribute (h : d.Lowered) (node : NodeId) (name value : String) :
    (d.insertAttribute node name value).Lowered := by
  intro id n hn
  rw [node?_insertAttribute] at hn
  split at hn
  · obtain ⟨m, hm, rfl⟩ := Option.map_eq_some_iff.1 hn
    exact (h id m hm).setAttribute name value
  · exact h id n hn

theorem Lowered.setBox? (h : d.Lowered) (node : NodeId) (box : Option Box) :
    (d.setBox? node box).Lowered := by
  intro id n hn
  rw [node?_setBox?] at hn
  obtain ⟨m, hm, rfl⟩ := Option.map_eq_some_iff.1 hn
  split <;> exact h id m hm

theorem lowered_new (tag : String) : (new tag).Lowered := by
  intro id n hn
  cases id with
  | zero =>
    obtain rfl := Option.some.inj hn
    exact NodeContent.lowered_element tag
  | succ id => cases hn

theorem arboreal_keptByBuilding : KeptByBuilding Arboreal where
  new := arboreal_new
  withViewport _ _ h := h.of_same rfl rfl (fun _ ↦ rfl) fun _ ↦ rfl
  appendElement _ _ _ h hp := h.appendNode hp _
  appendText _ _ _ h hp := h.appendNode hp _
  insertAttribute _ node name value h := h.insertAttribute node name value
  setBox? _ node box h := h.setBox? node box

theorem lowered_keptByBuilding : KeptByBuilding Lowered where
  new := lowered_new
  withViewport _ _ h := h
  appendElement _ _ tag h _ := h.appendNode _ (NodeContent.lowered_element tag)
  appendText _ _ _ h _ := h.appendNode _ trivial
  insertAttribute _ node name value h := h.insertAttribute node name value
  setBox? _ node box h := h.setBox? node box

theorem setAttribute_of_not_isElement {node : NodeId} (h : ¬d.isElement node)
    (name value : String) :
    ∃ failure, LivePage.setAttribute node name value d = (.error failure, d) := by
  rw [isElement_eq] at h
  simp only [LivePage.setAttribute, setAttribute]
  rcases hn : d.node? node with _ | ⟨⟨tag, attributes⟩ | s, _, _, _⟩
  · exact ⟨_, rfl⟩
  · simp [hn, NodeContent.isElement] at h
  · exact ⟨_, rfl⟩

theorem KeptByBuilding.reached {P : Document → Prop} (hP : KeptByBuilding P) (h : d.Reached) :
    P d := by
  induction h with
  | new tag => exact hP.new tag
  | ofSnapshot s => exact hP.ofSnapshot s
  | ofHtml text => exact hP.ofHtml text
  | appendElement _ hp tag ih => exact hP.appendElement _ _ tag ih hp
  | appendText _ hp s ih => exact hP.appendText _ _ s ih hp
  | insertAttribute _ node name value ih => exact hP.insertAttribute _ node name value ih
  | @setAttribute d _ node name value ih =>
    by_cases helement : d.isElement node
    · have hset := setAttribute_of_isElement helement name value
      simp only [LivePage.setAttribute, hset]
      exact hP.insertAttribute _ node name value ih
    · obtain ⟨failure, hset⟩ := setAttribute_of_not_isElement helement name value
      rwa [hset]
  | setBox _ node box ih => exact hP.setBox? _ node (some box) ih
  | withViewport _ viewport ih => exact hP.withViewport _ viewport ih

end Building

section Walks

variable {d : Document}

def visitsTo (d : Document) : Nat → NodeId → List NodeId
  | 0, _ => []
  | depth + 1, id => id :: (d.childIds id).flatMap (d.visitsTo depth)

def visits (d : Document) (id : NodeId) : List NodeId := d.visitsTo d.size id

theorem Arboreal.lt_of_mem_childIds (h : d.Arboreal) {p id : Nat} (hid : id ∈ d.childIds p) :
    p < id ∧ id < d.size := by
  have hparent := h.mem_childIds.1 hid
  exact ⟨h.parent_lt hparent, lt_size_of_parent? hparent⟩

theorem Arboreal.treeTo_add (h : d.Arboreal) (more : Nat) {depth id : Nat}
    (hd : d.size ≤ depth + id) : d.treeTo (depth + more) id = d.treeTo depth id := by
  induction depth generalizing id with
  | zero =>
    have hnone : d.node? id = none := node?_eq_none (by omega)
    cases more <;> simp [treeTo, hnone]
  | succ depth ih =>
    rw [Nat.succ_add, treeTo, treeTo]
    rcases hn : d.node? id with _ | ⟨⟨tag, attributes⟩ | s, parent, children, box⟩
    · rfl
    · have hchildren : d.childIds id = children := by
        unfold childIds
        rw [hn]
      have hsame : children.map (d.treeTo (depth + more)) = children.map (d.treeTo depth) := by
        refine List.map_congr_left fun child hchild ↦ ih ?_
        have hlt := h.lt_of_mem_childIds (hchildren ▸ hchild)
        omega
      simp only [hsame]
    · rfl

theorem Arboreal.ancestorsTo_add (h : d.Arboreal) (more : Nat) {fuel id : Nat} (hf : id ≤ fuel) :
    d.ancestorsTo (fuel + more) id = d.ancestorsTo fuel id := by
  induction fuel generalizing id with
  | zero =>
    obtain rfl : id = Document.root := Nat.le_zero.1 hf
    cases more <;> simp [ancestorsTo, h.parent?_root]
  | succ fuel ih =>
    rw [Nat.succ_add, ancestorsTo, ancestorsTo]
    cases hp : d.parent? id with
    | none => rfl
    | some p =>
      have hle := Nat.le_of_lt_succ ((h.parent_lt hp).trans_le hf)
      simp only [ih hle]

theorem Arboreal.visitsTo_add (h : d.Arboreal) (more : Nat) {depth id : Nat}
    (hd : d.size ≤ depth + id) (hpos : 0 < depth) :
    d.visitsTo (depth + more) id = d.visitsTo depth id := by
  induction depth generalizing id with
  | zero => omega
  | succ depth ih =>
    rw [Nat.succ_add, visitsTo, visitsTo]
    refine congrArg (id :: ·) (List.flatMap_congr fun child hchild ↦ ?_)
    have hlt := h.lt_of_mem_childIds hchild
    exact ih (by omega) (by omega)

theorem Arboreal.reaches_of_mem_visitsTo (h : d.Arboreal) {depth id x : Nat}
    (hx : x ∈ d.visitsTo depth id) :
    Relation.ReflTransGen (fun c p ↦ d.parent? c = some p) x id := by
  induction depth generalizing id with
  | zero => cases hx
  | succ depth ih =>
    rcases List.mem_cons.1 hx with rfl | hx
    · exact .refl
    · obtain ⟨child, hchild, hx⟩ := List.mem_flatMap.1 hx
      exact (ih hx).tail (h.mem_childIds.1 hchild)

theorem Arboreal.le_of_reaches (h : d.Arboreal) {x id : Nat}
    (hx : Relation.ReflTransGen (fun c p ↦ d.parent? c = some p) x id) : id ≤ x := by
  induction hx with
  | refl => exact le_rfl
  | tail _ hp ih =>
    have hlt := h.parent_lt hp
    omega

theorem Arboreal.not_reaches_sibling (h : d.Arboreal) {p a b : Nat} (ha : a ∈ d.childIds p)
    (hb : b ∈ d.childIds p) (hab : a ≠ b) :
    ¬Relation.ReflTransGen (fun c p ↦ d.parent? c = some p) a b := by
  intro hreach
  rcases hreach.cases_head with rfl | ⟨q, hq, hrest⟩
  · exact hab rfl
  · obtain rfl : q = p := Option.some.inj (hq.symm.trans (h.mem_childIds.1 ha))
    have hle := h.le_of_reaches hrest
    have hlt := (h.lt_of_mem_childIds hb).1
    omega

theorem Arboreal.nodup_visitsTo (h : d.Arboreal) (depth id : Nat) :
    (d.visitsTo depth id).Nodup := by
  induction depth generalizing id with
  | zero => exact List.nodup_nil
  | succ depth ih =>
    rw [visitsTo, List.nodup_cons, List.nodup_flatMap]
    refine ⟨fun hid ↦ ?_, fun child _ ↦ ih child, ?_⟩
    · obtain ⟨child, hchild, hx⟩ := List.mem_flatMap.1 hid
      have hle := h.le_of_reaches (h.reaches_of_mem_visitsTo hx)
      have hlt := (h.lt_of_mem_childIds hchild).1
      omega
    · -- A node has one way up, on which one of two siblings would stand above the other.
      refine (h.sorted id).imp_of_mem fun {a b} ha hb hab x hxa hxb ↦ ?_
      have hunique : Relator.RightUnique fun c p ↦ d.parent? c = some p :=
        fun _ _ _ hp hq ↦ Option.some.inj (hp.symm.trans hq)
      rcases Relation.ReflTransGen.total_of_right_unique hunique (h.reaches_of_mem_visitsTo hxa)
        (h.reaches_of_mem_visitsTo hxb) with hreach | hreach
      · exact h.not_reaches_sibling ha hb (Nat.ne_of_lt hab) hreach
      · exact h.not_reaches_sibling hb ha (Nat.ne_of_gt hab) hreach

theorem Arboreal.walk_down (h : d.Arboreal) {walk : List Nat}
    (hwalk : walk.IsChain fun p c ↦ c ∈ d.childIds p) : walk.Nodup ∧ walk.length ≤ d.size := by
  have hstep : walk.Pairwise fun p c ↦ p < c ∧ c < d.size := by
    have htrans : Trans (fun p c : Nat ↦ p < c ∧ c < d.size) (fun p c ↦ p < c ∧ c < d.size)
        fun p c ↦ p < c ∧ c < d.size := ⟨fun hab hbc ↦ ⟨hab.1.trans hbc.1, hbc.2⟩⟩
    exact (hwalk.imp fun _ _ hc ↦ h.lt_of_mem_childIds hc).pairwise
  have hnodup : walk.Nodup := hstep.imp fun hlt ↦ Nat.ne_of_lt hlt.1
  refine ⟨hnodup, ?_⟩
  match walk with
  | [] => exact Nat.zero_le _
  | [_] => exact h.root_lt_size
  | first :: second :: rest =>
    rw [List.pairwise_cons] at hstep
    have hsub : first :: second :: rest ⊆ List.range d.size := by
      intro x hx
      rw [List.mem_range]
      rcases List.mem_cons.1 hx with rfl | hx
      · have hnext := hstep.1 second List.mem_cons_self
        exact hnext.1.trans hnext.2
      · exact (hstep.1 x hx).2
    have hle := (hnodup.subperm hsub).length_le
    rwa [List.length_range] at hle

theorem Arboreal.walk_up (h : d.Arboreal) {walk : List Nat}
    (hwalk : walk.IsChain fun c p ↦ d.parent? c = some p) :
    walk.Nodup ∧ walk.length ≤ d.size := by
  have hdown : walk.reverse.IsChain fun p c ↦ c ∈ d.childIds p := by
    rw [List.isChain_reverse]
    exact hwalk.imp fun _ _ hp ↦ h.mem_childIds.2 hp
  obtain ⟨hnodup, hlength⟩ := h.walk_down hdown
  exact ⟨List.nodup_reverse.1 hnodup, by rwa [List.length_reverse] at hlength⟩

end Walks

/-- What holds of the nodes of a document, and of walks over them, whatever was done to it. -/
structure IsArena (d : Document) : Prop where
  root : d.isElement Document.root
  parent_eq_none_iff : ∀ id : Nat, id < d.size → (d.parent? id = none ↔ id = Document.root)
  parent : ∀ id : Nat, id < d.size → id ≠ Document.root →
    ∃ p : Nat, p < id ∧ d.parent? id = some p ∧ (d.childIds p).count id = 1 ∧
      ∀ q, q ≠ p → id ∉ d.childIds q
  children : ∀ p : Nat, (d.childIds p).Pairwise (· < ·) ∧ ∀ id ∈ d.childIds p, id < d.size
  tag : ∀ id tag, d.tag? id = some tag → IsLowered tag
  attributes : ∀ id, (d.attributes id).keys.Nodup ∧ ∀ name ∈ (d.attributes id).keys, IsLowered name
  /-- Texts and unknown nodes take no attributes. -/
  refuses : ∀ node name value, ¬d.isElement node →
    ∃ failure, LivePage.setAttribute node name value d = (.error failure, d)
  walkDown : ∀ walk : List Nat, walk.IsChain (fun p c ↦ c ∈ d.childIds p) →
    walk.Nodup ∧ walk.length ≤ d.size
  walkUp : ∀ walk : List Nat, walk.IsChain (fun c p ↦ d.parent? c = some p) →
    walk.Nodup ∧ walk.length ≤ d.size
  visits : ∀ id, (d.visits id).Nodup
  /-- The bounds on the depth of walks cut nothing off. -/
  unbounded : ∀ id more, d.visitsTo (d.size + more) id = d.visits id ∧
    d.treeTo (d.size + more) id = d.tree id ∧
      (id < d.size → d.ancestorsTo (d.size + more) id = d.ancestorsTo d.size id)

theorem Lowered.tag {d : Document} (h : d.Lowered) {id : NodeId} {tag : String}
    (htag : d.tag? id = some tag) : IsLowered tag := by
  unfold tag? at htag
  rcases hn : d.node? id with _ | ⟨⟨name, attributes⟩ | s, _, _, _⟩ <;> rw [hn] at htag
  · cases htag
  · obtain rfl := Option.some.inj htag
    exact (h id _ hn).1
  · cases htag

theorem Lowered.attributes {d : Document} (h : d.Lowered) (id : NodeId) :
    ∀ name ∈ (d.attributes id).keys, IsLowered name := by
  unfold Document.attributes
  rcases hn : d.node? id with _ | ⟨⟨tag, attributes⟩ | s, _, _, _⟩
  · intro name hname
    cases hname
  · exact (h id _ hn).2
  · intro name hname
    cases hname

/-- However a document is made, built on and changed, its nodes make a tree. -/
theorem Reached.isArena {d : Document} (h : d.Reached) : d.IsArena := by
  have htree := arboreal_keptByBuilding.reached h
  have hlowered := lowered_keptByBuilding.reached h
  refine ⟨htree.root, fun id hid ↦ ?_, fun id hid hne ↦ ?_, fun p ↦ ⟨htree.sorted p, ?_⟩,
    fun _ _ ↦ hlowered.tag, fun id ↦ ⟨(d.attributes id).nodup_keys, hlowered.attributes id⟩,
    fun _ name value helement ↦ setAttribute_of_not_isElement helement name value,
    fun _ ↦ htree.walk_down, fun _ ↦ htree.walk_up, htree.nodup_visitsTo d.size,
    fun id more ↦ ⟨?_, ?_, fun hid ↦ ?_⟩⟩
  · refine ⟨fun hnone ↦ ?_, fun hroot ↦ hroot ▸ htree.parent?_root⟩
    by_contra hne
    obtain ⟨p, hp⟩ := htree.exists_parent id hid hne
    rw [hnone] at hp
    cases hp
  · obtain ⟨p, hp⟩ := htree.exists_parent id hid hne
    refine ⟨p, htree.parent_lt hp, hp, ?_, fun q hq hmem ↦ ?_⟩
    · have hnodup : (d.childIds p).Nodup := (htree.sorted p).imp fun hlt ↦ Nat.ne_of_lt hlt
      exact List.count_eq_one_of_mem hnodup (htree.mem_childIds.2 hp)
    · exact hq (Option.some.inj ((htree.mem_childIds.1 hmem).symm.trans hp))
  · exact fun id hid ↦ (htree.lt_of_mem_childIds hid).2
  · exact htree.visitsTo_add more (Nat.le_add_right _ _) htree.root_lt_size
  · exact htree.treeTo_add more (Nat.le_add_right _ _)
  · exact htree.ancestorsTo_add more (Nat.le_of_lt hid)

def grownPage : Document :=
  (LivePage.setAttribute 2 "Title" "y"
    (((((new "HTML").appendElement 0 "P").appendText 1 "x").appendText 2 "y").insertAttribute 1
      "CLASS" "b")).2.setBox 3 default

theorem isArena_grownPage :
    grownPage.Reached ∧ grownPage.visits root = [0, 1, 2, 3] ∧ grownPage.IsArena := by
  let page := (new "HTML").appendElement 0 "P"
  have helement : page.Reached := (Reached.new "HTML").appendElement (by decide) "P"
  have htext : (page.appendText 1 "x").Reached := helement.appendText (by decide) "x"
  have hbelow : ((page.appendText 1 "x").appendText 2 "y").Reached :=
    htext.appendText (by decide) "y"
  have h : grownPage.Reached :=
    ((hbelow.insertAttribute 1 "CLASS" "b").setAttribute 2 "Title" "y").setBox 3 default
  exact ⟨h, by decide, h.isArena⟩

end Document

end PageOutline
