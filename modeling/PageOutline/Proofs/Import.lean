import PageOutline.Proofs.Canonical
import PageOutline.Proofs.Arena
import PageOutline.Proofs.Growth

namespace PageOutline

open Text (asciiLower)

def OrderedMap.lowered (m : OrderedMap String) : OrderedMap String :=
  .ofList (m.entries.map fun e ↦ (asciiLower e.1, e.2))

namespace SnapshotNode

mutual

def boxless : SnapshotNode → Bool
  | .text _ => true
  | .element _ _ children box => box.isNone && boxlessAll children

def boxlessAll : List SnapshotNode → Bool
  | [] => true
  | n :: ns => n.boxless && boxlessAll ns

end

mutual

/-- What a document keeps of a node, save its box. -/
def stored : SnapshotNode → SnapshotNode
  | .text s => .text s
  | .element tag attributes children _ =>
    .element (asciiLower tag) attributes.lowered (storedAll children) none

def storedAll : List SnapshotNode → List SnapshotNode
  | [] => []
  | n :: ns => n.stored :: storedAll ns

end

end SnapshotNode

namespace Tree

mutual

def snapshot : Tree → SnapshotNode
  | .text _ s => .text s
  | .element _ tag attributes children => .element tag attributes (snapshotAll children) none

def snapshotAll : List Tree → List SnapshotNode
  | [] => []
  | t :: ts => t.snapshot :: snapshotAll ts

end

end Tree

theorem Tree.snapshot_eq_element {t : Tree} {tag : String}
    {attributes : OrderedMap String} {ns : List SnapshotNode} {box : Option Box}
    (h : t.snapshot = .element tag attributes ns box) :
    ∃ x ts, t = .element x tag attributes ts ∧ Tree.snapshotAll ts = ns := by
  cases t with
  | text x s => cases h
  | element x tag' attributes' ts =>
    rw [Tree.snapshot, SnapshotNode.element.injEq] at h
    obtain ⟨rfl, rfl, hts, -⟩ := h
    exact ⟨x, ts, rfl, hts⟩

theorem Tree.snapshotAll_eq_nil {ts : List Tree} (h : Tree.snapshotAll ts = []) : ts = [] := by
  cases ts with
  | nil => rfl
  | cons t ts => cases h

theorem Tree.snapshotAll_eq_cons {ts : List Tree} {n : SnapshotNode} {ns : List SnapshotNode}
    (h : Tree.snapshotAll ts = n :: ns) :
    ∃ u us, ts = u :: us ∧ u.snapshot = n ∧ Tree.snapshotAll us = ns := by
  cases ts with
  | nil => cases h
  | cons t ts =>
    rw [Tree.snapshotAll, List.cons.injEq] at h
    exact ⟨t, ts, rfl, h.1, h.2⟩

theorem OrderedMap.lowered_eq_foldl (m : OrderedMap String) :
    m.lowered = m.entries.foldl (fun m e ↦ m.insert (asciiLower e.1) e.2) ∅ := List.foldl_map

theorem OrderedMap.lowered_lowered (m : OrderedMap String) : m.lowered.lowered = m.lowered := by
  have hkeys : m.lowered.entries.map (fun e ↦ (asciiLower e.1, e.2)) = m.lowered.entries := by
    refine (List.map_congr_left fun e he ↦ ?_).trans (List.map_id _)
    obtain ⟨f, -, rfl⟩ := List.mem_map.1 (mem_of_mem_ofList he)
    exact Prod.ext (asciiLower_of_isLowered (isLowered_asciiLower f.1)) rfl
  refine OrderedMap.ext ?_
  unfold lowered at hkeys ⊢
  rw [hkeys, entries_ofList (OrderedMap.nodup_keys _)]

theorem NodeContent.foldl_setAttribute (tag : String) (m : OrderedMap String)
    (pairs : List (String × String)) :
    pairs.foldl (fun (c : NodeContent) e ↦ c.setAttribute e.1 e.2) (.element tag m) =
      .element tag (pairs.foldl (fun m e ↦ m.insert (asciiLower e.1) e.2) m) := by
  induction pairs generalizing m with
  | nil => rfl
  | cons e pairs ih => exact ih _

namespace Document

open SnapshotNode Arena

variable {d : Document}

def arena (d : Document) : Arena NodeContent where
  size := d.size
  node? id := (d.node? id).map fun n ↦ (n.content, n.children)
  lt_size h := by
    rw [← isSome_node?]
    rw [Option.map_eq_some_iff] at h
    obtain ⟨n, hn, -⟩ := h
    exact Option.isSome_of_eq_some hn

theorem lt_size_appendNode {q : Nat} (hq : q ≤ d.size) (p : Nat) (content : NodeContent) :
    q < (d.appendNode p content).size := by
  rw [size_appendNode]
  exact Nat.lt_succ_of_le hq

theorem adds_appendNode {p : Nat} (hp : p < d.size) (content : NodeContent) :
    Adds p content d.arena (d.appendNode p content).arena where
  size := size_appendNode d p content
  new := by
    have hne : p ≠ d.size := Nat.ne_of_lt hp
    change ((d.appendNode p content).node? d.size).map _ = _
    rw [node?_appendNode]
    simp [hne]
  parent := by
    have hne : p ≠ d.size := Nat.ne_of_lt hp
    change ((d.appendNode p content).node? p).map _ = ((d.node? p).map _).map _
    rw [node?_appendNode, if_neg hne]
    simp [Function.comp_def]
    rfl
  same x hx hxp := by
    have hne : x ≠ d.size := hx
    change ((d.appendNode p content).node? x).map _ = (d.node? x).map _
    rw [node?_appendNode, if_neg hne]
    simp [Ne.symm hxp]

theorem insertAttribute_appendNode {p : Nat} (hp : p < d.size) (content : NodeContent)
    (name value : String) :
    (d.appendNode p content).insertAttribute d.size name value =
      d.appendNode p (content.setAttribute name value) := by
  refine ext_node? rfl fun id ↦ ?_
  rw [node?_insertAttribute, node?_appendNode, node?_appendNode]
  by_cases hid : id = d.size
  · subst hid
    have hne : p ≠ d.size := Nat.ne_of_lt hp
    simp [hne]
  · simp [hid, Ne.symm hid]

theorem insertAttributes_appendNode {p : Nat} (hp : p < d.size) (content : NodeContent)
    (pairs : List (String × String)) :
    (d.appendNode p content).insertAttributes d.size pairs =
      d.appendNode p (pairs.foldl (fun c e ↦ c.setAttribute e.1 e.2) content) := by
  induction pairs generalizing content with
  | nil => rfl
  | cons e pairs ih =>
    have hrest := ih (content.setAttribute e.1 e.2)
    rwa [← insertAttribute_appendNode hp] at hrest

theorem setBox?_none {id : NodeId} (h : ∀ n, d.node? id = some n → n.box = none) :
    d.setBox? id none = d := by
  refine ext_node? rfl fun x ↦ ?_
  rw [node?_setBox?]
  rcases hn : d.node? x with _ | n
  · rfl
  · rw [Option.map_some]
    split
    · next hid =>
      subst hid
      rw [← h n hn]
    · rfl

theorem importNodes_element {p : Nat} (hp : p < d.size) (tag : String)
    (attributes : OrderedMap String) (children rest : List SnapshotNode) :
    d.importNodes p (.element tag attributes children none :: rest) =
      ((d.appendNode p (.element (asciiLower tag) attributes.lowered)).importNodes d.size
        children).importNodes p rest := by
  have hadded : (((d.appendElement p tag).insertAttributes d.size attributes.entries).setBox? d.size
      none) = d.appendNode p (.element (asciiLower tag) attributes.lowered) := by
    unfold appendElement
    rw [insertAttributes_appendNode hp, NodeContent.foldl_setAttribute,
      ← OrderedMap.lowered_eq_foldl]
    refine setBox?_none fun n hn ↦ ?_
    have hne : p ≠ d.size := Nat.ne_of_lt hp
    rw [node?_appendNode] at hn
    simp [hne] at hn
    rw [← hn]
  rw [importNodes, hadded]

theorem grows_importNodes {d : Document} {p : Nat} (hp : p < d.size) {ns : List SnapshotNode}
    (hns : boxlessAll ns) :
    Grows id p (storedAll ns) d.arena (d.importNodes p ns).arena := by
  match ns with
  | [] =>
    rw [importNodes]
    exact .refl _
  | .text s :: rest =>
    rw [boxlessAll, Bool.and_eq_true] at hns
    have hadds := adds_appendNode hp (.text s)
    have hsize : p < (d.appendText p s).size := lt_size_appendNode (Nat.le_of_lt hp) p _
    rw [importNodes]
    exact (Grows.of_adds_text hadds).trans hp (grows_importNodes hsize hns.2)
  | .element tag attributes children box :: rest =>
    rw [boxlessAll, boxless, Bool.and_eq_true, Bool.and_eq_true, Option.isNone_iff_eq_none] at hns
    obtain ⟨⟨rfl, hchildren⟩, hrest⟩ := hns
    have hadds := adds_appendNode hp (.element (asciiLower tag) attributes.lowered)
    have hsize : d.size < (d.appendNode p (.element (asciiLower tag) attributes.lowered)).size :=
      lt_size_appendNode (Nat.le_refl _) p _
    have hbelow := grows_importNodes hsize hchildren
    have hle : (d.appendNode p (.element (asciiLower tag) attributes.lowered)).size ≤ _ := hbelow.le
    have hlater := grows_importNodes (Nat.lt_of_lt_of_le (hp.trans hsize) hle) hrest
    rw [importNodes_element hp]
    exact (Grows.of_adds_element hp hadds hbelow none).trans hp hlater

theorem arena_node?_eq_some {x : Nat} {content : NodeContent} {ids : List Nat}
    (h : d.arena.node? x = some (content, ids)) :
    ∃ parent box, d.node? x = some ⟨content, parent, ids, box⟩ := by
  obtain ⟨⟨_, parent, _, box⟩, hn, hm⟩ := Option.map_eq_some_iff.1 h
  cases hm
  exact ⟨parent, box, hn⟩

mutual

theorem snapshot_treeTo {n : SnapshotNode} {x : Nat} (h : Shows id d.arena n x) (hn : n.boxless)
    {depth : Nat} (hdepth : d.size ≤ x + depth) : (d.treeTo depth x).snapshot = n := by
  have hpos {m : NodeContent × List Nat} (hm : d.arena.node? x = some m) :
      ∃ less, depth = less + 1 := by
    have hlt : x < d.size := d.arena.lt_size hm
    exact Nat.exists_eq_add_one_of_ne_zero (by omega)
  match n with
  | .text s =>
    obtain ⟨ids, hid⟩ := h
    obtain ⟨less, rfl⟩ := hpos hid
    obtain ⟨parent, box, hnode⟩ := arena_node?_eq_some hid
    rw [treeTo, hnode]
    rfl
  | .element tag attributes children box =>
    obtain ⟨ids, hid, hchildren⟩ := h
    rw [boxless, Bool.and_eq_true, Option.isNone_iff_eq_none] at hn
    obtain ⟨rfl, hboxless⟩ := hn
    obtain ⟨less, rfl⟩ := hpos hid
    obtain ⟨parent, box, hnode⟩ := arena_node?_eq_some hid
    have hbelow : Tree.snapshotAll (ids.map (d.treeTo less)) = children :=
      snapshotAll_treeTo hchildren hboxless (by omega)
    rw [treeTo, hnode]
    dsimp only [id]
    rw [Tree.snapshot, hbelow]

theorem snapshotAll_treeTo {ns : List SnapshotNode} {start : Nat} {ids : List Nat}
    (h : ShowsAll id d.arena start ns ids) (hns : boxlessAll ns) {depth : Nat}
    (hdepth : d.size ≤ start + depth) :
    Tree.snapshotAll (ids.map (d.treeTo depth)) = ns := by
  match ns with
  | [] =>
    obtain rfl : ids = [] := h
    rfl
  | n :: ns =>
    obtain ⟨x, rest, rfl, hstart, hn, hrest⟩ := h
    rw [boxlessAll, Bool.and_eq_true] at hns
    rw [List.map_cons, Tree.snapshotAll, snapshot_treeTo hn hns.1 (by omega),
      snapshotAll_treeTo hrest hns.2 hdepth]

end

def single (content : NodeContent) : Document := ⟨#[⟨content, none, [], none⟩], .defaultViewport⟩

theorem insertAttributes_single (content : NodeContent) (pairs : List (String × String)) :
    (single content).insertAttributes root pairs =
      single (pairs.foldl (fun c e ↦ c.setAttribute e.1 e.2) content) := by
  induction pairs generalizing content with
  | nil => rfl
  | cons e pairs ih => exact ih (content.setAttribute e.1 e.2)

theorem ofSnapshot_eq {s : Snapshot} (hs : s.toNode.boxless) :
    ofSnapshot s =
      (single (.element (asciiLower s.tag) s.attributes.lowered)).importNodes root s.children := by
  rw [Snapshot.toNode, boxless, Bool.and_eq_true, Option.isNone_iff_eq_none] at hs
  have hroot : (new s.tag).insertAttributes root s.attributes.entries =
      single (.element (asciiLower s.tag) s.attributes.lowered) := by
    rw [OrderedMap.lowered_eq_foldl, ← NodeContent.foldl_setAttribute, ← insertAttributes_single]
    rfl
  rw [ofSnapshot, hroot, hs.1]
  rfl

mutual

theorem boxless_stored (n : SnapshotNode) : n.stored.boxless := by
  match n with
  | .text s => rfl
  | .element tag attributes children box =>
    rw [stored, boxless, boxlessAll_storedAll children]
    rfl

theorem boxlessAll_storedAll (ns : List SnapshotNode) : boxlessAll (storedAll ns) := by
  match ns with
  | [] => rfl
  | n :: ns =>
    rw [storedAll, boxlessAll, boxless_stored n, boxlessAll_storedAll ns]
    rfl

end

theorem snapshot_tree_ofSnapshot {s : Snapshot} (hs : s.toNode.boxless) :
    ((ofSnapshot s).tree root).snapshot = s.toNode.stored := by
  rw [ofSnapshot_eq hs]
  rw [Snapshot.toNode, boxless, Bool.and_eq_true] at hs
  have hgrows := grows_importNodes (d := single (.element (asciiLower s.tag) s.attributes.lowered))
    (p := root) Nat.zero_lt_one hs.2
  obtain ⟨ids, hroot, hbelow⟩ := hgrows.below _ _ rfl
  have hshows : Shows id ((single (.element (asciiLower s.tag) s.attributes.lowered)).importNodes
      root s.children).arena s.toNode.stored root := by
    rw [Snapshot.toNode, stored]
    exact ⟨ids, hroot, hbelow⟩
  exact snapshot_treeTo hshows (boxless_stored s.toNode) (Nat.le_add_left ..)

theorem importNodes_storedAll {d : Document} {p : Nat} (hp : p < d.size) {ns : List SnapshotNode}
    (hns : boxlessAll ns) : d.importNodes p (storedAll ns) = d.importNodes p ns := by
  match ns with
  | [] => rfl
  | .text s :: rest =>
    rw [boxlessAll, Bool.and_eq_true] at hns
    have hsize : p < (d.appendText p s).size := lt_size_appendNode (Nat.le_of_lt hp) p _
    rw [storedAll, stored, importNodes, importNodes, importNodes_storedAll hsize hns.2]
  | .element tag attributes children box :: rest =>
    rw [boxlessAll, boxless, Bool.and_eq_true, Bool.and_eq_true, Option.isNone_iff_eq_none] at hns
    obtain ⟨⟨rfl, hchildren⟩, hrest⟩ := hns
    have hsize : d.size < (d.appendNode p (.element (asciiLower tag) attributes.lowered)).size :=
      lt_size_appendNode (Nat.le_refl _) p _
    have hle : (d.appendNode p (.element (asciiLower tag) attributes.lowered)).size ≤ _ :=
      (grows_importNodes hsize hchildren).le
    rw [storedAll, stored, importNodes_element hp, importNodes_element hp,
      OrderedMap.lowered_lowered, asciiLower_of_isLowered (isLowered_asciiLower tag),
      importNodes_storedAll hsize hchildren,
      importNodes_storedAll (Nat.lt_of_lt_of_le (hp.trans hsize) hle) hrest]

theorem ofSnapshot_stored {s : Snapshot} (hs : s.toNode.boxless) :
    ofSnapshot ⟨asciiLower s.tag, s.attributes.lowered, storedAll s.children, none⟩ =
      ofSnapshot s := by
  have hstored : (Snapshot.toNode
      ⟨asciiLower s.tag, s.attributes.lowered, storedAll s.children, none⟩).boxless :=
    boxless_stored s.toNode
  rw [ofSnapshot_eq hs, ofSnapshot_eq hstored]
  rw [Snapshot.toNode, boxless, Bool.and_eq_true] at hs
  rw [OrderedMap.lowered_lowered, asciiLower_of_isLowered (isLowered_asciiLower s.tag)]
  exact importNodes_storedAll Nat.zero_lt_one hs.2

end Document

end PageOutline
