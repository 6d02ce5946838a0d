import PageOutline.Proofs.Descendants
import PageOutline.Proofs.Numbering

namespace PageOutline

open Relation (ReflTransGen TransGen)

namespace Document

variable {d : Document}

/-- The elements of a forest in preorder: an element, then those below it, then those of the trees
behind it. What stands below a text is passed over with the text. -/
inductive InPreorder (d : Document) : List NodeId → List NodeId → Prop
  | nil : InPreorder d [] []
  | text {id : NodeId} {ids order : List NodeId} (h : ¬d.isElement id)
      (later : InPreorder d ids order) : InPreorder d (id :: ids) order
  | element {id : NodeId} {ids below order : List NodeId} (h : d.isElement id)
      (inside : InPreorder d (d.childIds id) below) (later : InPreorder d ids order) :
      InPreorder d (id :: ids) (id :: (below ++ order))

/-- What a walk finds that takes the first of the waiting nodes, and lets the children of an element
wait in front of the others. -/
inductive Unstacks (d : Document) : List NodeId → List NodeId → Prop
  | nil : Unstacks d [] []
  | text {id : NodeId} {waiting found : List NodeId} (h : ¬d.isElement id)
      (next : Unstacks d waiting found) : Unstacks d (id :: waiting) found
  | element {id : NodeId} {waiting found : List NodeId} (h : d.isElement id)
      (next : Unstacks d (d.childIds id ++ waiting) found) :
      Unstacks d (id :: waiting) (id :: found)

theorem Unstacks.unique {waiting found found' : List NodeId} (h : d.Unstacks waiting found)
    (h' : d.Unstacks waiting found') : found = found' := by
  induction h generalizing found' with
  | nil =>
    cases h'
    rfl
  | text hid _ ih =>
    cases h' with
    | text _ hnext => exact ih hnext
    | element helement => exact absurd helement hid
  | element hid _ ih =>
    cases h' with
    | text hnot => exact absurd hid hnot
    | element _ hnext => rw [ih hnext]

theorem InPreorder.unstacks {ids order waiting found : List NodeId} (h : d.InPreorder ids order)
    (hrest : d.Unstacks waiting found) : d.Unstacks (ids ++ waiting) (order ++ found) := by
  induction h generalizing waiting found with
  | nil => exact hrest
  | text hid _ ih => exact .text hid (ih hrest)
  | element hid _ _ inside later =>
    rw [List.cons_append, List.cons_append, List.append_assoc]
    exact .element hid (inside (later hrest))

theorem InPreorder.unstacks_self {ids order : List NodeId} (h : d.InPreorder ids order) :
    d.Unstacks ids order := by
  have hall := h.unstacks .nil
  rwa [List.append_nil, List.append_nil] at hall

theorem InPreorder.unique {ids order order' : List NodeId} (h : d.InPreorder ids order)
    (h' : d.InPreorder ids order') : order = order' :=
  h.unstacks_self.unique h'.unstacks_self

namespace Arboreal

variable (h : d.Arboreal)

include h

theorem inPreorder_elements {depth : Nat} {ids : List Nat}
    (hids : ∀ id ∈ ids, d.size ≤ depth + id) :
    d.InPreorder ids (ids.flatMap fun id ↦ (d.tree id).elements) := by
  induction depth generalizing ids with
  | zero =>
    induction ids with
    | nil => exact .nil
    | cons id ids later =>
      rw [List.forall_mem_cons] at hids
      have hnot : ¬d.isElement id := by
        rw [isElement_eq, node?_eq_none (by omega)]
        exact Bool.false_ne_true
      rw [List.flatMap_cons, tree, elements_treeTo_of_not_isElement hnot]
      exact .text hnot (later hids.2)
  | succ depth inside =>
    induction ids with
    | nil => exact .nil
    | cons id ids later =>
      rw [List.forall_mem_cons] at hids
      rw [List.flatMap_cons]
      by_cases helement : d.isElement id
      · rw [h.elements_tree helement, List.cons_append]
        refine .element helement (inside fun child hchild ↦ ?_) (later hids.2)
        have hlt := h.lt_of_mem_childIds hchild
        omega
      · rw [tree, elements_treeTo_of_not_isElement helement]
        exact .text helement (later hids.2)

theorem inPreorder_descendants (id : Nat) : d.InPreorder (d.childIds id) (d.descendants id) :=
  h.inPreorder_elements fun _ _ ↦ Nat.le_add_right _ _

theorem filter_parent_descendants (id : Nat) :
    (d.descendants id).filter (fun x ↦ d.parent? x = some id) =
      (d.childIds id).filter d.isElement := by
  have hchild (c : Nat) (hc : c ∈ d.childIds id) :
      (d.tree c).elements.filter (fun x ↦ d.parent? x = some id) =
        if d.isElement c then [c] else [] := by
    split
    · next helement =>
      have hbelow : (d.descendants c).filter (fun x ↦ d.parent? x = some id) = [] := by
        rw [List.filter_eq_nil_iff]
        intro x hx
        obtain ⟨p, hp, hxp⟩ := TransGen.tail'_iff.1 (h.mem_descendants.1 hx)
        have hparent := h.mem_childIds.1 hxp.1
        have hle : c ≤ p := by
          rcases Relation.reflTransGen_iff_eq_or_transGen.1 hp with rfl | hp
          · exact le_rfl
          · exact (h.lt_of_transGen hp).le
        have hlt := (h.lt_of_mem_childIds hc).1
        rw [hparent, decide_eq_true_eq]
        rintro ⟨⟩
        omega
      rw [h.elements_tree helement, List.filter_cons, hbelow,
        if_pos (decide_eq_true (h.mem_childIds.1 hc))]
    · next hnot => rw [tree, elements_treeTo_of_not_isElement hnot, List.filter_nil]
  unfold descendants
  rw [List.filter_flatMap]
  generalize d.childIds id = ids at hchild ⊢
  induction ids with
  | nil => rfl
  | cons c ids ih =>
    rw [List.forall_mem_cons] at hchild
    rw [List.flatMap_cons, hchild.1, ih hchild.2, List.filter_cons]
    split <;> rfl

end Arboreal

section Numbers

open SnapshotNode

mutual

theorem elements_numbered (n : SnapshotNode) (start : Nat) :
    (n.numbered start).elements.Pairwise (· < ·) ∧
      ∀ x : Nat, x ∈ (n.numbered start).elements → start ≤ x ∧ x < start + n.size := by
  match n with
  | .text s => exact ⟨.nil, fun x hx ↦ by cases hx⟩
  | .element tag attributes children box =>
    obtain ⟨hsorted, hrange⟩ := elementsAll_numberedAll children (start + 1)
    rw [numbered, Tree.elements, SnapshotNode.size, List.pairwise_cons, List.forall_mem_cons]
    refine ⟨⟨fun x hx ↦ ?_, hsorted⟩, by omega, fun x hx ↦ ?_⟩
    · exact (hrange x hx).1
    · have hx := hrange x hx
      omega

theorem elementsAll_numberedAll (ns : List SnapshotNode) (start : Nat) :
    (Tree.elementsAll (numberedAll start ns)).Pairwise (· < ·) ∧
      ∀ x : Nat, x ∈ Tree.elementsAll (numberedAll start ns) →
        start ≤ x ∧ x < start + sizeAll ns := by
  match ns with
  | [] => exact ⟨.nil, fun x hx ↦ by cases hx⟩
  | n :: ns =>
    obtain ⟨hfirst, hrange⟩ := elements_numbered n start
    obtain ⟨hlater, hrange'⟩ := elementsAll_numberedAll ns (start + n.size)
    rw [numberedAll, Tree.elementsAll, sizeAll, List.pairwise_append, List.forall_mem_append]
    refine ⟨⟨hfirst, hlater, fun x hx y hy ↦ ?_⟩, fun x hx ↦ ?_, fun x hx ↦ ?_⟩
    · exact (hrange x hx).2.trans_le (hrange' y hy).1
    · have hx := hrange x hx
      omega
    · have hx := hrange' x hx
      omega

end

mutual

theorem exists_lists {n : SnapshotNode} {parent : Option NodeId} {start : Nat}
    (h : d.Lists start (n.entries parent start)) {id : Nat} (hle : start ≤ id)
    (hlt : id < start + n.size) : ∃ m above, d.Lists id (SnapshotNode.entries above id m) := by
  by_cases hid : start = id
  · exact ⟨n, parent, hid ▸ h⟩
  match n with
  | .text s =>
    rw [SnapshotNode.size] at hlt
    omega
  | .element tag attributes children box =>
    rw [SnapshotNode.size] at hlt
    exact exists_listsAll h.tail (by omega) (by omega)

theorem exists_listsAll {ns : List SnapshotNode} {parent : Option NodeId} {start : Nat}
    (h : d.Lists start (entriesAll parent start ns)) {id : Nat} (hle : start ≤ id)
    (hlt : id < start + sizeAll ns) : ∃ m above, d.Lists id (SnapshotNode.entries above id m) := by
  match ns with
  | [] =>
    rw [sizeAll] at hlt
    omega
  | n :: ns =>
    rw [sizeAll] at hlt
    by_cases hn : id < start + n.size
    · exact exists_lists h.left hle hn
    · have hlater : d.Lists (start + n.size) (entriesAll parent (start + n.size) ns) := by
        have hright := h.right
        rwa [length_entries] at hright
      exact exists_listsAll hlater (by omega) (by omega)

end

theorem pairwise_descendants_ofSnapshot (s : Snapshot) (id : Nat) :
    ((ofSnapshot s).descendants id).Pairwise (· < ·) := by
  have hd := arboreal_keptByBuilding.ofSnapshot s
  have hlists := lists_ofSnapshot s
  set d := ofSnapshot s with hdoc
  have hbare (hnone : d.childIds id = []) : (d.descendants id).Pairwise (· < ·) := by
    rw [descendants, hnone]
    exact .nil
  by_cases hid : id < d.size
  · have hsize : d.size = s.toNode.size := by
      rw [size_eq_length, hdoc, toList_ofSnapshot, length_entries]
    obtain ⟨m, above, hm⟩ := exists_lists hlists (Nat.zero_le id)
      (hid.trans_eq (hsize.trans (Nat.zero_add _).symm))
    have htree : d.tree id = m.numbered id := treeTo_of_lists hm (Nat.le_add_left ..)
    cases m with
    | text s =>
      refine hbare ?_
      rw [childIds, hm.head]
    | element tag attributes children box =>
      have helement : d.isElement id := by
        rw [isElement_eq, hm.head]
        rfl
      have hsorted := (elements_numbered (.element tag attributes children box) id).1
      rw [← htree, hd.elements_tree helement, List.pairwise_cons] at hsorted
      exact hsorted.2
  · refine hbare ?_
    rw [childIds, node?_eq_none (Nat.le_of_not_lt hid)]

end Numbers

/-- A query answers with the elements below its context that match, in preorder, which is the order
in which a walk with a stack finds them. Asked for children only it answers with those whose parent
is the context. -/
theorem query_inPreorder (h : d.Reached) {context : Nat} (hcontext : context < d.size)
    {selector : String} {parsed : Css.Selector}
    (hparsed : Css.Selector.parse? selector = some parsed) :
    ∃ order found : List NodeId,
      (∀ ids, d.InPreorder (d.childIds context) ids ↔ ids = order) ∧
      (∀ ids, d.Unstacks (d.childIds context) ids ↔ ids = order) ∧
      (∀ x, x ∈ order ↔ TransGen d.HasChild context x) ∧ order.Nodup ∧ context ∉ order ∧
      found = order.filter (d.isMatch parsed context) ∧
      d.query context selector false = .ok found ∧
      d.query context selector true =
        .ok (found.filter fun x ↦ d.parent? x = some context) ∧
      (((∃ s, d = ofSnapshot s) ∨ ∃ text, d = ofHtml text) →
        found.Pairwise (· < ·) ∧
          (found.filter fun x ↦ d.parent? x = some context).Pairwise (· < ·)) := by
  have hd := arboreal_keptByBuilding.reached h
  have horder := hd.inPreorder_descendants context
  have hquery := query_of_parse hparsed (isSome_node?.2 hcontext)
  refine ⟨d.descendants context, _, fun ids ↦ ⟨fun hids ↦ hids.unique horder, ?_⟩,
    fun ids ↦ ⟨fun hids ↦ hids.unique horder.unstacks_self, ?_⟩, fun x ↦ hd.mem_descendants,
    hd.nodup_descendants context, hd.notMem_descendants context, rfl, hquery false, ?_, ?_⟩
  · rintro rfl
    exact horder
  · rintro rfl
    exact horder.unstacks_self
  · rw [hquery true, List.filter_comm, hd.filter_parent_descendants]
    rfl
  · intro hmade
    have hsorted : (d.descendants context).Pairwise (· < ·) := by
      rcases hmade with ⟨s, rfl⟩ | ⟨text, rfl⟩
      · exact pairwise_descendants_ofSnapshot s context
      · exact pairwise_descendants_ofSnapshot _ context
    exact ⟨hsorted.filter _, (hsorted.filter _).filter _⟩

def latePage : Document :=
  let page := (((new "ul").appendElement 0 "li").appendElement 0 "li").appendText 1 "Tea"
  (page.appendElement 3 "li").appendElement 1 "li"

theorem query_inPreorder_latePage :
    latePage.Reached ∧ (root : Nat) < latePage.size ∧
    Css.Selector.parse? "li" = some ⟨[.compound [.localName "li"]]⟩ ∧
    ∃ order found : List NodeId, (∀ ids, latePage.InPreorder (latePage.childIds root) ids ↔
      ids = order) ∧ latePage.query root "li" false = .ok found ∧ found = [1, 5, 2] := by
  have h : latePage.Reached := by
    refine .appendElement (.appendElement (.appendText (.appendElement (.appendElement (.new "ul")
      ?_ _) ?_ _) ?_ _) ?_ _) ?_ _ <;> decide
  have hparsed : Css.Selector.parse? "li" = some ⟨[.compound [.localName "li"]]⟩ := by
    rfl
  have hroot : (root : Nat) < latePage.size := by decide
  obtain ⟨order, found, horder, -, -, -, -, hfound, hquery, -⟩ :=
    query_inPreorder h hroot hparsed
  have hanswer : (latePage.query root "li" false).toOption = some [1, 5, 2] := by decide +kernel
  rw [hquery] at hanswer
  exact ⟨h, hroot, hparsed, order, found, horder, hquery, Option.some.inj hanswer⟩

end Document

end PageOutline
