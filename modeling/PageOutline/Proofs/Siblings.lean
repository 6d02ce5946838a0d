import Mathlib.Data.List.Nodup
import PageOutline.Page.Rendered
import PageOutline.Proofs.AttributeQuery
import PageOutline.Proofs.DocumentOrder

namespace PageOutline

/-- Following `next` from a start, one comes past exactly these and then has nowhere to go. -/
def Walks (next : NodeId → Option NodeId) : Option NodeId → List NodeId → Prop
  | start, [] => start = none
  | start, e :: es => start = some e ∧ Walks next (next e) es

namespace Document

variable {d : Document} {p e f : Nat} {before after : List Nat}

/-- The documents that come from outside, before anything is done to them. -/
inductive Imported : Document → Prop
  | ofSnapshot (s : Snapshot) : Imported (ofSnapshot s)
  | ofHtml (text : String) : Imported (ofHtml text)

def childElements (d : Document) (id : NodeId) : List NodeId := (d.childIds id).filter d.isElement

def firstElement? (d : Document) (id : NodeId) : Option NodeId := (d.childIds id).find? d.isElement

/-- The nearest element behind a node among the children of its parent. -/
def nextElement? (d : Document) (id : NodeId) : Option NodeId :=
  (d.siblings id).2.find? d.isElement

/-- The nearest element in front of a node among the children of its parent. -/
def previousElement? (d : Document) (id : NodeId) : Option NodeId :=
  (d.siblings id).1.find? d.isElement

theorem head?_childElements (d : Document) (id : NodeId) :
    (d.childElements id).head? = d.firstElement? id := List.head?_filter

theorem head?_elementsAfter (d : Document) (id : NodeId) :
    (d.view.elementsAfter id).head? = d.nextElement? id := List.head?_filter

theorem head?_elementsBefore (d : Document) (id : NodeId) :
    (d.view.elementsBefore id).head? = d.previousElement? id := List.head?_filter

theorem siblings_eq (hp : d.parent? e = some p) (hchildren : d.childIds p = before ++ e :: after)
    (he : e ∉ before) : d.siblings e = (before.reverse, after) := by
  have hbefore : ∀ x ∈ before, (x != e) = true := by
    intro x hx
    rw [bne_iff_ne]
    rintro rfl
    exact he hx
  rw [siblings, hp]
  dsimp only
  rw [hchildren, List.takeWhile_append_of_pos hbefore, List.dropWhile_append_of_pos hbefore,
    List.takeWhile_cons_of_neg (by simp), List.dropWhile_cons_of_neg (by simp), List.append_nil,
    List.tail_cons]

theorem siblings_of_none (hp : d.parent? e = none) : d.siblings e = ([], []) := by
  rw [siblings, hp]

namespace Arboreal

variable (hd : d.Arboreal)

include hd

theorem nodup_childIds (p : NodeId) : (d.childIds p).Nodup := (hd.sorted p).imp Nat.ne_of_lt

theorem elements_around (hl : d.childElements p = before ++ e :: after) :
    d.view.elementsBefore e = before.reverse ∧ d.view.elementsAfter e = after := by
  obtain ⟨front, rest, hchildren, hfront, hrest⟩ := List.filter_eq_append_iff.1 hl
  obtain ⟨texts, back, rfl, htexts, -, hback⟩ := List.filter_eq_cons_iff.1 hrest
  rw [← List.append_assoc] at hchildren
  have hmem : e ∈ d.childIds p := by
    rw [hchildren]
    exact List.mem_append_right _ List.mem_cons_self
  have hnodup := hd.nodup_childIds p
  rw [hchildren] at hnodup
  have hnot : e ∉ front ++ texts := fun he ↦
    List.disjoint_of_nodup_append hnodup he List.mem_cons_self
  have hsiblings := siblings_eq (hd.mem_childIds.1 hmem) hchildren hnot
  have hnone : texts.filter d.isElement = [] := List.filter_eq_nil_iff.2 htexts
  have hbefore : (front ++ texts).reverse.filter d.isElement = before.reverse := by
    rw [List.filter_reverse, List.filter_append, hfront, hnone, List.append_nil]
  constructor
  · change (d.siblings e).1.filter d.isElement = _
    rw [hsiblings, hbefore]
  · change (d.siblings e).2.filter d.isElement = _
    rw [hsiblings, hback]

theorem nextElement?_eq (hl : d.childElements p = before ++ e :: after) :
    d.nextElement? e = after.head? := by
  rw [← head?_elementsAfter, (hd.elements_around hl).2]

theorem previousElement?_eq (hl : d.childElements p = before ++ e :: after) :
    d.previousElement? e = before.getLast? := by
  rw [← head?_elementsBefore, (hd.elements_around hl).1, List.head?_reverse]

theorem exists_around (he : d.isElement e) (hp : d.parent? e = some p) :
    ∃ before after, d.childElements p = before ++ e :: after :=
  List.append_of_mem (List.mem_filter.2 ⟨hd.mem_childIds.2 hp, he⟩)

theorem nextElement?_eq_some_iff (he : d.isElement e) (hf : d.isElement f) :
    d.nextElement? e = some f ↔ d.previousElement? f = some e := by
  constructor
  · intro hnext
    cases hp : d.parent? e with
    | none =>
      rw [nextElement?, siblings_of_none hp] at hnext
      cases hnext
    | some p =>
      obtain ⟨before, after, hl⟩ := hd.exists_around he hp
      rw [hd.nextElement?_eq hl] at hnext
      obtain ⟨rest, rfl⟩ := List.head?_eq_some_iff.1 hnext
      rw [List.append_cons] at hl
      rw [hd.previousElement?_eq hl, List.getLast?_concat]
  · intro hprevious
    cases hp : d.parent? f with
    | none =>
      rw [previousElement?, siblings_of_none hp] at hprevious
      cases hprevious
    | some p =>
      obtain ⟨before, after, hl⟩ := hd.exists_around hf hp
      rw [hd.previousElement?_eq hl] at hprevious
      obtain ⟨rest, rfl⟩ := List.getLast?_eq_some_iff.1 hprevious
      rw [← List.append_cons] at hl
      rw [hd.nextElement?_eq hl, List.head?_cons]

theorem walks_next (hl : d.childElements p = before ++ after) :
    Walks d.nextElement? after.head? after := by
  induction after generalizing before with
  | nil => rfl
  | cons e after ih =>
    refine ⟨rfl, ?_⟩
    rw [hd.nextElement?_eq hl]
    rw [List.append_cons] at hl
    exact ih hl

theorem walks_previous (hl : d.childElements p = before ++ after) :
    Walks d.previousElement? before.getLast? before.reverse := by
  induction before using List.reverseRecOn generalizing after with
  | nil => rfl
  | append_singleton before e ih =>
    rw [← List.append_cons] at hl
    rw [List.getLast?_concat, List.reverse_concat]
    refine ⟨rfl, ?_⟩
    rw [hd.previousElement?_eq hl]
    exact ih hl

theorem walks_childElements (p : NodeId) :
    Walks d.nextElement? (d.firstElement? p) (d.childElements p) := by
  rw [← head?_childElements]
  exact hd.walks_next (List.nil_append _).symm

theorem walks_siblings (he : d.isElement e) :
    Walks d.nextElement? (d.nextElement? e) (d.view.elementsAfter e) ∧
      Walks d.previousElement? (d.previousElement? e) (d.view.elementsBefore e) := by
  cases hp : d.parent? e with
  | none =>
    have hsiblings := siblings_of_none hp
    constructor
    · change Walks d.nextElement? ((d.siblings e).2.find? d.isElement)
        ((d.siblings e).2.filter d.isElement)
      rw [hsiblings]
      rfl
    · change Walks d.previousElement? ((d.siblings e).1.find? d.isElement)
        ((d.siblings e).1.filter d.isElement)
      rw [hsiblings]
      rfl
  | some p =>
    obtain ⟨before, after, hl⟩ := hd.exists_around he hp
    obtain ⟨hbefore, hafter⟩ := hd.elements_around hl
    rw [hbefore, hafter, hd.nextElement?_eq hl, hd.previousElement?_eq hl]
    refine ⟨?_, hd.walks_previous hl⟩
    rw [List.append_cons] at hl
    exact hd.walks_next hl

end Arboreal

namespace Imported

theorem arboreal (h : d.Imported) : d.Arboreal := by
  cases h with
  | ofSnapshot s => exact arboreal_keptByBuilding.reached (.ofSnapshot s)
  | ofHtml text => exact arboreal_keptByBuilding.reached (.ofHtml text)

theorem childIds_of_not_isElement (h : d.Imported) {t : Nat} (ht : ¬d.isElement t) :
    d.childIds t = [] := by
  obtain ⟨s, rfl⟩ : ∃ s, d = Document.ofSnapshot s := by
    cases h with
    | ofSnapshot s => exact ⟨s, rfl⟩
    | ofHtml text => exact ⟨_, rfl⟩
  by_cases hlt : t < (Document.ofSnapshot s).size
  · have hsize : (Document.ofSnapshot s).size = s.toNode.size := by
      rw [size_eq_length, toList_ofSnapshot, SnapshotNode.length_entries]
    obtain ⟨m, above, hm⟩ := exists_lists (lists_ofSnapshot s) (Nat.zero_le t)
      (hlt.trans_eq (hsize.trans (Nat.zero_add _).symm))
    cases m with
    | text s => rw [childIds, hm.head]
    | element tag attributes children box =>
      rw [isElement_eq, hm.head] at ht
      exact absurd rfl ht
  · rw [childIds, node?_eq_none (Nat.le_of_not_lt hlt)]

theorem mem_descendants_root (h : d.Imported) (he : d.isElement e) (hne : e ≠ root) :
    e ∈ d.descendants root := by
  rw [h.arboreal.mem_descendants]
  exact (h.arboreal.reaches_iff_isElement (fun _ ht ↦ h.childIds_of_not_isElement ht) e).2 ⟨he, hne⟩

end Imported

end Document

end PageOutline
