import PageOutline.Page.Rendered
import PageOutline.Proofs.Canonical
import PageOutline.Proofs.Import

namespace PageOutline

open Arena SnapshotNode

namespace SnapshotNode

mutual

def toHtml : SnapshotNode → Html.Node
  | .text s => .text s
  | .element tag attributes children _ =>
    .element .html tag attributes.entries (toHtmlAll children)

def toHtmlAll : List SnapshotNode → List Html.Node
  | [] => []
  | n :: ns => n.toHtml :: toHtmlAll ns

end

mutual

def isShown : SnapshotNode → Bool
  | .text _ => true
  | .element tag _ children box => !hiddenTags.contains tag && box.isNone && isShownAll children

def isShownAll : List SnapshotNode → Bool
  | [] => true
  | n :: ns => n.isShown && isShownAll ns

end

mutual

theorem rendered_toHtml {n : SnapshotNode} (h : n.isShown) : n.toHtml.rendered = some n := by
  match n with
  | .text s => rfl
  | .element tag attributes children box =>
    rw [isShown, Bool.and_eq_true, Bool.and_eq_true, Option.isNone_iff_eq_none] at h
    obtain ⟨⟨hshown, rfl⟩, hchildren⟩ := h
    rw [toHtml, Html.Node.rendered, renderedAll_toHtmlAll hchildren, OrderedMap.ofList_entries]
    simp only [Bool.not_eq_true'] at hshown
    rw [hshown]
    rfl

theorem renderedAll_toHtmlAll {ns : List SnapshotNode} (h : isShownAll ns) :
    renderedAll (toHtmlAll ns) = ns := by
  match ns with
  | [] => rfl
  | n :: ns =>
    rw [isShownAll, Bool.and_eq_true] at h
    rw [toHtmlAll, renderedAll, rendered_toHtml h.1, renderedAll_toHtmlAll h.2]
    rfl

end

end SnapshotNode

namespace Html.Draft

variable {d : Draft}

def label : NodeContent → DraftContent
  | .text s => .text s
  | .element tag attributes => .element .html tag attributes.entries

def arena (d : Draft) : Arena DraftContent where
  size := d.size
  node? id := d.nodes[id]?.map fun n ↦ (n.content, n.children)
  lt_size h := by
    obtain ⟨n, hn, -⟩ := Option.map_eq_some_iff.1 h
    exact (Array.getElem?_eq_some_iff.1 hn).1

theorem ext_getElem? {e : Draft} (h : ∀ x : Nat, d.nodes[x]? = e.nodes[x]?) : d = e :=
  congrArg Draft.mk (Array.ext_getElem? h)

theorem getElem?_add {p : Nat} (hp : p < d.size) (content : DraftContent) (x : Nat) :
    (d.add (.last p) content).nodes[x]? =
      if x = d.size then some ⟨content, some p, []⟩
      else d.nodes[x]?.map fun n ↦
        if p = x then { n with children := n.children ++ [d.size] } else n := by
  have hmodify (a : Array DraftNode) (id : Nat) (f : DraftNode → DraftNode) :
      (a.modify id f)[x]? = a[x]?.map fun n ↦ if id = x then f n else n := by
    rw [Array.getElem?_modify]
    split <;> simp
  unfold add put append create mapChildren setParent
  dsimp only
  rw [hmodify, hmodify, Array.getElem?_push]
  by_cases hx : x = d.size
  · have hpx : p ≠ d.size := Nat.ne_of_lt hp
    have hsize : x = d.nodes.size := hx
    subst hx
    simp [hpx, ← hsize]
  · have hsize : x ≠ d.nodes.size := hx
    simp [hx, hsize, Ne.symm hx, Function.comp_def]

theorem size_add (p : Nat) (content : DraftContent) (d : Draft) :
    (d.add (.last p) content).size = d.size + 1 := by
  simp [add, put, append, create, mapChildren, setParent, size]

theorem lt_size_add {q : Nat} (hq : q ≤ d.size) (p : Nat) (content : DraftContent) :
    q < (d.add (.last p) content).size := by
  rw [size_add]
  exact Nat.lt_succ_of_le hq

theorem adds_add {p : Nat} (hp : p < d.size) (content : DraftContent) :
    Adds p content d.arena (d.add (.last p) content).arena where
  size := size_add p content d
  new := by
    change ((d.add (.last p) content).nodes[d.size]?).map _ = _
    rw [getElem?_add hp, if_pos rfl, Option.map_some]
  parent := by
    have hne : p ≠ d.size := Nat.ne_of_lt hp
    change ((d.add (.last p) content).nodes[p]?).map _ = (d.nodes[p]?.map _).map _
    rw [getElem?_add hp, if_neg hne]
    simp [Function.comp_def]
    rfl
  same x hx hxp := by
    have hne : x ≠ d.size := hx
    change ((d.add (.last p) content).nodes[x]?).map _ = d.nodes[x]?.map _
    rw [getElem?_add hp, if_neg hne]
    simp [Ne.symm hxp]

section Texts

def textEnds (d : Draft) (p : Nat) : Bool := (d.children p).getLast?.any d.isText

variable {p : Nat} (hp : p < d.size)

theorem appendChar_of_not_textEnds (h : d.textEnds p = false) (c : Char) :
    d.appendChar p c = d.add (.last p) (.text (String.singleton c)) := by
  have hnone : (d.children p).getLast?.filter d.isText = none := by
    unfold textEnds at h
    cases hlast : (d.children p).getLast? with
    | none => rfl
    | some id =>
      rw [hlast] at h
      exact Option.filter_some_neg (by simpa using h)
  unfold appendChar
  rw [hnone]
  rfl

include hp

theorem children_add (content : DraftContent) :
    (d.add (.last p) content).children p = d.children p ++ [d.size] := by
  have hne : p ≠ d.size := Nat.ne_of_lt hp
  have hlt : p < d.nodes.size := hp
  unfold children
  rw [getElem?_add hp, if_neg hne, Array.getElem?_eq_getElem hlt]
  simp

theorem appendChar_add (s : String) (c : Char) :
    (d.add (.last p) (.text s)).appendChar p c = d.add (.last p) (.text (s.push c)) := by
  have hlast : (d.add (.last p) (.text s)).nodes[d.size]? = some ⟨.text s, some p, []⟩ := by
    rw [getElem?_add hp, if_pos rfl]
  have htext : (d.add (.last p) (.text s)).isText d.size := by
    unfold isText
    rw [hlast]
  have hgrows : (d.add (.last p) (.text s)).appendChar p c =
      (d.add (.last p) (.text s)).growText d.size c := by
    unfold appendChar
    rw [children_add hp, List.getLast?_concat, Option.filter_some_pos htext]
  rw [hgrows]
  refine ext_getElem? fun x ↦ ?_
  unfold growText
  rw [Array.getElem?_modify, getElem?_add hp, getElem?_add hp]
  by_cases hx : x = d.size
  · subst hx
    simp
  · simp [hx, Ne.symm hx]

theorem foldl_appendChar (cs : List Char) (s : String) :
    cs.foldl (fun d c ↦ d.appendChar p c) (d.add (.last p) (.text s)) =
      d.add (.last p) (.text (s ++ String.ofList cs)) := by
  induction cs generalizing s with
  | nil => simp
  | cons c cs ih =>
    rw [List.foldl_cons, appendChar_add hp, ih]
    refine congrArg (fun s ↦ d.add (.last p) (.text s)) (String.toList_inj.1 ?_)
    simp

end Texts

theorem getElem?_of_arena {x : Nat} {content : DraftContent} {ids : List Nat}
    (h : d.arena.node? x = some (content, ids)) :
    ∃ parent, d.nodes[x]? = some ⟨content, parent, ids⟩ := by
  obtain ⟨⟨_, parent, _⟩, hn, hm⟩ := Option.map_eq_some_iff.1 h
  cases hm
  exact ⟨parent, hn⟩

theorem children_of_arena {x : Nat} {content : DraftContent} {ids : List Nat}
    (h : d.arena.node? x = some (content, ids)) : d.children x = ids := by
  obtain ⟨parent, hn⟩ := getElem?_of_arena h
  rw [children, hn]

theorem exists_node {x : Nat} (h : x < d.size) :
    ∃ content ids, d.arena.node? x = some (content, ids) :=
  ⟨_, _, congrArg (Option.map _) (Array.getElem?_eq_getElem h)⟩

theorem textEnds_of_children_eq_nil {x : Nat} (h : d.children x = []) : d.textEnds x = false := by
  rw [textEnds, h]
  rfl

theorem textEnds_of_grows {e : Draft} {p : Nat} {content : DraftContent} {ids : List Nat}
    (hp : d.arena.node? p = some (content, ids)) {tag : String} {attributes : OrderedMap String}
    {children : List SnapshotNode} {box : Option Box}
    (h : Grows label p [.element tag attributes children box] d.arena e.arena) :
    e.textEnds p = false := by
  obtain ⟨added, hadded, hshows⟩ := h.below content ids hp
  obtain ⟨x, rest, rfl, -, ⟨below, hx, -⟩, hrest⟩ := hshows
  obtain rfl : rest = [] := hrest
  obtain ⟨parent, hn⟩ := getElem?_of_arena hx
  rw [textEnds, children_of_arena hadded, List.getLast?_concat]
  rw [Option.any_some, isText, hn]
  rfl

theorem forest_eq {depth x : Nat} {content : DraftContent} {ids : List Nat}
    (hx : d.arena.node? x = some (content, ids)) {ns : List SnapshotNode}
    (hshows : ShowsAll label d.arena (x + 1) ns ids) (hdepth : d.size ≤ x + depth) :
    d.forest depth x = toHtmlAll ns := by
  induction depth generalizing x content ids ns with
  | zero =>
    have hlt : x < d.size := d.arena.lt_size hx
    omega
  | succ depth ih =>
    rw [forest, children_of_arena hx]
    clear hx
    induction ns generalizing ids with
    | nil =>
      obtain rfl : ids = [] := hshows
      rfl
    | cons n ns ihns =>
      obtain ⟨y, rest, rfl, hy, hn, hrest⟩ := hshows
      rw [toHtmlAll, ← ihns hrest]
      cases n with
      | text s =>
        obtain ⟨below, hnode⟩ := hn
        obtain ⟨parent, hn⟩ := getElem?_of_arena hnode
        rw [List.filterMap_cons, hn]
        rfl
      | element tag attributes children box =>
        obtain ⟨below, hnode, hchildren⟩ := hn
        have hbelow := ih hnode hchildren (by omega)
        obtain ⟨parent, hn⟩ := getElem?_of_arena hnode
        rw [List.filterMap_cons, hn, toHtml, ← hbelow]
        rfl

end Html.Draft

end PageOutline
