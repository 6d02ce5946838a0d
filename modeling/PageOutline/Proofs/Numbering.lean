import PageOutline.Proofs.Import

namespace PageOutline

open Text (asciiLower)

namespace OrderedMap

variable {α : Type}

theorem ofList_concat (pairs : List (String × α)) (e : String × α) :
    ofList (pairs ++ [e]) = (ofList pairs).insert e.1 e.2 :=
  List.foldl_concat ..

theorem keys_ofList (pairs : List (String × α)) :
    (ofList pairs).keys = (pairs.map Prod.fst).eraseDups := keys_foldl_insert ∅ pairs

theorem get?_ofList (pairs : List (String × α)) (key : String) :
    (ofList pairs).get? key = (pairs.findRev? (·.1 == key)).map Prod.snd := by
  rw [ofList, get?_foldl_insert, get?_empty, Option.or_none]

theorem entries_eq_filterMap (m : OrderedMap α) :
    m.entries = m.keys.filterMap fun key ↦ (m.get? key).map (key, ·) := by
  have hentries : m.entries.filterMap (fun e ↦ (m.get? e.1).map (e.1, ·)) =
      m.entries.filterMap some := by
    refine List.filterMap_congr fun e he ↦ ?_
    rw [get?_of_mem (k := e.1) (v := e.2) he]
    rfl
  rw [keys, List.filterMap_map]
  exact (hentries.trans List.filterMap_some).symm

theorem entries_ofList_eq (pairs : List (String × α)) :
    (ofList pairs).entries =
      (pairs.map Prod.fst).eraseDups.filterMap fun key ↦ pairs.findRev? (·.1 == key) := by
  rw [entries_eq_filterMap, keys_ofList]
  refine List.filterMap_congr fun key _ ↦ ?_
  rw [get?_ofList]
  cases h : pairs.findRev? (·.1 == key) with
  | none => rfl
  | some e =>
    rw [List.findRev?_eq_find?_reverse] at h
    have hkey : e.1 = key := by simpa using List.find?_some h
    rw [← hkey]
    rfl

end OrderedMap

/-- Attributes as they are written: each under its lowered name, where the name first comes, with
the value that comes last. -/
def mergedAttributes (pairs : List (String × String)) : List (String × String) :=
  let stored := pairs.map fun e ↦ (asciiLower e.1, e.2)
  (stored.map Prod.fst).eraseDups.filterMap fun name ↦ stored.findRev? (·.1 == name)

theorem OrderedMap.entries_lowered (m : OrderedMap String) :
    m.lowered.entries = mergedAttributes m.entries := entries_ofList_eq _

example : mergedAttributes [("Lang", "en"), ("id", "a"), ("LANG", "fr")] =
    [("lang", "fr"), ("id", "a")] := by decide

namespace SnapshotNode

mutual

def size : SnapshotNode → Nat
  | .text _ => 1
  | .element _ _ children _ => 1 + sizeAll children

def sizeAll : List SnapshotNode → Nat
  | [] => 0
  | n :: ns => n.size + sizeAll ns

end

def ids (start : NodeId) : List SnapshotNode → List NodeId
  | [] => []
  | n :: ns => start :: ids (start + n.size) ns

mutual

/-- The nodes of a tree in preorder, the first of which has the number `start`. -/
def entries (parent : Option NodeId) (start : NodeId) : SnapshotNode → List NodeEntry
  | .text s => [⟨.text s, parent, [], none⟩]
  | .element tag attributes children box =>
    ⟨.element (asciiLower tag) attributes.lowered, parent, ids (start + 1) children, box⟩ ::
      entriesAll (some start) (start + 1) children

def entriesAll (parent : Option NodeId) (start : NodeId) : List SnapshotNode → List NodeEntry
  | [] => []
  | n :: ns => n.entries parent start ++ entriesAll parent (start + n.size) ns

end

mutual

def numbered (start : NodeId) : SnapshotNode → Tree
  | .text s => .text start s
  | .element tag attributes children _ =>
    .element start (asciiLower tag) attributes.lowered (numberedAll (start + 1) children)

def numberedAll (start : NodeId) : List SnapshotNode → List Tree
  | [] => []
  | n :: ns => n.numbered start :: numberedAll (start + n.size) ns

end

mutual

def rendering : SnapshotNode → String
  | .text s => Markup.escapeText s
  | .element tag attributes children _ =>
    Markup.startTag (asciiLower tag) (mergedAttributes attributes.entries) ++
      if Markup.voidTags.contains (asciiLower tag) then ""
      else renderingAll children ++ Markup.endTag (asciiLower tag)

def renderingAll : List SnapshotNode → String
  | [] => ""
  | n :: ns => n.rendering ++ renderingAll ns

end

theorem length_ids (start : NodeId) (ns : List SnapshotNode) :
    (ids start ns).length = ns.length := by
  induction ns generalizing start with
  | nil => rfl
  | cons n ns ih => rw [ids, List.length_cons, ih, List.length_cons]

mutual

theorem length_entries (n : SnapshotNode) (parent : Option NodeId) (start : NodeId) :
    (n.entries parent start).length = n.size := by
  match n with
  | .text s => rfl
  | .element tag attributes children box =>
    rw [entries, size, List.length_cons, length_entriesAll, Nat.add_comm]

theorem length_entriesAll (ns : List SnapshotNode) (parent : Option NodeId) (start : NodeId) :
    (entriesAll parent start ns).length = sizeAll ns := by
  match ns with
  | [] => rfl
  | n :: ns =>
    rw [entriesAll, sizeAll, List.length_append, length_entries n, length_entriesAll ns]

end

mutual

theorem countP_entries (n : SnapshotNode) (parent : Option NodeId) (start : NodeId) :
    (n.entries parent start).countP (fun e ↦ e.content matches .element _ _) = n.count := by
  match n with
  | .text s => rfl
  | .element tag attributes children box =>
    rw [entries, count, List.countP_cons, countP_entriesAll children, Nat.add_comm]
    rfl

theorem countP_entriesAll (ns : List SnapshotNode) (parent : Option NodeId) (start : NodeId) :
    (entriesAll parent start ns).countP (fun e ↦ e.content matches .element _ _) = countAll ns := by
  match ns with
  | [] => rfl
  | n :: ns =>
    rw [entriesAll, countAll, List.countP_append, countP_entries n, countP_entriesAll ns]

end

mutual

theorem textContent_numbered (n : SnapshotNode) (start : NodeId) :
    (n.numbered start).textContent = n.texts := by
  match n with
  | .text s => rfl
  | .element tag attributes children box =>
    rw [numbered, Tree.textContent, texts, textContentAll_numberedAll children]

theorem textContentAll_numberedAll (ns : List SnapshotNode) (start : NodeId) :
    Tree.textContentAll (numberedAll start ns) = textsAll ns := by
  match ns with
  | [] => rfl
  | n :: ns =>
    rw [numberedAll, Tree.textContentAll, textsAll, textContent_numbered n,
      textContentAll_numberedAll ns]

end

mutual

theorem markup_numbered (n : SnapshotNode) (start : NodeId) :
    (n.numbered start).markup = n.rendering := by
  match n with
  | .text s => rfl
  | .element tag attributes children box =>
    rw [numbered, Tree.markup, rendering, OrderedMap.entries_lowered,
      markupAll_numberedAll children]

theorem markupAll_numberedAll (ns : List SnapshotNode) (start : NodeId) :
    Tree.markupAll (numberedAll start ns) = renderingAll ns := by
  match ns with
  | [] => rfl
  | n :: ns =>
    rw [numberedAll, Tree.markupAll, renderingAll, markup_numbered n, markupAll_numberedAll ns]

end

end SnapshotNode

namespace Document

open SnapshotNode

variable {d : Document} {p : Nat}

section Importing

theorem modify_append_of_lt {α : Type} {l : List α} {i : Nat} (h : i < l.length) (r : List α)
    (f : α → α) : (l ++ r).modify i f = l.modify i f ++ r := by
  induction l generalizing i with
  | nil => cases h
  | cons a l ih =>
    cases i with
    | zero => rfl
    | succ i =>
      rw [List.length_cons, Nat.add_lt_add_iff_right] at h
      simp only [List.cons_append, List.modify_succ_cons, ih h]

theorem modify_append_cons {α : Type} {l : List α} {i : Nat} (h : i = l.length) (r : List α)
    (x : α) (f : α → α) : (l ++ x :: r).modify i f = l ++ f x :: r := by
  subst h
  induction l with
  | nil => rfl
  | cons a l ih => simp only [List.cons_append, List.length_cons, List.modify_succ_cons, ih]

def adopt (new : List NodeId) (n : NodeEntry) : NodeEntry :=
  { n with children := n.children ++ new }

theorem modify_adopt_adopt (l : List NodeEntry) (p : Nat) (new later : List NodeId) :
    (l.modify p (adopt new)).modify p (adopt later) = l.modify p (adopt (new ++ later)) := by
  rw [List.modify_modify_eq]
  refine congrArg (l.modify p) (funext fun n ↦ ?_)
  simp only [Function.comp_apply, adopt, List.append_assoc]

theorem modify_adopt_nil (l : List NodeEntry) (p : Nat) : l.modify p (adopt []) = l := by
  have hsame : adopt [] = id := by
    funext n
    simp only [adopt, List.append_nil, id]
  rw [hsame, List.modify_id]

theorem toList_appendNode (hp : p < d.size) (content : NodeContent) :
    (d.appendNode p content).nodes.toList =
      d.nodes.toList.modify p (adopt [d.size]) ++ [⟨content, some p, [], none⟩] := by
  have hlt : p < d.nodes.toList.length := by
    rw [Array.length_toList]
    exact hp
  unfold appendNode
  rw [Array.toList_modify, Array.toList_push]
  exact modify_append_of_lt hlt _ _

theorem size_eq_length (d : Document) : d.size = d.nodes.toList.length := Array.length_toList.symm

theorem length_modify_nodes (d : Document) (p : Nat) (f : NodeEntry → NodeEntry) :
    d.size = (d.nodes.toList.modify p f).length := by
  rw [List.length_modify, size_eq_length]

theorem toList_addElement (hp : p < d.size) (tag : String) (attributes : OrderedMap String)
    (box : Option Box) :
    (((d.appendElement p tag).insertAttributes d.size attributes.entries).setBox? d.size
      box).nodes.toList = d.nodes.toList.modify p (adopt [d.size]) ++
        [⟨.element (asciiLower tag) attributes.lowered, some p, [], box⟩] := by
  unfold appendElement
  rw [insertAttributes_appendNode hp, NodeContent.foldl_setAttribute, ← OrderedMap.lowered_eq_foldl]
  unfold setBox?
  rw [Array.toList_modify, toList_appendNode hp]
  exact modify_append_cons (length_modify_nodes d p _) [] _ _

theorem toList_importNodes {d : Document} {p : Nat} (hp : p < d.size) (ns : List SnapshotNode) :
    (d.importNodes p ns).nodes.toList =
      d.nodes.toList.modify p (adopt (ids d.size ns)) ++ entriesAll (some p) d.size ns := by
  match ns with
  | [] => rw [importNodes, ids, entriesAll, modify_adopt_nil, List.append_nil]
  | .text s :: rest =>
    have hnew := toList_appendNode hp (.text s)
    have hsize : (d.appendText p s).size = d.size + 1 := size_appendNode d p _
    have hlater := toList_importNodes (d := d.appendText p s) (p := p) (by omega) rest
    have hlt : p < (d.nodes.toList.modify p (adopt [d.size])).length := by
      rwa [← length_modify_nodes]
    rw [importNodes, hlater, hsize, ids, entriesAll, entries, size]
    unfold appendText
    rw [hnew, modify_append_of_lt hlt, modify_adopt_adopt, List.append_assoc]
    rfl
  | .element tag attributes children box :: rest =>
    have hnew := toList_addElement hp tag attributes box
    set grown := ((d.appendElement p tag).insertAttributes d.size attributes.entries).setBox?
      d.size box with hgrown
    have hsize : grown.size = d.size + 1 := by
      rw [size_eq_length, hnew, List.length_append, ← length_modify_nodes]
      rfl
    have hbelow := toList_importNodes (d := grown) (p := d.size) (by omega) children
    -- what stands below the new element comes right behind it
    have hinner : (grown.importNodes d.size children).nodes.toList =
        d.nodes.toList.modify p (adopt [d.size]) ++
          (SnapshotNode.element tag attributes children box).entries (some p) d.size := by
      rw [hbelow, hnew, hsize, modify_append_cons (length_modify_nodes d p _), List.append_assoc,
        entries]
      rfl
    have hinnerSize : (grown.importNodes d.size children).size =
        d.size + (SnapshotNode.element tag attributes children box).size := by
      rw [size_eq_length, hinner, List.length_append, ← length_modify_nodes, length_entries]
    have hlater := toList_importNodes (d := grown.importNodes d.size children) (p := p)
      (by omega) rest
    have hlt : p < (d.nodes.toList.modify p (adopt [d.size])).length := by
      rwa [← length_modify_nodes]
    rw [importNodes, ← hgrown, hlater, hinner, hinnerSize, modify_append_of_lt hlt,
      modify_adopt_adopt, List.append_assoc, ids, entriesAll]
    rfl

theorem toList_ofSnapshot (s : Snapshot) :
    (ofSnapshot s).nodes.toList = s.toNode.entries none root := by
  have hroot : ((new s.tag).insertAttributes root s.attributes.entries).setBox? root s.box =
      (single (.element (asciiLower s.tag) s.attributes.lowered)).setBox? root s.box := by
    rw [OrderedMap.lowered_eq_foldl, ← NodeContent.foldl_setAttribute, ← insertAttributes_single]
    rfl
  rw [ofSnapshot, hroot, toList_importNodes Nat.zero_lt_one]
  rfl

end Importing

section Reading

def Lists (d : Document) (start : Nat) (es : List NodeEntry) : Prop :=
  ∀ i e, es[i]? = some e → d.node? (start + i) = some e

theorem Lists.head {start : Nat} {e : NodeEntry} {es : List NodeEntry}
    (h : d.Lists start (e :: es)) : d.node? start = some e := h 0 e rfl

theorem Lists.tail {start : Nat} {e : NodeEntry} {es : List NodeEntry}
    (h : d.Lists start (e :: es)) : d.Lists (start + 1) es := by
  intro i e' he
  rw [Nat.add_assoc, Nat.add_comm 1]
  exact h (i + 1) e' he

theorem Lists.left {start : Nat} {es fs : List NodeEntry} (h : d.Lists start (es ++ fs)) :
    d.Lists start es := by
  intro i e he
  have hi : i < es.length := (List.getElem?_eq_some_iff.1 he).1
  apply h
  rwa [List.getElem?_append_left hi]

theorem Lists.right {start : Nat} {es fs : List NodeEntry} (h : d.Lists start (es ++ fs)) :
    d.Lists (start + es.length) fs := by
  intro i e he
  rw [Nat.add_assoc]
  apply h
  rwa [List.getElem?_append_right (Nat.le_add_right ..), Nat.add_sub_cancel_left]

mutual

theorem treeTo_of_lists {n : SnapshotNode} {parent : Option NodeId} {start : Nat}
    (h : d.Lists start (n.entries parent start)) {depth : Nat} (hdepth : d.size ≤ start + depth) :
    d.treeTo depth start = n.numbered start := by
  -- a node that is there is not below the cut
  have hpos {e : NodeEntry} (he : d.node? start = some e) : ∃ less, depth = less + 1 := by
    have hlt : start < d.size := isSome_node?.1 (Option.isSome_of_eq_some he)
    exact Nat.exists_eq_add_one_of_ne_zero (by omega)
  match n with
  | .text s =>
    obtain ⟨less, rfl⟩ := hpos h.head
    rw [treeTo, h.head]
    rfl
  | .element tag attributes children box =>
    obtain ⟨less, rfl⟩ := hpos h.head
    rw [treeTo, h.head, numbered]
    dsimp only
    rw [map_treeTo_of_lists h.tail (by omega)]

theorem map_treeTo_of_lists {ns : List SnapshotNode} {parent : Option NodeId} {start : Nat}
    (h : d.Lists start (entriesAll parent start ns)) {depth : Nat}
    (hdepth : d.size ≤ start + depth) :
    (ids start ns).map (d.treeTo depth) = numberedAll start ns := by
  match ns with
  | [] => rfl
  | n :: ns =>
    have hlater : d.Lists (start + n.size) (entriesAll parent (start + n.size) ns) := by
      have hright := h.right
      rwa [length_entries] at hright
    rw [ids, List.map_cons, numberedAll, treeTo_of_lists h.left hdepth,
      map_treeTo_of_lists hlater (by omega)]

end

theorem lists_ofSnapshot (s : Snapshot) :
    (ofSnapshot s).Lists root (s.toNode.entries none root) := by
  intro i e he
  rw [← toList_ofSnapshot, Array.getElem?_toList] at he
  rw [root, Nat.zero_add]
  exact he

theorem tree_ofSnapshot (s : Snapshot) : (ofSnapshot s).tree root = s.toNode.numbered root :=
  treeTo_of_lists (lists_ofSnapshot s) (Nat.le_add_left ..)

end Reading

/-- A document of a snapshot has the nodes of the snapshot, numbered in preorder, and tells its
tree, its texts and its markup. -/
theorem ofSnapshot_agrees (s : Snapshot) :
    (ofSnapshot s).nodes.toList = s.toNode.entries none root ∧
      (ofSnapshot s).tree root = s.toNode.numbered root ∧
      (ofSnapshot s).count = s.count ∧
      (ofSnapshot s).textContent root = s.toNode.texts ∧
      (ofSnapshot s).markup root = s.toNode.rendering := by
  refine ⟨toList_ofSnapshot s, tree_ofSnapshot s, ?count, ?texts, ?markup⟩
  case count =>
    rw [count, toList_ofSnapshot]
    exact countP_entries s.toNode none root
  case texts => rw [textContent, tree_ofSnapshot, textContent_numbered]
  case markup => rw [markup, tree_ofSnapshot, markup_numbered]

end Document

end PageOutline
