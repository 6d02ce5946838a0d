import PageOutline.Html.Construction
import PageOutline.Proofs.Arena

namespace PageOutline.Html

def DraftContent.kind : DraftContent → Option (Vocabulary × String)
  | .element vocabulary name _ => some (vocabulary, name)
  | .document | .text _ | .comment _ | .doctype _ => none

def DraftContent.Lowered : DraftContent → Prop
  | .element _ name attributes => IsLowered name ∧ ∀ a ∈ attributes, IsLowered a.1
  | .document | .text _ | .comment _ | .doctype _ => True

def Tag.Lowered (tag : Tag) : Prop := IsLowered tag.name ∧ ∀ a ∈ tag.attributes, IsLowered a.1

theorem Tag.lowered_ofName {name : String} (h : IsLowered name) : (ofName name).Lowered :=
  ⟨h, List.forall_mem_nil _⟩

namespace Draft

variable {d e f : Draft} {h id : Nat}

def kind? (d : Draft) (id : Nat) : Option (Option (Vocabulary × String)) :=
  d.nodes[id]?.map fun n ↦ n.content.kind

def Lowered (d : Draft) : Prop := ∀ n ∈ d.nodes, n.content.Lowered

def LeadsIn (d : Draft) (h : Nat) (ids : List Nat) : Prop :=
  ∃ before after, ids = before ++ h :: after ∧ ∀ x ∈ before, d.kind? x = some none

def Leads (d : Draft) (h : Nat) : Prop := d.LeadsIn h (d.children document)

/-- In the second draft there is no less than in the first one, and `h` still comes first. -/
structure Keeps (h : Nat) (d e : Draft) : Prop where
  kind : ∀ id k, d.kind? id = some k → e.kind? id = some k
  leads : d.Leads h → e.Leads h
  lowered : d.Lowered → e.Lowered

namespace Keeps

theorem refl (d : Draft) : Keeps h d d := ⟨fun _ _ hk ↦ hk, id, id⟩

theorem trans (hd : Keeps h d e) (he : Keeps h e f) : Keeps h d f where
  kind id k hk := he.kind id k (hd.kind id k hk)
  leads hl := he.leads (hd.leads hl)
  lowered hl := he.lowered (hd.lowered hl)

end Keeps

section Lists

variable {ids : List Nat}

theorem LeadsIn.mono (hids : d.LeadsIn h ids)
    (hk : ∀ id k, d.kind? id = some k → e.kind? id = some k) : e.LeadsIn h ids := by
  obtain ⟨before, after, rfl, hbefore⟩ := hids
  exact ⟨before, after, rfl, fun x hx ↦ hk x none (hbefore x hx)⟩

theorem LeadsIn.append (hids : d.LeadsIn h ids) (more : List Nat) :
    d.LeadsIn h (ids ++ more) := by
  obtain ⟨before, after, rfl, hbefore⟩ := hids
  exact ⟨before, after ++ more, by simp, hbefore⟩

theorem LeadsIn.filter (hids : d.LeadsIn h ids) (hid : id ≠ h) :
    d.LeadsIn h (ids.filter (· != id)) := by
  obtain ⟨before, after, rfl, hbefore⟩ := hids
  refine ⟨before.filter (· != id), after.filter (· != id), ?_, ?_⟩
  · have hne : h ≠ id := hid.symm
    simp [hne]
  · intro x hx
    exact hbefore x (List.mem_of_mem_filter hx)

theorem insertInFront_append {sibling : Nat} {before : List Nat} (hs : sibling ∉ before)
    (after : List Nat) :
    insertInFront sibling id (before ++ after) = before ++ insertInFront sibling id after := by
  induction before with
  | nil => rfl
  | cons x before ih =>
    rw [List.mem_cons, not_or] at hs
    rw [List.cons_append, insertInFront, if_neg (Ne.symm hs.1), ih hs.2, List.cons_append]

theorem LeadsIn.insertInFront (hids : d.LeadsIn h ids) {sibling : Nat} (hne : sibling ≠ h)
    {k : Vocabulary × String} (hk : d.kind? sibling = some (some k)) :
    d.LeadsIn h (insertInFront sibling id ids) := by
  obtain ⟨before, after, rfl, hbefore⟩ := hids
  have hs : sibling ∉ before := by
    intro hmem
    cases hk.symm.trans (hbefore sibling hmem)
  refine ⟨before, Draft.insertInFront sibling id after, ?_, hbefore⟩
  rw [insertInFront_append hs, Draft.insertInFront, if_neg hne.symm]

end Lists

section Steps

theorem kind?_modify {g : DraftNode → DraftNode}
    (hg : ∀ n, (g n).content.kind = n.content.kind) (x : Nat) :
    kind? ⟨d.nodes.modify id g⟩ x = d.kind? x := by
  unfold kind?
  rw [Array.getElem?_modify]
  split
  · rw [Option.map_map]
    exact congrArg (Option.map · _) (funext hg)
  · rfl

theorem lowered_modify {g : DraftNode → DraftNode}
    (hg : ∀ n, n.content.Lowered → (g n).content.Lowered) (hd : d.Lowered) :
    Lowered ⟨d.nodes.modify id g⟩ := by
  intro n hn
  obtain ⟨i, hi, rfl⟩ := Array.mem_iff_getElem.1 hn
  rw [Array.getElem_modify]
  split
  · exact hg _ (hd _ (Array.getElem_mem _))
  · exact hd _ (Array.getElem_mem _)

theorem children_eq (d : Draft) (x : Nat) :
    d.children x = (d.nodes[x]?.map DraftNode.children).getD [] := by
  unfold children
  cases d.nodes[x]? <;> rfl

theorem children_mapChildren (g : List Nat → List Nat) (x : Nat) :
    (d.mapChildren id g).children x = if id = x ∧ x < d.size then g (d.children x)
      else d.children x := by
  rw [children_eq, children_eq, mapChildren, Array.getElem?_modify]
  by_cases hx : x < d.nodes.size
  · have hsize : x < d.size := hx
    by_cases hid : id = x <;> simp [hid, hx, hsize]
  · have hsize : ¬x < d.size := hx
    simp [hx, hsize]

theorem keeps_modify {g : DraftNode → DraftNode} (hkind : ∀ n, (g n).content.kind = n.content.kind)
    (hchildren : ∀ n, (g n).children = n.children)
    (hlowered : ∀ n, n.content.Lowered → (g n).content.Lowered) :
    d.Keeps h ⟨d.nodes.modify id g⟩ where
  kind x k hk := (kind?_modify hkind x).trans hk
  leads hl := by
    have hsame : children ⟨d.nodes.modify id g⟩ document = d.children document := by
      rw [children_eq, children_eq, Array.getElem?_modify]
      split
      · rw [Option.map_map]
        exact congrArg (fun f ↦ (Option.map f _).getD []) (funext hchildren)
      · rfl
    rw [Leads, hsame]
    exact hl.mono fun x k hk ↦ (kind?_modify hkind x).trans hk
  lowered := lowered_modify hlowered

theorem keeps_setParent (d : Draft) (id : Nat) (parent : Option Nat) :
    d.Keeps h (d.setParent id parent) :=
  keeps_modify (fun _ ↦ rfl) (fun _ ↦ rfl) fun _ hn ↦ hn

theorem keeps_growText (d : Draft) (id : Nat) (c : Char) : d.Keeps h (d.growText id c) := by
  apply keeps_modify
  · rintro ⟨_ | _ | _ | _ | _, _, _⟩ <;> rfl
  · rintro ⟨_ | _ | _ | _ | _, _, _⟩ <;> rfl
  · rintro ⟨_ | _ | _ | _ | _, _, _⟩ hn <;> exact hn

theorem keeps_addMissing (d : Draft) (id : Nat) {pairs : List (String × String)}
    (hpairs : ∀ a ∈ pairs, IsLowered a.1) : d.Keeps h (d.addMissing id pairs) := by
  apply keeps_modify
  · rintro ⟨_ | _ | _ | _ | _, _, _⟩ <;> rfl
  · rintro ⟨_ | _ | _ | _ | _, _, _⟩ <;> rfl
  · rintro ⟨_ | ⟨_, _, attributes⟩ | _ | _ | _, _, _⟩ hn
    · exact hn
    · refine ⟨hn.1, List.forall_mem_append.2 ⟨hn.2, ?_⟩⟩
      intro a ha
      exact hpairs a (List.mem_of_mem_filter ha)
    all_goals exact hn

theorem kind?_mapChildren (d : Draft) (id : Nat) (g : List Nat → List Nat) (x : Nat) :
    (d.mapChildren id g).kind? x = d.kind? x := by
  apply kind?_modify
  intro n
  rfl

theorem keeps_mapChildren {g : List Nat → List Nat}
    (hg : id = document → ∀ ids, d.LeadsIn h ids → d.LeadsIn h (g ids)) :
    d.Keeps h (d.mapChildren id g) where
  kind x k hk := (kind?_mapChildren d id g x).trans hk
  leads hl := by
    have hlist : d.LeadsIn h ((d.mapChildren id g).children document) := by
      rw [children_mapChildren]
      split
      · next hid => exact hg hid.1 _ hl
      · exact hl
    exact hlist.mono fun x k hk ↦ (kind?_mapChildren d id g x).trans hk
  lowered := lowered_modify fun _ hn ↦ hn

theorem kind?_create (content : DraftContent) {x : Nat} {k : Option (Vocabulary × String)}
    (hk : d.kind? x = some k) : (d.create content).kind? x = some k := by
  unfold kind? at hk ⊢
  obtain ⟨n, hn, rfl⟩ := Option.map_eq_some_iff.1 hk
  have hx : x < d.nodes.size := (Array.getElem?_eq_some_iff.1 hn).1
  rw [create, Array.getElem?_push, if_neg (Nat.ne_of_lt hx), hn]
  rfl

theorem kind?_create_size (content : DraftContent) :
    (d.create content).kind? d.size = some content.kind := by
  rw [kind?, create, size, Array.getElem?_push, if_pos rfl]
  rfl

theorem children_create (content : DraftContent) (x : Nat) :
    (d.create content).children x = d.children x := by
  rw [children_eq, children_eq, create, Array.getElem?_push]
  split
  · next hx =>
    subst hx
    rw [Array.getElem?_eq_none (Nat.le_refl _)]
    rfl
  · rfl

theorem keeps_create {content : DraftContent} (hc : content.Lowered) :
    d.Keeps h (d.create content) where
  kind x k := kind?_create content
  leads hl := by
    rw [Leads, children_create]
    exact hl.mono fun x k ↦ kind?_create content
  lowered hd n hn := by
    rcases Array.mem_push.1 hn with hn | rfl
    · exact hd n hn
    · exact hc

theorem keeps_detach (d : Draft) (hid : id ≠ h) : d.Keeps h (d.detach id) := by
  unfold detach
  split
  · exact (keeps_mapChildren fun _ _ hids ↦ hids.filter hid).trans (keeps_setParent ..)
  · exact .refl d

theorem keeps_append (d : Draft) (parent id : Nat) : d.Keeps h (d.append parent id) :=
  (keeps_mapChildren fun _ _ hids ↦ hids.append [id]).trans (keeps_setParent ..)

def Fits (d : Draft) (h : Nat) : Place → Prop
  | .last _ => True
  | .before sibling => sibling ≠ h ∧ ∃ k, d.kind? sibling = some (some k)

theorem Fits.mono {place : Place} (hp : d.Fits h place)
    (hk : ∀ id k, d.kind? id = some k → e.kind? id = some k) : e.Fits h place := by
  cases place with
  | last parent => trivial
  | before sibling =>
    obtain ⟨hne, k, hsibling⟩ := hp
    exact ⟨hne, k, hk _ _ hsibling⟩

theorem keeps_put {place : Place} (hp : d.Fits h place) (id : Nat) :
    d.Keeps h (d.put place id) := by
  cases place with
  | last parent => exact keeps_append d parent id
  | before sibling =>
    obtain ⟨hne, k, hsibling⟩ := hp
    rw [put, insertBefore]
    split
    · next parent _ =>
      have hfront : d.Keeps h (d.mapChildren parent (insertInFront sibling id)) :=
        keeps_mapChildren fun _ _ hids ↦ hids.insertInFront hne hsibling
      exact hfront.trans (keeps_setParent ..)
    · exact .refl d

theorem keeps_add {place : Place} (hp : d.Fits h place) {content : DraftContent}
    (hc : content.Lowered) : d.Keeps h (d.add place content) :=
  (keeps_create hc).trans (keeps_put (hp.mono fun _ _ ↦ kind?_create content) _)

theorem kind?_add_size {place : Place} (hp : d.Fits h place) (content : DraftContent) :
    (d.add place content).kind? d.size = some content.kind :=
  have hfits : (d.create content).Fits h place := hp.mono fun _ _ ↦ kind?_create content
  (keeps_put hfits _).kind _ _ (kind?_create_size content)

theorem keeps_addChar {place : Place} (hp : d.Fits h place) (c : Char) :
    d.Keeps h (d.addChar place c) := by
  have hnew (hfits : d.Fits h place) : d.Keeps h (d.add place (.text (String.singleton c))) :=
    keeps_add hfits trivial
  cases place with
  | last parent =>
    rw [addChar, appendChar]
    split
    · exact keeps_growText ..
    · exact hnew hp
  | before sibling =>
    rw [addChar, insertCharBefore]
    dsimp only
    split
    · exact keeps_growText ..
    · exact hnew hp

theorem keeps_moveChildren (d : Draft) {source : Nat} (hs : source ≠ document) (target : Nat) :
    d.Keeps h (d.moveChildren source target) := by
  have htaken : d.Keeps h (d.mapChildren source fun _ ↦ []) :=
    keeps_mapChildren fun hid ↦ absurd hid hs
  have hgiven : d.Keeps h ((d.mapChildren source fun _ ↦ []).mapChildren target
      (· ++ d.children source)) :=
    htaken.trans (keeps_mapChildren fun _ _ hids ↦ hids.append _)
  exact List.foldlRecOn _ _ hgiven fun d hd id _ ↦ hd.trans (keeps_setParent ..)

end Steps

end Draft

end PageOutline.Html
