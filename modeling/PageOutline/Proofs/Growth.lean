import PageOutline.Page.Document

namespace PageOutline

/-- What stands at each number, with the numbers of its children. -/
structure Arena (γ : Type) where
  size : Nat
  node? : Nat → Option (γ × List Nat)
  lt_size : ∀ {id m}, node? id = some m → id < size

namespace Arena

variable {γ : Type} {label : NodeContent → γ} {a b c : Arena γ}

mutual

/-- The tree that stands at a number. -/
def Shows (label : NodeContent → γ) (a : Arena γ) : SnapshotNode → Nat → Prop
  | .text s, id => ∃ ids, a.node? id = some (label (.text s), ids)
  | .element tag attributes children _, id =>
    ∃ ids, a.node? id = some (label (.element tag attributes), ids) ∧
      ShowsAll label a (id + 1) children ids

def ShowsAll (label : NodeContent → γ) (a : Arena γ) (start : Nat) :
    List SnapshotNode → List Nat → Prop
  | [], ids => ids = []
  | n :: ns, ids =>
    ∃ id rest, ids = id :: rest ∧ start ≤ id ∧ Shows label a n id ∧ ShowsAll label a start ns rest

end

mutual

theorem Shows.mono {n : SnapshotNode} {id : Nat} (h : Shows label a n id)
    (hab : ∀ x m, id ≤ x → a.node? x = some m → b.node? x = some m) : Shows label b n id := by
  match n with
  | .text s =>
    obtain ⟨ids, hid⟩ := h
    exact ⟨ids, hab id _ (Nat.le_refl id) hid⟩
  | .element tag attributes children box =>
    obtain ⟨ids, hid, hchildren⟩ := h
    exact ⟨ids, hab id _ (Nat.le_refl id) hid,
      hchildren.mono fun x m hx hm ↦ hab x m (Nat.le_of_lt hx) hm⟩

theorem ShowsAll.mono {ns : List SnapshotNode} {start : Nat} {ids : List Nat}
    (h : ShowsAll label a start ns ids)
    (hab : ∀ x m, start ≤ x → a.node? x = some m → b.node? x = some m) :
    ShowsAll label b start ns ids := by
  match ns with
  | [] => exact h
  | n :: ns =>
    obtain ⟨id, rest, rfl, hstart, hn, hns⟩ := h
    exact ⟨id, rest, rfl, hstart, hn.mono fun x m hx hm ↦ hab x m (Nat.le_trans hstart hx) hm,
      hns.mono hab⟩

end

theorem ShowsAll.of_le {ns : List SnapshotNode} {start first : Nat} {ids : List Nat}
    (h : ShowsAll label a start ns ids) (hle : first ≤ start) : ShowsAll label a first ns ids := by
  induction ns generalizing ids with
  | nil => exact h
  | cons n ns ih =>
    obtain ⟨id, rest, rfl, hstart, hn, hns⟩ := h
    exact ⟨id, rest, rfl, Nat.le_trans hle hstart, hn, ih hns⟩

theorem ShowsAll.append {ns ms : List SnapshotNode} {start : Nat} {ids jds : List Nat}
    (h : ShowsAll label a start ns ids) (h' : ShowsAll label a start ms jds) :
    ShowsAll label a start (ns ++ ms) (ids ++ jds) := by
  induction ns generalizing ids with
  | nil =>
    obtain rfl : ids = [] := h
    exact h'
  | cons n ns ih =>
    obtain ⟨id, rest, rfl, hstart, hn, hns⟩ := h
    exact ⟨id, rest ++ jds, rfl, hstart, hn, ih hns⟩

/-- A node without children is new below `p`. -/
structure Adds (p : Nat) (content : γ) (a b : Arena γ) : Prop where
  size : b.size = a.size + 1
  new : b.node? a.size = some (content, [])
  parent : b.node? p = (a.node? p).map fun m ↦ (m.1, m.2 ++ [a.size])
  same : ∀ x, x ≠ a.size → x ≠ p → b.node? x = a.node? x

/-- Trees are new below `p`, behind its children. -/
structure Grows (label : NodeContent → γ) (p : Nat) (ns : List SnapshotNode) (a b : Arena γ) :
    Prop where
  le : a.size ≤ b.size
  same : ∀ x, x < a.size → x ≠ p → b.node? x = a.node? x
  below : ∀ content ids, a.node? p = some (content, ids) →
    ∃ added, b.node? p = some (content, ids ++ added) ∧ ShowsAll label b a.size ns added

namespace Grows

variable {p : Nat} {ns ms : List SnapshotNode}

theorem refl (a : Arena γ) : Grows label p [] a a where
  le := Nat.le_refl _
  same _ _ _ := rfl
  below content ids hp := ⟨[], by rw [List.append_nil, hp], rfl⟩

theorem trans (hp : p < a.size) (h : Grows label p ns a b) (h' : Grows label p ms b c) :
    Grows label p (ns ++ ms) a c where
  le := Nat.le_trans h.le h'.le
  same x hx hne := (h'.same x (Nat.lt_of_lt_of_le hx h.le) hne).trans (h.same x hx hne)
  below content ids hids := by
    obtain ⟨added, hb, hshows⟩ := h.below content ids hids
    obtain ⟨added', hc, hshows'⟩ := h'.below content _ hb
    refine ⟨added ++ added', by rw [hc, List.append_assoc], ?_⟩
    -- the trees of the first step come behind `p`, so that the second step leaves them as they are
    refine (hshows.mono fun x m hx hm ↦ ?_).append (hshows'.of_le h.le)
    rw [h'.same x (b.lt_size hm) (by omega), hm]

theorem of_adds_text {s : String} (h : Adds p (label (.text s)) a b) :
    Grows label p [.text s] a b where
  le := by
    rw [h.size]
    exact Nat.le_succ _
  same x hx hne := h.same x (by omega) hne
  below content ids hids := by
    refine ⟨[a.size], by rw [h.parent, hids, Option.map_some], ?_⟩
    exact ⟨a.size, [], rfl, Nat.le_refl _, ⟨[], h.new⟩, rfl⟩

theorem of_adds_element (hp : p < a.size) {tag : String} {attributes : OrderedMap String}
    (h : Adds p (label (.element tag attributes)) a b) (h' : Grows label a.size ns b c)
    (box : Option Box) : Grows label p [.element tag attributes ns box] a c where
  le := by
    have hle := h'.le
    have hsize := h.size
    omega
  same x hx hne := by
    rw [h'.same x (by rw [h.size]; omega) (by omega), h.same x (by omega) hne]
  below content ids hids := by
    obtain ⟨added, hnew, hshows⟩ := h'.below _ _ h.new
    have hparent : c.node? p = some (content, ids ++ [a.size]) := by
      rw [h'.same p (by rw [h.size]; omega) (by omega), h.parent, hids, Option.map_some]
    refine ⟨[a.size], hparent, a.size, [], rfl, Nat.le_refl _, ⟨added, hnew, ?_⟩, rfl⟩
    rw [h.size] at hshows
    exact hshows

end Grows

end Arena

end PageOutline
