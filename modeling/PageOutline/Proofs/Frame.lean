import PageOutline.Proofs.Attributes
import PageOutline.Proofs.Held

namespace PageOutline

open Text (asciiLower)

/-- The second map has the keys of the first one in their order, then keys that are among `names`.
The values of other keys are the same. -/
structure OrderedMap.Extends {α : Type} (names : List String) (m n : OrderedMap α) : Prop where
  keys : ∃ added, n.keys = m.keys ++ added ∧ ∀ k ∈ added, k ∈ names
  get? : ∀ k, k ∉ names → n.get? k = m.get? k

inductive NodeContent.Tagged (names : List String) : NodeContent → NodeContent → Prop
  | element {m n : OrderedMap String} (tag : String) (h : m.Extends names n) :
    Tagged names (.element tag m) (.element tag n)
  | text (s : String) : Tagged names (.text s) (.text s)

structure NodeEntry.Tagged (names : List String) (before after : NodeEntry) : Prop where
  content : before.content.Tagged names after.content
  parent : after.parent = before.parent
  children : after.children = before.children
  box : after.box = before.box

/-- The second document is the first one with other values of the attributes in `names`. -/
structure Document.Tagged (names : List String) (before after : Document) : Prop where
  viewport : after.viewport = before.viewport
  size : after.size = before.size
  node : ∀ id m, before.node? id = some m → ∃ n, after.node? id = some n ∧ m.Tagged names n

namespace OrderedMap

variable {α : Type} {names : List String}

theorem Extends.refl (m : OrderedMap α) : m.Extends names m :=
  ⟨⟨[], (List.append_nil _).symm, by simp⟩, fun _ _ ↦ rfl⟩

theorem Extends.trans {m n p : OrderedMap α} (h : m.Extends names n) (h' : n.Extends names p) :
    m.Extends names p := by
  obtain ⟨added, hn, ha⟩ := h.keys
  obtain ⟨added', hp, ha'⟩ := h'.keys
  refine ⟨⟨added ++ added', ?_, ?_⟩, fun k hk ↦ (h'.get? k hk).trans (h.get? k hk)⟩
  · rw [hp, hn, List.append_assoc]
  · exact List.forall_mem_append.2 ⟨ha, ha'⟩

theorem extends_insert {key : String} (h : key ∈ names) (m : OrderedMap α) (value : α) :
    m.Extends names (m.insert key value) := by
  refine ⟨?_, fun k hk ↦ ?_⟩
  · by_cases hm : key ∈ m.keys
    · exact ⟨[], by simp [keys_insert, hm], by simp⟩
    · exact ⟨[key], by simp [keys_insert, hm], by simpa using h⟩
  · have hne : k ≠ key := fun hkey ↦ hk (hkey ▸ h)
    rw [get?_insert, if_neg hne]

end OrderedMap

section Tagged

variable {names : List String}

theorem NodeContent.Tagged.refl (c : NodeContent) : c.Tagged names c := by
  cases c with
  | element tag attributes => exact .element tag (.refl attributes)
  | text s => exact .text s

theorem NodeContent.Tagged.trans {c c' c'' : NodeContent} (h : c.Tagged names c')
    (h' : c'.Tagged names c'') : c.Tagged names c'' := by
  cases h with
  | element tag h =>
    cases h' with
    | element _ h' => exact .element tag (h.trans h')
  | text s => exact h'

theorem NodeContent.tagged_setAttribute {name : String} (h : asciiLower name ∈ names)
    (value : String) (c : NodeContent) : c.Tagged names (c.setAttribute name value) := by
  cases c with
  | element tag attributes => exact .element tag (OrderedMap.extends_insert h attributes value)
  | text s => exact .text s

theorem NodeEntry.Tagged.refl (n : NodeEntry) : n.Tagged names n := ⟨.refl _, rfl, rfl, rfl⟩

theorem NodeEntry.Tagged.trans {m n p : NodeEntry} (h : m.Tagged names n)
    (h' : n.Tagged names p) : m.Tagged names p where
  content := h.content.trans h'.content
  parent := h'.parent.trans h.parent
  children := h'.children.trans h.children
  box := h'.box.trans h.box

namespace Document

theorem Tagged.refl (d : Document) : d.Tagged names d :=
  ⟨rfl, rfl, fun _ m hm ↦ ⟨m, hm, .refl m⟩⟩

theorem Tagged.trans {d e f : Document} (h : d.Tagged names e) (h' : e.Tagged names f) :
    d.Tagged names f := by
  refine ⟨h'.viewport.trans h.viewport, h'.size.trans h.size, fun id m hm ↦ ?_⟩
  obtain ⟨n, hn, hmn⟩ := h.node id m hm
  obtain ⟨p, hp, hnp⟩ := h'.node id n hn
  exact ⟨p, hp, hmn.trans hnp⟩

theorem tagged_insertAttribute (d : Document) {name : String} (h : asciiLower name ∈ names)
    (node : NodeId) (value : String) : d.Tagged names (d.insertAttribute node name value) := by
  refine ⟨rfl, Array.size_modify, fun id m hm ↦ ?_⟩
  rw [node?_insertAttribute, hm]
  split
  · exact ⟨_, rfl, NodeContent.tagged_setAttribute h value _, rfl, rfl, rfl⟩
  · exact ⟨m, rfl, .refl m⟩

end Document

end Tagged

theorem Document.tagged_keptByTags (d : Document) (settings : Settings) (recipe : Recipe) :
    Pass.KeptByTags (fun e _ ↦ d.Tagged settings.tagNames e) settings recipe where
  click _ _ _ _ h := h
  clickTag e _ node name h :=
    h.trans (e.tagged_insertAttribute (by simp [Settings.tagNames]) node name)
  input _ _ _ _ h := h
  inputTag e _ node name h :=
    h.trans (e.tagged_insertAttribute (by simp [Settings.tagNames]) node name)
  mark name hname e _ node value h := by
    refine h.trans (e.tagged_insertAttribute (List.mem_map_of_mem ?_) node value)
    exact List.mem_cons_of_mem _ (List.mem_cons_of_mem _ hname)

/-- However a pass ends, only its tags differ on the document. -/
theorem Engine.processPage_tagged (e : Engine) (d : Document) (path : String) :
    d.Tagged e.settings.tagNames (e.processPage d path).2.2 :=
  e.processPage_kept (d.tagged_keptByTags e.settings) d path (.refl d)

end PageOutline
