import PageOutline.Outline.Basic
import PageOutline.Text.Ascii
import PageOutline.Proofs.Escaping

namespace PageOutline

open Markup

/-- A name that markup can hold: it is not empty, and nothing in it ends a name. -/
def IsMarkupName (s : String) : Prop :=
  s ≠ "" ∧ ∀ c ∈ s.toList, Text.isAsciiBlank c = false ∧ c ∉ ['<', '>', '"', '=', '/']

instance (s : String) : Decidable (IsMarkupName s) :=
  @instDecidableAnd _ _ _ (List.decidableBAll _ _)

/-- A node that its markup tells in full. A separator is written as an element `hr` would begin, and
an empty text as none. -/
structure Outline.Tellable (o : Outline) : Prop where
  tag : IsMarkupName o.tag
  tag_ne : o.tag ≠ "hr"
  attributes : ∀ key ∈ o.attributes.keys, IsMarkupName key
  text : o.text ≠ some ""

namespace OutlineNode

theorem toList_markup_element (tag : String) (attributes : OrderedMap String)
    (text : Option String) (children : List OutlineNode) (r : List Char) :
    (element tag attributes text children).markup.toList ++ r =
      '<' :: (tag.toList ++ (attributes.entries.flatMap attributeChars ++
        '>' :: ((text.elim [] fun s ↦ s.toList.flatMap escapeTextChar) ++
          ((markupAll children).toList ++ '<' :: '/' :: (tag.toList ++ '>' :: r))))) := by
  rw [markup]
  cases text <;> simp [toList_startTag, toList_endTag, toList_escapeText]

theorem toList_markup_separator (r : List Char) :
    separator.markup.toList ++ r = '<' :: (['h', 'r'] ++ '>' :: r) := by
  rw [markup]
  rfl

theorem toList_markupAll_cons (n : OutlineNode) (ns : List OutlineNode) :
    (markupAll (n :: ns)).toList = n.markup.toList ++ (markupAll ns).toList := by
  rw [markupAll, String.toList_append]

end OutlineNode

namespace IsMarkupName

variable {s : String} (h : IsMarkupName s)

include h

theorem stops : ∀ c ∈ s.toList, c ≠ ' ' ∧ c ≠ '>' ∧ c ≠ '=' ∧ c ≠ '/' := by
  intro c hc
  obtain ⟨hblank, hmarks⟩ := h.2 c hc
  have hspace : c ≠ ' ' := by
    rintro rfl
    exact absurd hblank (by decide)
  simp_all

theorem parts : ∀ c ∈ s.toList, c ≠ ' ' ∧ c ≠ '>' :=
  fun c hc ↦ ⟨(h.stops c hc).1, (h.stops c hc).2.1⟩

theorem exists_cons : ∃ c cs, s.toList = c :: cs ∧ c ≠ '/' := by
  cases hs : s.toList with
  | nil => exact absurd (String.toList_eq_nil_iff.1 hs) h.1
  | cons c cs =>
    have hc := h.stops c (hs ▸ List.mem_cons_self)
    exact ⟨c, cs, rfl, hc.2.2.2⟩

end IsMarkupName

theorem exists_attributes_append (as : List (String × String)) (r : List Char) :
    ∃ c s, as.flatMap attributeChars ++ '>' :: r = c :: s ∧ ¬(c ≠ ' ' ∧ c ≠ '>') := by
  cases as with
  | nil => exact ⟨'>', r, rfl, by simp⟩
  | cons a as => exact ⟨' ', _, rfl, by simp⟩

theorem tagName_inj {a b : List (String × String)} {x y r s : List Char}
    (hx : ∀ c ∈ x, c ≠ ' ' ∧ c ≠ '>') (hy : ∀ c ∈ y, c ≠ ' ' ∧ c ≠ '>')
    (h : x ++ (a.flatMap attributeChars ++ '>' :: r) =
      y ++ (b.flatMap attributeChars ++ '>' :: s)) :
    x = y ∧ a.flatMap attributeChars ++ '>' :: r = b.flatMap attributeChars ++ '>' :: s := by
  obtain ⟨c, cs, hc, hcstop⟩ := exists_attributes_append a r
  obtain ⟨d, ds, hd, hdstop⟩ := exists_attributes_append b s
  rw [hc, hd] at h ⊢
  obtain ⟨hname, hnext, hrest⟩ := append_cons_inj hx hy hcstop hdstop h
  exact ⟨hname, by rw [hnext, hrest]⟩

theorem attributes_inj {as bs : List (String × String)} {r s : List Char}
    (ha : ∀ key ∈ as.map Prod.fst, IsMarkupName key)
    (hb : ∀ key ∈ bs.map Prod.fst, IsMarkupName key)
    (h : as.flatMap attributeChars ++ '>' :: r = bs.flatMap attributeChars ++ '>' :: s) :
    as = bs ∧ r = s := by
  induction as generalizing bs with
  | nil =>
    cases bs with
    | nil => simpa using h
    | cons b bs => simp [attributeChars] at h
  | cons a as ih =>
    cases bs with
    | nil => simp [attributeChars] at h
    | cons b bs =>
      rw [List.map_cons, List.forall_mem_cons] at ha hb
      simp only [List.flatMap_cons, attributeChars, List.append_assoc, List.cons_append,
        List.nil_append] at h
      obtain ⟨hkey, -, hrest⟩ := append_cons_inj (p := (· ≠ '='))
        (fun c hc ↦ (ha.1.stops c hc).2.2.1) (fun c hc ↦ (hb.1.stops c hc).2.2.1)
        (by simp) (by simp) (List.cons.inj h).2
      obtain ⟨hvalue, -, hrest⟩ := append_cons_inj (p := (· ≠ '"'))
        (fun c hc ↦ (not_mem_escapeValue _ c hc).1) (fun c hc ↦ (not_mem_escapeValue _ c hc).1)
        (by simp) (by simp) (List.cons.inj hrest).2
      obtain ⟨rfl, rfl⟩ := ih ha.2 hb.2 hrest
      have hvalues := flatMap_injective firstEscaped?_escapeValueChar hvalue
      have hpair : a = b :=
        Prod.ext (String.toList_injective hkey) (String.toList_injective hvalues)
      exact ⟨congrArg (· :: as) hpair, rfl⟩

theorem text_inj {a b : Option String} {r s : List Char} (ha : a ≠ some "") (hb : b ≠ some "")
    (h : (a.elim [] fun t ↦ t.toList.flatMap escapeTextChar) ++ '<' :: r =
      (b.elim [] fun t ↦ t.toList.flatMap escapeTextChar) ++ '<' :: s) : a = b ∧ r = s := by
  have hplain (t : Option String) :
      ∀ c ∈ t.elim [] fun t ↦ t.toList.flatMap escapeTextChar, c ≠ '<' := by
    cases t with
    | none => simp
    | some t => exact fun c hc ↦ (not_mem_escapeText _ c hc).1
  obtain ⟨htext, -, hrest⟩ :=
    append_cons_inj (p := (· ≠ '<')) (hplain a) (hplain b) (by simp) (by simp) h
  refine ⟨?_, hrest⟩
  -- without a text nothing is written, as for an empty one
  have hmerge (t : Option String) : (t.elim [] fun t ↦ t.toList.flatMap escapeTextChar) =
      (t.getD "").toList.flatMap escapeTextChar := by
    cases t <;> rfl
  rw [hmerge, hmerge] at htext
  have hget := String.toList_injective (flatMap_injective firstEscaped?_escapeTextChar htext)
  cases a <;> cases b <;> simp_all

namespace OutlineNode

theorem exists_markupAll_append (ns : List OutlineNode) (r : List Char) :
    ∃ s, (markupAll ns).toList ++ '<' :: r = '<' :: s := by
  match ns with
  | [] => exact ⟨r, rfl⟩
  | separator :: ns =>
    rw [toList_markupAll_cons, List.append_assoc, toList_markup_separator]
    exact ⟨_, rfl⟩
  | element _ _ _ _ :: ns =>
    rw [toList_markupAll_cons, List.append_assoc, toList_markup_element]
    exact ⟨_, rfl⟩

theorem markup_append_ne_endTag {n : OutlineNode} (hn : ∀ o ∈ n.elements, o.Tellable)
    (r s : List Char) : n.markup.toList ++ r ≠ '<' :: '/' :: s := by
  cases n with
  | separator =>
    rw [toList_markup_separator]
    simp
  | element tag attributes text children =>
    rw [elements, List.forall_mem_cons] at hn
    obtain ⟨c, cs, htag, hc⟩ := hn.1.tag.exists_cons
    rw [toList_markup_element, show tag.toList = c :: cs from htag]
    simp [hc]

theorem element_ne_separator {tag : String} {attributes : OrderedMap String}
    {text : Option String} {children : List OutlineNode}
    (ho : (⟨tag, attributes, text, children⟩ : Outline).Tellable) (r s : List Char) :
    (element tag attributes text children).markup.toList ++ r ≠ separator.markup.toList ++ s := by
  intro h
  rw [toList_markup_element, toList_markup_separator] at h
  have hhr : ∀ c ∈ ['h', 'r'], c ≠ ' ' ∧ c ≠ '>' := by simp
  have hname : tag.toList = ['h', 'r'] :=
    (tagName_inj (b := []) ho.tag.parts hhr (List.cons.inj h).2).1
  exact ho.tag_ne (String.toList_injective hname)

mutual

theorem markup_append_inj (n m : OutlineNode) (hn : ∀ o ∈ n.elements, o.Tellable)
    (hm : ∀ o ∈ m.elements, o.Tellable) {r s : List Char}
    (h : n.markup.toList ++ r = m.markup.toList ++ s) : n = m ∧ r = s := by
  match n, m with
  | separator, separator =>
    rw [toList_markup_separator, toList_markup_separator] at h
    simpa using h
  | separator, element tag attributes text children =>
    rw [elements, List.forall_mem_cons] at hm
    exact absurd h.symm (element_ne_separator hm.1 s r)
  | element tag attributes text children, separator =>
    rw [elements, List.forall_mem_cons] at hn
    exact absurd h (element_ne_separator hn.1 r s)
  | element tag attributes text children, element tag' attributes' text' children' =>
    rw [elements, List.forall_mem_cons] at hn hm
    rw [toList_markup_element, toList_markup_element] at h
    obtain ⟨htag, hattributes⟩ :=
      tagName_inj hn.1.tag.parts hm.1.tag.parts (List.cons.inj h).2
    obtain rfl : tag = tag' := String.toList_injective htag
    obtain ⟨hentries, htext⟩ := attributes_inj hn.1.attributes hm.1.attributes hattributes
    obtain rfl : attributes = attributes' := OrderedMap.ext hentries
    obtain ⟨u, hu⟩ := exists_markupAll_append children ('/' :: (tag.toList ++ '>' :: r))
    obtain ⟨v, hv⟩ := exists_markupAll_append children' ('/' :: (tag.toList ++ '>' :: s))
    obtain ⟨rfl, hbelow⟩ := text_inj hn.1.text hm.1.text (by rwa [hu, hv] at htext)
    obtain ⟨rfl, hend⟩ :=
      markupAll_append_inj children children' hn.2 hm.2 (by rw [hu, hv, hbelow])
    exact ⟨rfl, by simpa using hend⟩

theorem markupAll_append_inj (ns ms : List OutlineNode) (hn : ∀ o ∈ elementsAll ns, o.Tellable)
    (hm : ∀ o ∈ elementsAll ms, o.Tellable) {r s : List Char}
    (h : (markupAll ns).toList ++ '<' :: '/' :: r = (markupAll ms).toList ++ '<' :: '/' :: s) :
    ns = ms ∧ r = s := by
  match ns, ms with
  | [], [] => exact ⟨rfl, by simpa [markupAll] using h⟩
  -- one list ends before the other: an end tag stands where a node begins
  | [], m :: ms =>
    rw [elementsAll, List.forall_mem_append] at hm
    rw [toList_markupAll_cons, List.append_assoc] at h
    exact absurd h.symm (markup_append_ne_endTag hm.1 _ _)
  | n :: ns, [] =>
    rw [elementsAll, List.forall_mem_append] at hn
    rw [toList_markupAll_cons, List.append_assoc] at h
    exact absurd h (markup_append_ne_endTag hn.1 _ _)
  | n :: ns, m :: ms =>
    rw [elementsAll, List.forall_mem_append] at hn hm
    rw [toList_markupAll_cons, toList_markupAll_cons, List.append_assoc, List.append_assoc] at h
    obtain ⟨rfl, hrest⟩ := markup_append_inj n m hn.1 hm.1 h
    obtain ⟨rfl, hend⟩ := markupAll_append_inj ns ms hn.2 hm.2 hrest
    exact ⟨rfl, hend⟩

end

end OutlineNode

namespace Outline

/-- Trees of tellable nodes differ in their markup wherever they differ at all, whatever stands in
their texts and values: no escaped text holds a bracket, and no escaped value a quote either. -/
theorem markup_tells {a b : Outline} (ha : ∀ o ∈ a.toNode.elements, o.Tellable)
    (hb : ∀ o ∈ b.toNode.elements, o.Tellable) :
    (a.markup = b.markup → a = b) ∧
      ∀ s : String, (∀ c ∈ (escapeText s).toList, c ≠ '<' ∧ c ≠ '>') ∧
        ∀ c ∈ (escapeValue s).toList, c ≠ '"' ∧ c ≠ '<' ∧ c ≠ '>' := by
  refine ⟨fun h ↦ ?_, fun s ↦ ⟨?_, ?_⟩⟩
  · have hmarkup : a.toNode.markup.toList ++ [] = b.toNode.markup.toList ++ [] :=
      congrArg (fun s : String ↦ s.toList ++ []) h
    obtain ⟨hnode, -⟩ := OutlineNode.markup_append_inj a.toNode b.toNode ha hb hmarkup
    cases a
    cases b
    cases hnode
    rfl
  · rw [toList_escapeText]
    exact not_mem_escapeText s.toList
  · rw [toList_escapeValue]
    exact not_mem_escapeValue s.toList

def lookalikes : Outline × Outline :=
  (((ofTag "ul").setAttribute "name" "a\" href=\"b").withText "<hr>",
    (((ofTag "ul").setAttribute "name" "a").setAttribute "href" "b").pushSeparator)

theorem markup_tells_lookalikes : lookalikes.1.markup ≠ lookalikes.2.markup := by
  have hfirst : ∀ o ∈ lookalikes.1.toNode.elements, o.Tellable := by
    intro o ho
    obtain rfl := List.mem_singleton.1 ho
    constructor <;> decide
  have hsecond : ∀ o ∈ lookalikes.2.toNode.elements, o.Tellable := by
    intro o ho
    obtain rfl := List.mem_singleton.1 ho
    constructor <;> decide
  intro h
  have heq := (markup_tells hfirst hsecond).1 h
  exact absurd (congrArg text heq) (by decide)

end Outline

end PageOutline
