import PageOutline.Proofs.Construction

namespace PageOutline

open Arena Html Markup

namespace SnapshotNode

def isText : SnapshotNode → Bool
  | .text _ => true
  | .element _ _ _ _ => false

def ArePlainAttributes (m : OrderedMap String) : Prop :=
  ∀ a ∈ m.entries, Html.IsName a.1 ∧ IsKept a.2

mutual

/-- Elements whose markup tells where they end, and texts that are kept. -/
def IsPlain : SnapshotNode → Prop
  | .text s => s ≠ "" ∧ IsKept s
  | .element tag attributes children box =>
    box = none ∧ ArePlainAttributes attributes ∧
      (tag ∈ plainTags ∧ ArePlain children ∨ tag ∈ plainVoidTags ∧ children = [])

def ArePlain : List SnapshotNode → Prop
  | [] => True
  | n :: ns => n.IsPlain ∧ (n.isText → ns.head?.any isText = false) ∧ ArePlain ns

end

instance (m : OrderedMap String) : Decidable (ArePlainAttributes m) :=
  List.decidableBAll _ _

mutual

def decidableIsPlain : (n : SnapshotNode) → Decidable n.IsPlain
  | .text s => inferInstanceAs (Decidable (s ≠ "" ∧ IsKept s))
  | .element tag attributes children box =>
    have := decidableArePlain children
    inferInstanceAs (Decidable (box = none ∧ ArePlainAttributes attributes ∧
      (tag ∈ plainTags ∧ ArePlain children ∨ tag ∈ plainVoidTags ∧ children = [])))

def decidableArePlain : (ns : List SnapshotNode) → Decidable (ArePlain ns)
  | [] => isTrue trivial
  | n :: ns =>
    have := decidableIsPlain n
    have := decidableArePlain ns
    inferInstanceAs (Decidable (n.IsPlain ∧ (n.isText → ns.head?.any isText = false) ∧ ArePlain ns))

end

instance (ns : List SnapshotNode) : Decidable (ArePlain ns) := decidableArePlain ns

/-- A page with an empty head and a body of plain nodes. -/
def IsPlainPage (n : SnapshotNode) : Prop :=
  ∃ attributes bodyAttributes children,
    n = .element "html" attributes
      [.element "head" ∅ [] none, .element "body" bodyAttributes children none] none ∧
    ArePlainAttributes attributes ∧ ArePlainAttributes bodyAttributes ∧ ArePlain children

end SnapshotNode

namespace Html

/-- Markup that a builder reads up to its end, whatever follows. -/
structure Reads (cs : List Char) (b next : Builder) : Prop where
  notMem : '\r' ∉ cs
  build : ∀ fuel rest, (cs ++ rest).length ≤ fuel → ∃ less, rest.length ≤ less ∧
    build fuel .markup (cs ++ rest) b = Html.build less .markup rest next

namespace Reads

variable {cs ds : List Char} {b c next : Builder}

theorem refl (b : Builder) : Reads [] b b := ⟨List.not_mem_nil, fun fuel _ h ↦ ⟨fuel, h, rfl⟩⟩

theorem trans (h : Reads cs b c) (h' : Reads ds c next) : Reads (cs ++ ds) b next where
  notMem hmem := (List.mem_append.1 hmem).elim h.notMem h'.notMem
  build fuel rest hfuel := by
    rw [List.append_assoc] at hfuel ⊢
    obtain ⟨less, hless, hbuild⟩ := h.build fuel (ds ++ rest) hfuel
    obtain ⟨least, hleast, hrest⟩ := h'.build less rest hless
    exact ⟨least, hleast, hbuild.trans hrest⟩

variable {stage stage' : Stage} {stack stack' : List OpenElement} {draft draft' : Draft}

theorem of_token {t : Token} (hcs : cs ≠ []) (hmem : '\r' ∉ cs)
    (hscan : ∀ limit foreign rest, cs.length ≤ limit →
      scan limit foreign .markup (cs ++ rest) = ⟨[t], .markup, rest⟩)
    (h : b.At stage stack draft) (h' : (b.feed t).At stage' stack' draft') :
    Reads cs b (b.feed t) where
  notMem := hmem
  build fuel rest hfuel := by
    obtain ⟨c, cs, rfl⟩ := List.exists_cons_of_ne_nil hcs
    have hsame : { b with reading := none, dropsLineFeed := false } = b := by
      rw [← h.dropsLineFeed, ← h.reading]
    rw [List.cons_append, List.length_cons, List.length_append] at hfuel
    obtain ⟨less, rfl⟩ := Nat.exists_eq_add_one_of_ne_zero (show fuel ≠ 0 by omega)
    refine ⟨less, by omega, ?_⟩
    have hread (foreign : Bool) : scan (less + 1) foreign .markup (c :: (cs ++ rest)) =
        ⟨[t], .markup, rest⟩ := hscan _ foreign rest (by rw [List.length_cons]; omega)
    rw [List.cons_append, Html.build, hread, h.dropsLineFeed, Bool.false_and, hsame,
      List.foldl_cons, List.foldl_nil, h'.reading]
    rfl

end Reads

section Tokens

variable {b : Builder} {stage stage' : Stage} {stack stack' : List OpenElement}
  {draft draft' : Draft} {tag : String}

theorem reads_startTag (htag : IsName tag) {attributes : OrderedMap String}
    (hplain : SnapshotNode.ArePlainAttributes attributes) (h : b.At stage stack draft)
    (h' : (b.feed (.startTag ⟨tag, attributes.entries, false⟩)).At stage' stack' draft') :
    Reads (startTag tag attributes.entries).toList b
      (b.feed (.startTag ⟨tag, attributes.entries, false⟩)) := by
  refine .of_token (by rw [toList_startTag]; exact List.cons_ne_nil _ _)
    (notMem_startTag htag hplain)
    (fun limit foreign rest hlimit ↦ ?_) h h'
  exact scan_startTag htag hplain attributes.nodup rest hlimit foreign

theorem reads_endTag (htag : IsName tag) (h : b.At stage stack draft)
    (h' : (b.feed (.endTag tag)).At stage' stack' draft') :
    Reads (endTag tag).toList b (b.feed (.endTag tag)) := by
  refine .of_token (by rw [toList_endTag]; exact List.cons_ne_nil _ _) (notMem_endTag htag)
    (fun limit foreign rest hlimit ↦ ?_) h h'
  exact scan_endTag htag rest hlimit foreign

end Tokens

section Body

open PageOutline.Html.Builder (IsPlainStack feed_char feed_startTag feed_voidTag feed_endTag)

variable {b : Builder} {e : OpenElement} {es : List OpenElement} {draft : Draft}

theorem reads_char {c : Char} (hc : c ≠ '\x00' ∧ c ≠ '\r') (h : b.At .inBody (e :: es) draft)
    (hstack : IsPlainStack (e :: es)) : Reads (escapeTextChar c) b (b.feed (.char c)) := by
  refine .of_token ?_ (notMem_escapeTextChar hc.2)
    (fun limit foreign rest _ ↦ scan_text c rest limit foreign) h (feed_char h hstack hc.1)
  unfold escapeTextChar
  split_ifs <;> exact List.cons_ne_nil _ _

theorem reads_chars {cs : List Char} (hcs : ∀ c ∈ cs, c ≠ '\x00' ∧ c ≠ '\r')
    (h : b.At .inBody (e :: es) draft) (hstack : IsPlainStack (e :: es)) :
    ∃ next, Reads (cs.flatMap escapeTextChar) b next ∧
      next.At .inBody (e :: es) (cs.foldl (fun d c ↦ d.appendChar e.id c) draft) := by
  induction cs generalizing b draft with
  | nil => exact ⟨b, .refl b, h⟩
  | cons c cs ih =>
    rw [List.forall_mem_cons] at hcs
    obtain ⟨next, hreads, hnext⟩ := ih hcs.2 (feed_char h hstack hcs.1.1)
    exact ⟨next, (reads_char hcs.1 h hstack).trans hreads, hnext⟩

theorem reads_text {s : String} (hne : s ≠ "") (hs : IsKept s) (h : b.At .inBody (e :: es) draft)
    (hstack : IsPlainStack (e :: es)) (he : e.id < draft.size)
    (hends : draft.textEnds e.id = false) :
    ∃ next, Reads (escapeText s).toList b next ∧
      next.At .inBody (e :: es) (draft.add (.last e.id) (.text s)) := by
  obtain ⟨next, hreads, hnext⟩ := reads_chars hs h hstack
  have hdraft : s.toList.foldl (fun d c ↦ d.appendChar e.id c) draft =
      draft.add (.last e.id) (.text s) := by
    rcases hcs : s.toList with _ | ⟨c, cs⟩
    · exact absurd (String.toList_eq_nil_iff.1 hcs) hne
    · have hs : String.singleton c ++ String.ofList cs = s := by
        refine String.toList_inj.1 ?_
        simp [hcs]
      rw [List.foldl_cons, Draft.appendChar_of_not_textEnds hends, Draft.foldl_appendChar he, hs]
  rw [hdraft] at hnext
  rw [toList_escapeText]
  exact ⟨next, hreads, hnext⟩

theorem isName_of_mem_plainTags {tag : String} (h : tag ∈ plainTags) :
    IsName tag ∧ tag ≠ "p" ∧ Markup.voidTags.contains tag = false := by
  have hall : ∀ tag ∈ plainTags, IsName tag ∧ tag ≠ "p" ∧ Markup.voidTags.contains tag = false := by
    decide
  exact hall tag h

theorem isName_of_mem_plainVoidTags {tag : String} (h : tag ∈ plainVoidTags) :
    IsName tag ∧ Markup.voidTags.contains tag = true := by
  have hall : ∀ tag ∈ plainVoidTags, IsName tag ∧ Markup.voidTags.contains tag = true := by
    decide
  exact hall tag h

mutual

theorem reads_tree {t : Tree} (ht : t.snapshot.IsPlain) {b : Builder} {e : OpenElement}
    {es : List OpenElement} {draft : Draft} (h : b.At .inBody (e :: es) draft)
    (hstack : IsPlainStack (e :: es)) (he : e.id < draft.size)
    (hends : t.snapshot.isText → draft.textEnds e.id = false) :
    ∃ next grown, Reads t.markup.toList b next ∧ next.At .inBody (e :: es) grown ∧
      Grows Draft.label e.id [t.snapshot] draft.arena grown.arena := by
  match t with
  | .text x s =>
    obtain ⟨next, hreads, hnext⟩ := reads_text ht.1 ht.2 h hstack he (hends rfl)
    exact ⟨next, _, hreads, hnext, .of_adds_text (Draft.adds_add he (.text s))⟩
  | .element x tag attributes children =>
    obtain ⟨-, hattributes, hkind⟩ := ht
    have hadds := Draft.adds_add he (Draft.label (.element tag attributes))
    rcases hkind with ⟨htag, hchildren⟩ | ⟨htag, hnone⟩
    · -- Between its tags the element is on top of the stack, and its number is the draft's size.
      obtain ⟨hname, hp, hvoid⟩ := isName_of_mem_plainTags htag
      have hstart : (⟨tag, attributes.entries, false⟩ : Tag).name ∈ plainTags := htag
      have hopened := feed_startTag h hstack hstart
      have hopen := reads_startTag hname hattributes h hopened
      have hinner := hstack.cons hp draft.size
      have hsize := Draft.lt_size_add (Nat.le_refl draft.size) e.id
        (.element .html tag attributes.entries)
      obtain ⟨next, grown, hreads, hnext, hgrows⟩ := reads_forest hchildren hopened hinner hsize
        fun _ ↦ Draft.textEnds_of_children_eq_nil (Draft.children_of_arena hadds.new)
      have hclosed := feed_endTag hnext hinner htag
      have hclose := reads_endTag hname hnext hclosed
      refine ⟨_, grown, ?_, hclosed, .of_adds_element he hadds hgrows none⟩
      rw [Tree.markup, hvoid, if_neg Bool.false_ne_true, String.toList_append, String.toList_append]
      exact hopen.trans (hreads.trans hclose)
    · obtain ⟨hname, hvoid⟩ := isName_of_mem_plainVoidTags htag
      have hstart : (⟨tag, attributes.entries, false⟩ : Tag).name ∈ plainVoidTags := htag
      have hdone := feed_voidTag h hstack hstart
      refine ⟨_, _, ?_, hdone, ?_⟩
      · rw [Tree.markup, hvoid, if_pos rfl, String.append_empty]
        exact reads_startTag hname hattributes h hdone
      · rw [Tree.snapshot, hnone]
        exact .of_adds_element he hadds (.refl _) none

theorem reads_forest {ts : List Tree} (hts : SnapshotNode.ArePlain (Tree.snapshotAll ts))
    {b : Builder} {e : OpenElement} {es : List OpenElement} {draft : Draft}
    (h : b.At .inBody (e :: es) draft) (hstack : IsPlainStack (e :: es)) (he : e.id < draft.size)
    (hends : (Tree.snapshotAll ts).head?.any SnapshotNode.isText → draft.textEnds e.id = false) :
    ∃ next grown, Reads (Tree.markupAll ts).toList b next ∧ next.At .inBody (e :: es) grown ∧
      Grows Draft.label e.id (Tree.snapshotAll ts) draft.arena grown.arena := by
  match ts with
  | [] => exact ⟨b, draft, .refl b, h, .refl _⟩
  | t :: ts =>
    obtain ⟨ht, hapart, hts⟩ := hts
    obtain ⟨next, grown, hreads, hnext, hgrows⟩ := reads_tree ht h hstack he hends
    have hsize : e.id < grown.size := Nat.lt_of_lt_of_le he hgrows.le
    -- A text is followed by an element, and an element leaves no text at the end.
    have hlater : (Tree.snapshotAll ts).head?.any SnapshotNode.isText →
        grown.textEnds e.id = false := by
      intro htext
      cases hkind : t.snapshot with
      | text s =>
        rw [hkind] at hapart
        rw [hapart rfl] at htext
        cases htext
      | element tag attributes children box =>
        rw [hkind] at hgrows
        obtain ⟨content, ids, hnode⟩ := Draft.exists_node he
        exact Draft.textEnds_of_grows hnode hgrows
    obtain ⟨last, wide, hreads', hlast, hgrows'⟩ := reads_forest hts hnext hstack hsize hlater
    refine ⟨last, wide, ?_, hlast, hgrows.trans he hgrows'⟩
    rw [Tree.markupAll, String.toList_append]
    exact hreads.trans hreads'

end

end Body

section Page

theorem normalizeLines_eq {cs : List Char} (h : '\r' ∉ cs) : normalizeLines cs = cs := by
  induction cs with
  | nil => rfl
  | cons c cs ih =>
    rw [List.mem_cons, not_or] at h
    rw [normalizeLines, ih h.2]
    · exact fun _ hc _ ↦ h.1 hc.symm
    · exact fun hc ↦ h.1 hc.symm

theorem build_nil (fuel : Nat) (reading : Reading) (b : Builder) : build fuel reading [] b = b := by
  cases fuel <;> rfl

mutual

theorem isShown_of_isPlain {n : SnapshotNode} (h : n.IsPlain) : n.isShown := by
  match n with
  | .text s => rfl
  | .element tag attributes children box =>
    obtain ⟨rfl, -, hkind⟩ := h
    have hall : ∀ tag ∈ plainTags ++ plainVoidTags, hiddenTags.contains tag = false := by decide
    have htag : tag ∈ plainTags ++ plainVoidTags :=
      List.mem_append.2 (hkind.imp And.left And.left)
    have hchildren : SnapshotNode.isShownAll children := by
      rcases hkind with ⟨-, hplain⟩ | ⟨-, rfl⟩
      · exact isShownAll_of_arePlain hplain
      · rfl
    rw [SnapshotNode.isShown, hall tag htag, hchildren]
    rfl

theorem isShownAll_of_arePlain {ns : List SnapshotNode} (h : SnapshotNode.ArePlain ns) :
    SnapshotNode.isShownAll ns := by
  match ns with
  | [] => rfl
  | n :: ns =>
    rw [SnapshotNode.isShownAll, isShown_of_isPlain h.1, isShownAll_of_arePlain h.2.2]
    rfl

end

open PageOutline.Html.Builder (IsPlainStack feed_html feed_head feed_endHead feed_body feed_endBody
  feed_endHtml)

variable {b : Builder} {e : OpenElement} {es : List OpenElement} {draft : Draft}
  {attributes bodyAttributes : OrderedMap String} {ts : List Tree}

theorem plainAttributes_empty : SnapshotNode.ArePlainAttributes ∅ := List.forall_mem_nil _

theorem reads_head (h : b.At .beforeHead (e :: es) draft) (hstack : IsPlainStack (e :: es))
    (he : e.id < draft.size) (x : NodeId) :
    ∃ next grown, Reads (Tree.element x "head" ∅ []).markup.toList b next ∧
      next.At .afterHead (e :: es) grown ∧
      Grows Draft.label e.id [.element "head" ∅ [] none] draft.arena grown.arena := by
  have hname : IsName "head" := by decide
  have hinner := hstack.cons (show "head" ≠ "p" by decide) draft.size
  have hopened := feed_head h hstack
  have hclosed := feed_endHead hopened hinner
  have hreads := (reads_startTag hname plainAttributes_empty h hopened).trans
    (reads_endTag hname hopened hclosed)
  have hadds := Draft.adds_add he (Draft.label (.element "head" ∅))
  refine ⟨_, _, ?_, hclosed, .of_adds_element he hadds (.refl _) none⟩
  rw [← String.toList_append] at hreads
  exact hreads

theorem reads_body (hbody : SnapshotNode.ArePlainAttributes bodyAttributes)
    (hts : SnapshotNode.ArePlain (Tree.snapshotAll ts)) (h : b.At .afterHead (e :: es) draft)
    (hstack : IsPlainStack (e :: es)) (he : e.id < draft.size) (x : NodeId) :
    ∃ next grown, Reads (Tree.element x "body" bodyAttributes ts).markup.toList b next ∧
      next.At .afterBody (⟨draft.size, .html, "body"⟩ :: e :: es) grown ∧
      Grows Draft.label e.id [.element "body" bodyAttributes (Tree.snapshotAll ts) none]
        draft.arena grown.arena := by
  have hname : IsName "body" := by decide
  have hinner := hstack.cons (show "body" ≠ "p" by decide) draft.size
  have hadds := Draft.adds_add he (Draft.label (.element "body" bodyAttributes))
  have hsize := Draft.lt_size_add (Nat.le_refl draft.size) e.id
    (.element .html "body" bodyAttributes.entries)
  have hopened := feed_body h hstack bodyAttributes.entries
  obtain ⟨next, grown, hreads, hnext, hgrows⟩ := reads_forest hts hopened hinner hsize
    fun _ ↦ Draft.textEnds_of_children_eq_nil (Draft.children_of_arena hadds.new)
  have hclosed := feed_endBody hnext hinner rfl
  refine ⟨_, grown, ?_, hclosed, .of_adds_element he hadds hgrows none⟩
  have hall := (reads_startTag hname hbody h hopened).trans
    (hreads.trans (reads_endTag hname hnext hclosed))
  rw [← String.toList_append, ← String.toList_append] at hall
  exact hall

theorem reads_page (hplain : SnapshotNode.ArePlainAttributes attributes)
    (hbody : SnapshotNode.ArePlainAttributes bodyAttributes)
    (hts : SnapshotNode.ArePlain (Tree.snapshotAll ts)) (x y z : NodeId) :
    ∃ next stack grown,
      Reads (Tree.element x "html" attributes
        [.element y "head" ∅ [], .element z "body" bodyAttributes ts]).markup.toList .start next ∧
      next.At .afterAfterBody stack grown ∧ IsPlainStack stack ∧
      Grows Draft.label Draft.document [.element "html" attributes [.element "head" ∅ [] none,
        .element "body" bodyAttributes (Tree.snapshotAll ts) none] none] Draft.empty.arena
        grown.arena := by
  have hname : IsName "html" := by decide
  have hstart : Builder.start.At .initial [] Draft.empty := ⟨rfl, rfl, rfl, rfl, rfl, rfl, rfl⟩
  have hstack : IsPlainStack [⟨1, .html, "html"⟩] := by simp [IsPlainStack]
  have hroot : Draft.document < Draft.empty.size := Nat.zero_lt_one
  have hadds := Draft.adds_add hroot (Draft.label (.element "html" attributes))
  have hopened := feed_html attributes.entries
  have hsize := Draft.lt_size_add (d := Draft.empty) (Nat.le_refl 1) Draft.document
    (.element .html "html" attributes.entries)
  obtain ⟨b₂, d₂, hreads₂, h₂, hgrows₂⟩ := reads_head hopened hstack hsize y
  have hsize₂ : 1 < d₂.size := Nat.lt_of_lt_of_le hsize hgrows₂.le
  obtain ⟨b₃, d₃, hreads₃, h₃, hgrows₃⟩ := reads_body hbody hts h₂ hstack hsize₂ z
  have hinner := hstack.cons (show "body" ≠ "p" by decide) d₂.size
  have hclosed := feed_endHtml h₃ hinner
  refine ⟨_, _, d₃, ?_, hclosed, hinner,
    .of_adds_element hroot hadds (hgrows₂.trans hsize hgrows₃) none⟩
  have htext : (Tree.element x "html" attributes
      [.element y "head" ∅ [], .element z "body" bodyAttributes ts]).markup =
      startTag "html" attributes.entries ++ (((Tree.element y "head" ∅ []).markup ++
        (Tree.element z "body" bodyAttributes ts).markup) ++ endTag "html") := by
    rw [← String.append_empty (s := (Tree.element z "body" bodyAttributes ts).markup)]
    rfl
  rw [htext, String.toList_append, String.toList_append, String.toList_append]
  exact (reads_startTag hname hplain hstart hopened).trans
    ((hreads₂.trans hreads₃).trans (reads_endTag hname h₃ hclosed))

theorem parse_of_reads {text : String} {cs : List Char} (htext : text.toList = '<' :: cs)
    {next : Builder} {stack : List OpenElement} {draft : Draft}
    (hreads : Reads text.toList .start next) (h : next.At .afterAfterBody stack draft)
    (hstack : IsPlainStack stack) : parse text = draft.toNodes := by
  have hparse : parse text = ((build (normalizeLines text.toList).length .markup
      (normalizeLines text.toList) .start).feed .finish).draft.toNodes := by
    unfold parse
    rw [htext]
    rfl
  obtain ⟨less, -, hbuild⟩ := hreads.build text.toList.length [] (by rw [List.append_nil])
  rw [List.append_nil, build_nil] at hbuild
  rw [hparse, normalizeLines_eq hreads.notMem, hbuild, Builder.feed_finish h hstack, h.draft]

theorem renderedRoot_parse {t : Tree} (h : t.snapshot.IsPlainPage) :
    (renderedRoot (parse t.markup)).toNode = t.snapshot := by
  obtain ⟨attributes, bodyAttributes, children, hpage, hplain, hbody, hchildren⟩ := h
  obtain ⟨x, ts, rfl, hts⟩ := Tree.snapshot_eq_element hpage
  obtain ⟨u, us, rfl, hu, hus⟩ := Tree.snapshotAll_eq_cons hts
  obtain ⟨v, vs, rfl, hv, hvs⟩ := Tree.snapshotAll_eq_cons hus
  obtain rfl := Tree.snapshotAll_eq_nil hvs
  obtain ⟨y, us, rfl, hus⟩ := Tree.snapshot_eq_element hu
  obtain rfl := Tree.snapshotAll_eq_nil hus
  obtain ⟨z, vs, rfl, rfl⟩ := Tree.snapshot_eq_element hv
  obtain ⟨next, stack, grown, hreads, hnext, hstack, hgrows⟩ :=
    reads_page hplain hbody hchildren x y z
  obtain ⟨added, hroot, hshows⟩ := hgrows.below .document [] rfl
  have htext : ∃ cs, (Tree.element x "html" attributes
      [.element y "head" ∅ [], .element z "body" bodyAttributes vs]).markup.toList = '<' :: cs := by
    rw [Tree.markup, String.toList_append, toList_startTag]
    exact ⟨_, rfl⟩
  obtain ⟨cs, hcs⟩ := htext
  have hnodes : grown.toNodes = _ := Draft.forest_eq hroot hshows (Nat.le_add_left ..)
  have hshown : SnapshotNode.isShownAll [.element "head" ∅ [] none,
      .element "body" bodyAttributes (Tree.snapshotAll vs) none] := by
    simp only [SnapshotNode.isShownAll, SnapshotNode.isShown, isShownAll_of_arePlain hchildren]
    decide
  rw [parse_of_reads hcs hreads hnext hstack, hnodes, hpage]
  rw [SnapshotNode.toHtmlAll, SnapshotNode.toHtml, renderedRoot, OrderedMap.ofList_entries,
    SnapshotNode.renderedAll_toHtmlAll hshown]
  rfl

end Page

end Html

namespace Document

/-- A page that is read from its own markup is the same document. -/
theorem ofHtml_markup {s : Snapshot} (hs : s.toNode.boxless)
    (hpage : ((ofSnapshot s).tree root).snapshot.IsPlainPage) :
    ofHtml ((ofSnapshot s).markup root) = ofSnapshot s := by
  have hread := Html.renderedRoot_parse hpage
  rw [snapshot_tree_ofSnapshot hs] at hread
  have hsame : renderedRoot (Html.parse ((ofSnapshot s).markup root)) =
      ⟨Text.asciiLower s.tag, s.attributes.lowered, SnapshotNode.storedAll s.children, none⟩ := by
    obtain ⟨htag, hattributes, hchildren, hbox⟩ := SnapshotNode.element.inj hread
    exact Snapshot.mk.injEq .. ▸ ⟨htag, hattributes, hchildren, hbox⟩
  rw [ofHtml, hsame]
  exact ofSnapshot_stored hs

def lookalikePage : Snapshot where
  tag := "HTML"
  attributes := .ofList [("Lang", "en")]
  children := [.element "head" ∅ [] none,
    .element "body" (.ofList [("title", "\"</body>\" & <br>"), ("CLASS", "")])
      [.text "\n a &amp; b",
        .element "DIV" ∅ [.element "input" (.ofList [("value", "&lt")]) [] none,
          .element "span" ∅ [.text "</div>"] none] none,
        .text "<!-- -->"] none]
  box := none

theorem ofHtml_markup_lookalikePage :
    lookalikePage.toNode.boxless ∧
    ((ofSnapshot lookalikePage).tree root).snapshot.IsPlainPage ∧
    ofHtml ((ofSnapshot lookalikePage).markup root) = ofSnapshot lookalikePage := by
  have hboxless : lookalikePage.toNode.boxless := by decide
  have hpage : ((ofSnapshot lookalikePage).tree root).snapshot.IsPlainPage := by
    rw [snapshot_tree_ofSnapshot hboxless]
    exact ⟨_, _, _, rfl, by decide +kernel, by decide +kernel, by decide +kernel⟩
  exact ⟨hboxless, hpage, ofHtml_markup hboxless hpage⟩

end Document

end PageOutline
