import PageOutline.Proofs.Drafting
import PageOutline.Proofs.StageRules

namespace PageOutline.Html

section Names

theorem isUpper_loweredShown (c : Char) : (loweredShown c).isUpper = false := by
  unfold loweredShown shown
  split
  · decide
  · exact isUpper_toLower c

theorem isLowered_loweredShown (cs : List Char) :
    IsLowered (String.ofList (cs.map loweredShown)) := by
  intro c hc
  rw [String.toList_ofList] at hc
  obtain ⟨b, -, rfl⟩ := List.mem_map.1 hc
  exact isUpper_loweredShown b

theorem isLowered_attribute? {limit : Nat} {cs r : List Char} {a : String × String}
    (h : attribute? limit cs = some (a, r)) : IsLowered a.1 := by
  cases cs with
  | nil => cases h
  | cons c cs =>
    rw [attribute?] at h
    dsimp only at h
    split at h
    · obtain ⟨e, -, he⟩ := Option.map_eq_some_iff.1 h
      cases he
      exact isLowered_loweredShown _
    · cases h
      exact isLowered_loweredShown _

theorem isLowered_attributes {limit : Nat} {found found' : List (String × String)}
    {cs r : List Char} {selfClosing : Bool} (hfound : ∀ a ∈ found, IsLowered a.1)
    (h : attributes limit found cs = some (found', selfClosing, r)) :
    ∀ a ∈ found', IsLowered a.1 := by
  induction limit generalizing found cs with
  | zero => cases h
  | succ limit ih =>
    rw [attributes] at h
    split at h
    · cases h
    · cases h
      exact hfound
    · cases h
      exact hfound
    · exact ih hfound h
    · split at h
      · next a r hread =>
        refine ih ?_ h
        unfold addAttribute
        split
        · exact hfound
        · exact List.forall_mem_append.2
            ⟨hfound, List.forall_mem_singleton.2 (isLowered_attribute? hread)⟩
      · cases h

theorem lowered_tag? {limit : Nat} {cs r : List Char} {tag : Tag}
    (h : tag? limit cs = some (tag, r)) : tag.Lowered := by
  obtain ⟨⟨found, selfClosing, r⟩, hread, he⟩ := Option.map_eq_some_iff.1 h
  cases he
  exact ⟨isLowered_loweredShown _, isLowered_attributes (List.forall_mem_nil _) hread⟩

def Scanned.Lowered (s : Scanned) : Prop := ∀ t ∈ s.tokens, t.Lowered

theorem lowered_chars {f : Char → Char} {cs : List Char} :
    ∀ t ∈ cs.map fun c ↦ Token.char (f c), t.Lowered := by
  intro t ht
  obtain ⟨c, -, rfl⟩ := List.mem_map.1 ht
  trivial

theorem lowered_tagToken (limit : Nat) (token : Tag → Token)
    (htoken : ∀ tag, tag.Lowered → (token tag).Lowered) (cs : List Char) :
    (tagToken limit token cs).Lowered := by
  unfold tagToken
  split
  · next tag r hread => exact List.forall_mem_singleton.2 (htoken tag (lowered_tag? hread))
  · exact List.forall_mem_nil _

theorem lowered_endTagToken (limit : Nat) (cs : List Char) : (endTagToken limit cs).Lowered :=
  lowered_tagToken limit (fun tag ↦ .endTag tag.name) (fun _ _ ↦ trivial) cs

theorem lowered_commentToken (s rest : List Char) : (commentToken s rest).Lowered :=
  List.forall_mem_singleton.2 trivial

theorem lowered_declaration (foreign : Bool) (cs : List Char) :
    (declaration foreign cs).Lowered := by
  unfold declaration
  split
  · exact lowered_commentToken _ _
  · exact List.forall_mem_singleton.2 trivial
  · split
    · exact lowered_chars (f := id)
    · exact lowered_commentToken _ _

theorem lowered_closing (limit : Nat) (cs : List Char) : (closing limit cs).Lowered := by
  unfold closing
  split
  · exact List.forall_mem_cons.2 ⟨trivial, List.forall_mem_singleton.2 trivial⟩
  · exact List.forall_mem_nil _
  · split
    · exact lowered_endTagToken _ _
    · exact lowered_commentToken _ _

theorem lowered_opening (limit : Nat) (foreign : Bool) (cs : List Char) :
    (opening limit foreign cs).Lowered := by
  unfold opening
  split
  · exact List.forall_mem_singleton.2 trivial
  · exact lowered_closing _ _
  · exact lowered_declaration _ _
  · exact lowered_commentToken _ _
  · split
    · exact lowered_tagToken limit .startTag (fun _ ht ↦ ht) _
    · exact List.forall_mem_singleton.2 trivial

theorem lowered_scriptBracket (limit : Nat) (part : ScriptPart) (r : List Char) :
    (scriptBracket limit part r).Lowered := by
  unfold scriptBracket
  cases part with
  | plain =>
    dsimp only
    split
    · exact lowered_endTagToken _ _
    · split <;> exact lowered_chars
  | comment dashes =>
    dsimp only
    split
    · exact lowered_endTagToken _ _
    · split <;> exact lowered_chars
  | nested dashes =>
    dsimp only
    split <;> exact lowered_chars

theorem lowered_endTagOr (limit : Nat) (name : String) (reading : Reading) (r : List Char) :
    (endTagOr limit name reading r).Lowered := by
  unfold endTagOr
  split
  · exact lowered_endTagToken _ _
  · exact List.forall_mem_singleton.2 trivial

theorem lowered_referenceTokens (reading : Reading) (cs : List Char) :
    (referenceTokens reading cs).Lowered :=
  lowered_chars (f := id)

theorem lowered_scan (limit : Nat) (foreign : Bool) (reading : Reading) (cs : List Char) :
    (scan limit foreign reading cs).Lowered := by
  have hchar (c : Char) (reading : Reading) (rest : List Char) :
      (Scanned.mk [.char c] reading rest).Lowered := List.forall_mem_singleton.2 trivial
  cases cs with
  | nil =>
    cases reading <;> exact List.forall_mem_nil _
  | cons c r =>
    cases reading with
    | markup =>
      rw [scan]
      split
      · exact lowered_opening _ _ _
      · split
        · exact lowered_referenceTokens _ _
        · exact hchar _ _ _
    | text name =>
      rw [scan]
      split
      · exact lowered_endTagOr _ _ _ _
      · split
        · exact lowered_referenceTokens _ _
        · exact hchar _ _ _
    | rawText name =>
      rw [scan]
      split
      · exact lowered_endTagOr _ _ _ _
      · exact hchar _ _ _
    | script part =>
      rw [scan]
      split
      · exact lowered_scriptBracket _ _ _
      · exact lowered_chars
    | plainText => exact hchar _ _ _

end Names

theorem DraftContent.lowered_of_kind {content : DraftContent} (h : content.kind = none) :
    content.Lowered := by
  cases content with
  | element vocabulary name attributes => cases h
  | document => trivial
  | text s => trivial
  | comment s => trivial
  | doctype d => trivial

theorem Draft.kind?_add_last {d : Draft} {p : Nat} (hp : p < d.size) (content : DraftContent)
    (x : Nat) : (d.add (.last p) content).kind? x =
      if x = d.size then some content.kind else d.kind? x := by
  rw [kind?, getElem?_add hp]
  split
  · rfl
  · rw [Option.map_map, kind?]
    refine congrArg (fun f ↦ Option.map f _) (funext fun n ↦ ?_)
    dsimp only [Function.comp_apply]
    split <;> rfl

namespace Builder

variable {b : Builder} {t : Token}

structure Bare (b : Builder) : Prop where
  stage : b.stage = .initial ∨ b.stage = .beforeHtml
  stack : b.stack = []
  formatting : b.formatting = []
  head : b.head = none
  document : b.draft.kind? Draft.document = some none
  kind : ∀ id k, b.draft.kind? id = some k → k = none
  children : ∀ x ∈ b.draft.children Draft.document, b.draft.kind? x = some none

/-- Nothing has come yet, or the document element is there. -/
def Built (b : Builder) : Prop := b.Bare ∨ ∃ h, b.Sound h

theorem bare_start : start.Bare where
  stage := .inl rfl
  stack := rfl
  formatting := rfl
  head := rfl
  document := rfl
  kind id k hk := by
    obtain ⟨n, hn, rfl⟩ := Option.map_eq_some_iff.1 hk
    obtain ⟨hid, rfl⟩ := Array.getElem?_eq_some_iff.1 hn
    obtain rfl : id = 0 := Nat.lt_one_iff.1 hid
    rfl
  children := List.forall_mem_nil _

theorem Bare.built (hb : b.Bare) : b.Built := .inl hb

theorem Sound.built {h : Nat} (hb : b.Sound h) : b.Built := .inr ⟨h, hb⟩

namespace Bare

variable (hb : b.Bare)

include hb

theorem document_lt : Draft.document < b.draft.size := by
  obtain ⟨n, hn, -⟩ := Option.map_eq_some_iff.1 hb.document
  exact (Array.getElem?_eq_some_iff.1 hn).1

theorem lowered : b.draft.Lowered := by
  intro n hn
  obtain ⟨id, hid, rfl⟩ := Array.mem_iff_getElem.1 hn
  have hkind := hb.kind id _ (congrArg (Option.map _) (Array.getElem?_eq_getElem hid))
  exact DraftContent.lowered_of_kind hkind

theorem insertInto {content : DraftContent} (hc : content.kind = none) :
    (b.insertInto Draft.document content).Bare := by
  have hkind := Draft.kind?_add_last hb.document_lt content
  refine { hb with document := ?_, kind := ?_, children := ?_ }
  · exact (hkind _).trans ((if_neg (Nat.ne_of_lt hb.document_lt)).trans hb.document)
  · intro id k hk
    have hk := (hkind id).symm.trans hk
    split at hk
    · cases hk
      exact hc
    · exact hb.kind id k hk
  · intro x hx
    refine (hkind x).trans ?_
    split
    · rw [hc]
    · next hne =>
      rcases List.mem_append.1 (Draft.children_add hb.document_lt content ▸ hx) with hx | hx
      · exact hb.children x hx
      · exact absurd (List.mem_singleton.1 hx) hne

theorem openHtml {tag : Tag} (ht : tag.Lowered) (hname : tag.name = "html") :
    (b.openHtml tag).Sound b.draft.size := by
  have hplace : b.place = .last Draft.document := by
    rw [place, hb.stack]
  have hdraft : (b.openHtml tag).draft =
      b.draft.add (.last Draft.document) (.element .html tag.name tag.attributes) := by
    rw [← hplace]
    rfl
  have hstack : (b.openHtml tag).stack = [⟨b.draft.size, .html, tag.name⟩] :=
    congrArg (_ :: ·) hb.stack
  have hkind (x : Nat) : (b.openHtml tag).draft.kind? x =
      if x = b.draft.size then some (some (.html, "html")) else b.draft.kind? x := by
    rw [hdraft, Draft.kind?_add_last hb.document_lt, ← hname]
    rfl
  have hne (x : Nat) (k : Option (Vocabulary × String)) (hx : b.draft.kind? x = some k) :
      x ≠ b.draft.size := by
    obtain ⟨n, hn, -⟩ := Option.map_eq_some_iff.1 hx
    exact Nat.ne_of_lt (Array.getElem?_eq_some_iff.1 hn).1
  have hkept (x : Nat) (hx : b.draft.kind? x = some none) :
      (b.openHtml tag).draft.kind? x = some none := by
    rw [hkind, if_neg (hne x none hx), hx]
  have helement : (b.openHtml tag).draft.kind? b.draft.size = some (some (.html, "html")) := by
    rw [hkind, if_pos rfl]
  refine ⟨hkept _ hb.document, helement, ?_, ?_, ?_, ?_, ?_, ?_⟩
  · refine ⟨b.draft.children Draft.document, [], ?_, fun x hx ↦ hkept x (hb.children x hx)⟩
    rw [hdraft, Draft.children_add hb.document_lt]
  · have hcontent : DraftContent.Lowered (.element .html tag.name tag.attributes) := ht
    have hfits : b.draft.Fits b.draft.size (.last Draft.document) := trivial
    rw [hdraft]
    exact (Draft.keeps_add hfits hcontent).lowered hb.lowered
  · rw [hstack, List.forall_mem_singleton, Draft.Knows, helement, hname]
  · rw [hstack]
    exact List.pairwise_singleton ..
  · intro e he
    cases (show b.head = some e from he).symm.trans hb.head
  · intro f hf
    have hf : f ∈ b.formatting := hf
    rw [hb.formatting] at hf
    cases hf

theorem initial (t : Token) : (Builder.initial t b).All Built := by
  have hentered : { b with oldModel := true, stage := .beforeHtml }.Built :=
    .inl { hb with stage := .inr rfl }
  cases t with
  | char c => exact .ite hb.built hentered
  | comment s => exact (hb.insertInto rfl).built
  | doctype d =>
    have hcontent : DraftContent.kind (.doctype d) = none := rfl
    exact .inl { hb.insertInto hcontent with stage := .inr rfl }
  | startTag tag => exact hentered
  | endTag name => exact hentered
  | finish => exact hentered

theorem enter : ((b.openNamed "html").goTo .beforeHead).Sound b.draft.size :=
  (hb.openHtml (Tag.lowered_ofName (by decide)) rfl).goTo _

theorem beforeHtml (ht : t.Lowered) : (Builder.beforeHtml t b).All Built := by
  have hentered := hb.enter.built
  cases t with
  | char c => exact .ite hb.built hentered
  | comment s => exact (hb.insertInto rfl).built
  | startTag tag =>
    change (if tag.name = "html" then _ else _ : Outcome).All Built
    split
    · next hname => exact ((hb.openHtml ht hname).goTo _).built
    · exact hentered
  | endTag name => exact .ite hentered hb.built
  | doctype d => exact hb.built
  | finish => exact hentered

end Bare

theorem Built.step (hb : b.Built) (ht : t.Lowered) :
    (if isForeign t b then inForeign t b else step t b).All Built := by
  rcases hb with hb | ⟨h, hb⟩
  · have hforeign : isForeign t b = false := by
      rw [isForeign, hb.stack]
    rw [hforeign, Builder.step]
    rcases hb.stage with hs | hs
    · rw [hs]
      exact hb.initial t
    · rw [hs]
      exact hb.beforeHtml ht
  · refine .ite ?_ ?_
    · exact (hb.inForeign ht).imp fun _ hb ↦ hb.built
    · exact (hb.step ht).imp fun _ hb ↦ hb.built

theorem process_of_step {P : Builder → Prop}
    (hstep : ∀ b, P b → (if isForeign t b then inForeign t b else step t b).All P) (hb : P b)
    (fuel : Nat) : P (process t fuel b) := by
  induction fuel generalizing b with
  | zero => exact hb
  | succ fuel ih =>
    have hnext := hstep b hb
    rw [process]
    split
    · next c hc =>
      rw [hc] at hnext
      exact hnext
    · next c hc =>
      rw [hc] at hnext
      exact ih hnext

theorem Built.feed (hb : b.Built) (ht : t.Lowered) : (b.feed t).Built := by
  have hready : { b with dropsLineFeed := false }.Built := by
    rcases hb with hb | ⟨h, hb⟩
    · exact .inl { hb with }
    · exact .inr ⟨h, { hb with }⟩
  unfold Builder.feed
  dsimp only
  split
  · split
    · exact process_of_step (fun _ hb ↦ Built.step hb ht) hready _
    · exact hready
  · split
    · exact hready
    · exact process_of_step (fun _ hb ↦ Built.step hb ht) hready _

theorem built_build (fuel : Nat) (reading : Reading) (cs : List Char) (hb : b.Built) :
    (build fuel reading cs b).Built := by
  induction fuel generalizing reading cs b with
  | zero => exact hb
  | succ fuel ih =>
    cases cs with
    | nil => exact hb
    | cons c cs =>
      rw [build]
      refine ih _ _ (List.foldlRecOn _ _ ?_ fun b hb t ht ↦ ?_)
      · rcases hb with hb | ⟨h, hb⟩
        · exact .inl { hb with }
        · exact .inr ⟨h, { hb with }⟩
      · exact Built.feed hb (lowered_scan _ _ _ _ t ht)

theorem Sound.finish {h : Nat} (hb : b.Sound h) (fuel : Nat) :
    (Builder.process .finish fuel b).Sound h :=
  process_of_step (fun _ hb ↦ .ite (hb.inForeign trivial) (hb.step trivial)) hb fuel

theorem Bare.process_finish (hb : b.Bare) (fuel : Nat) :
    Builder.process .finish (fuel + 1) b = Builder.process .finish fuel
      (if b.stage = .initial then { b with oldModel := true, stage := .beforeHtml }
        else (b.openNamed "html").goTo .beforeHead) := by
  have hforeign : isForeign .finish b = false := by
    rw [isForeign, hb.stack]
  rw [Builder.process, hforeign, Builder.step]
  rcases hb.stage with hs | hs <;> rw [hs] <;> rfl

theorem Built.finish (hb : b.Built) : ∃ h, (b.feed .finish).Sound h := by
  have hfeed : b.feed .finish =
      Builder.process .finish (16 + 8 * b.stack.length) { b with dropsLineFeed := false } := by
    have hdropped : (b.dropsLineFeed && Token.finish == .char '\n') = false :=
      Bool.and_false _
    unfold Builder.feed
    dsimp only
    rw [hdropped]
    rfl
  rw [hfeed]
  rcases hb with hb | ⟨h, hb⟩
  · have hready : { b with dropsLineFeed := false }.Bare := { hb with }
    have hfuel : 16 + 8 * b.stack.length = 16 := by
      rw [hb.stack, List.length_nil]
    rw [hfuel, hready.process_finish 15]
    split
    · have hentered : Bare { b with
          dropsLineFeed := false, oldModel := true, stage := .beforeHtml } :=
        { hb with stage := .inr rfl }
      rw [hentered.process_finish 14]
      exact ⟨_, hentered.enter.finish 14⟩
    · exact ⟨_, hready.enter.finish 15⟩
  · have hready : { b with dropsLineFeed := false }.Sound h := { hb with }
    exact ⟨h, hready.finish _⟩

end Builder

section Reading

def Node.isElement : Node → Bool
  | .element .. => true
  | .text _ | .comment _ | .doctype _ => false

inductive Node.Lowered : Node → Prop
  | element {vocabulary : Vocabulary} {name : String} {attributes : List (String × String)}
      {children : List Node} (hname : IsLowered name)
      (hattributes : ∀ a ∈ attributes, IsLowered a.1) (hchildren : ∀ c ∈ children, c.Lowered) :
      Lowered (.element vocabulary name attributes children)
  | text (s : String) : Lowered (.text s)
  | comment (s : String) : Lowered (.comment s)
  | doctype (d : Doctype) : Lowered (.doctype d)

namespace Draft

variable {d : Draft}

def nodeTo (d : Draft) (depth child : Nat) : Option Node :=
  match (d.nodes[child]?).map DraftNode.content with
  | some (.element vocabulary name attributes) =>
    some (.element vocabulary name attributes (d.forest depth child))
  | some (.text s) => some (.text s)
  | some (.comment s) => some (.comment s)
  | some (.doctype doctype) => some (.doctype doctype)
  | some .document | none => none

theorem forest_succ (d : Draft) (depth id : Nat) :
    d.forest (depth + 1) id = (d.children id).filterMap (d.nodeTo depth) := rfl

theorem lowered_of_mem_forest (h : d.Lowered) {depth id : Nat} {n : Node}
    (hn : n ∈ d.forest depth id) : n.Lowered := by
  induction depth generalizing id n with
  | zero => cases hn
  | succ depth ih =>
    rw [forest_succ] at hn
    obtain ⟨child, -, hchild⟩ := List.mem_filterMap.1 hn
    rw [nodeTo] at hchild
    split at hchild
    · next vocabulary name attributes hcontent =>
      obtain ⟨entry, hentry, he⟩ := Option.map_eq_some_iff.1 hcontent
      have hnames := h entry (Array.mem_of_getElem? hentry)
      rw [he] at hnames
      cases hchild
      exact .element hnames.1 hnames.2 fun c hc ↦ ih hc
    · cases hchild
      exact .text _
    · cases hchild
      exact .comment _
    · cases hchild
      exact .doctype _
    · cases hchild
    · cases hchild

theorem isElement_nodeTo {depth child : Nat} (h : d.kind? child = some none) :
    ∀ n ∈ d.nodeTo depth child, n.isElement = false := by
  intro n hn
  obtain ⟨entry, hentry, hkind⟩ := Option.map_eq_some_iff.1 h
  rw [Option.mem_def, nodeTo, hentry, Option.map_some] at hn
  cases hcontent : entry.content with
  | document => rw [hcontent] at hn; cases hn
  | element vocabulary name attributes => rw [hcontent] at hkind; cases hkind
  | text s => rw [hcontent] at hn; cases hn; rfl
  | comment s => rw [hcontent] at hn; cases hn; rfl
  | doctype doctype => rw [hcontent] at hn; cases hn; rfl

theorem nodeTo_of_kind? {depth child : Nat} {vocabulary : Vocabulary} {name : String}
    (h : d.kind? child = some (some (vocabulary, name))) : ∃ attributes,
      d.nodeTo depth child =
        some (.element vocabulary name attributes (d.forest depth child)) := by
  obtain ⟨⟨content, parent, children⟩, hentry, hkind⟩ := Option.map_eq_some_iff.1 h
  cases content with
  | element vocabulary' name' attributes =>
    cases hkind
    exact ⟨attributes, by rw [nodeTo, hentry]; rfl⟩
  | document => cases hkind
  | text s => cases hkind
  | comment s => cases hkind
  | doctype doctype => cases hkind

end Draft

theorem exists_html_parse (text : String) : ∃ before attributes children after,
    parse text = before ++ .element .html "html" attributes children :: after ∧
      (∀ n ∈ before, n.isElement = false) ∧
      (Node.element .html "html" attributes children).Lowered := by
  obtain ⟨cs, hparse⟩ : ∃ cs : List Char, parse text =
      ((build cs.length .markup cs .start).feed .finish).draft.toNodes := ⟨_, rfl⟩
  obtain ⟨h, hb⟩ :=
    (Builder.built_build cs.length .markup cs Builder.bare_start.built).finish
  set d := ((build cs.length .markup cs .start).feed .finish).draft
  obtain ⟨before, after, hchildren, hbefore⟩ := hb.leads
  obtain ⟨entry, hentry, -⟩ := Option.map_eq_some_iff.1 hb.document
  have hpos : 0 < d.size := (Array.getElem?_eq_some_iff.1 hentry).1
  obtain ⟨depth, hdepth⟩ := Nat.exists_eq_add_one_of_ne_zero hpos.ne'
  obtain ⟨attributes, helement⟩ := Draft.nodeTo_of_kind? hb.element
  have hnodes : parse text = before.filterMap (d.nodeTo depth) ++
      .element .html "html" attributes (d.forest depth h) :: after.filterMap (d.nodeTo depth) := by
    rw [hparse, Draft.toNodes, hdepth, Draft.forest_succ, hchildren, List.filterMap_append,
      List.filterMap_cons, helement]
  refine ⟨_, attributes, _, _, hnodes, ?_, ?_⟩
  · intro n hn
    obtain ⟨child, hchild, hn⟩ := List.mem_filterMap.1 hn
    exact Draft.isElement_nodeTo (hbefore child hchild) n hn
  · have hmem : Node.element .html "html" attributes (d.forest depth h) ∈
        d.forest (depth + 1) Draft.document := by
      rw [Draft.forest_succ, hchildren]
      exact List.mem_filterMap.2 ⟨h, List.mem_append_right _ (List.mem_cons_self ..), helement⟩
    exact Draft.lowered_of_mem_forest hb.lowered hmem

end Reading

end PageOutline.Html
