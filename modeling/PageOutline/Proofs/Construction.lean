import PageOutline.Html.Construction
import PageOutline.Proofs.Drafting
import PageOutline.Proofs.Scanning

namespace PageOutline.Html

def plainTags : List String := ["div", "section", "main", "span"]

def plainVoidTags : List String := ["img", "input", "br"]

namespace Builder

/-- Where a builder has come, as far as the tokens of a plain page ask for it. -/
structure At (b : Builder) (stage : Stage) (stack : List OpenElement) (draft : Draft) : Prop where
  stage : b.stage = stage
  stack : b.stack = stack
  draft : b.draft = draft
  formatting : b.formatting = []
  fostering : b.fostering = false
  dropsLineFeed : b.dropsLineFeed = false
  reading : b.reading = none

def IsPlainStack (stack : List OpenElement) : Prop :=
  ∀ e ∈ stack, e.vocabulary = .html ∧ e.name ≠ "p"

variable {b : Builder} {stage : Stage} {stack : List OpenElement} {draft : Draft}

theorem IsPlainStack.cons (h : IsPlainStack stack) {name : String} (hname : name ≠ "p") (id : Nat) :
    IsPlainStack (⟨id, .html, name⟩ :: stack) :=
  List.forall_mem_cons.2 ⟨⟨rfl, hname⟩, h⟩

theorem IsPlainStack.isHtml {e : OpenElement} (h : IsPlainStack (e :: stack)) :
    e.isHtml e.name := by
  simp [OpenElement.isHtml, (h e List.mem_cons_self).1]

theorem isForeign_of_plain (hstack : IsPlainStack stack) (h : b.At stage stack draft) (t : Token) :
    isForeign t b = false := by
  unfold isForeign
  rw [h.stack]
  cases stack with
  | nil => rfl
  | cons e es =>
    have hhtml := (hstack e List.mem_cons_self).1
    simp [hhtml]

theorem feed_eq (h : b.At stage stack draft) {t : Token} (ht : ∀ d, t ≠ .doctype d) :
    b.feed t = process t (16 + 8 * b.stack.length) b := by
  have hsame : { b with dropsLineFeed := false } = b := by
    rw [← h.dropsLineFeed]
  unfold feed
  rw [h.dropsLineFeed, Bool.false_and, hsame]
  cases t with
  | doctype d => exact absurd rfl (ht d)
  | _ => rfl

theorem feed_of_done (h : b.At stage stack draft) (hstack : IsPlainStack stack) {t : Token}
    (ht : ∀ d, t ≠ .doctype d) {next : Builder} (hstep : step t b = .done next) :
    b.feed t = next := by
  rw [feed_eq h ht, Nat.add_comm, process, isForeign_of_plain hstack h]
  simp only [Bool.false_eq_true, if_false, hstep]

theorem At.place (h : b.At stage stack draft) {e : OpenElement} (he : stack.head? = some e) :
    b.place = .last e.id := by
  unfold Builder.place
  rw [h.stack]
  cases stack with
  | nil => cases he
  | cons f fs =>
    obtain rfl := Option.some.inj he
    change b.placeIn f = _
    unfold placeIn
    rw [h.fostering, Bool.false_and]
    rfl

theorem At.reopenFormatting (h : b.At stage stack draft) : b.reopenFormatting = b := by
  unfold Builder.reopenFormatting
  rw [h.formatting]
  change { b with formatting := [] } = b
  rw [← h.formatting]

theorem At.forbidFrameset (h : b.At stage stack draft) : b.forbidFrameset.At stage stack draft :=
  ⟨h.stage, h.stack, h.draft, h.formatting, h.fostering, h.dropsLineFeed, h.reading⟩

theorem At.goTo (h : b.At stage stack draft) (next : Stage) : (b.goTo next).At next stack draft :=
  ⟨rfl, h.stack, h.draft, h.formatting, h.fostering, h.dropsLineFeed, h.reading⟩

theorem At.pop {e : OpenElement} (h : b.At stage (e :: stack) draft) : b.pop.At stage stack draft :=
  ⟨h.stage, by rw [Builder.pop, h.stack]; rfl, h.draft, h.formatting, h.fostering, h.dropsLineFeed,
    h.reading⟩

theorem At.insertVoid {e : OpenElement} (h : b.At stage (e :: stack) draft) (tag : Tag) :
    (b.insertVoid tag).At stage (e :: stack)
      (draft.add (.last e.id) (.element .html tag.name tag.attributes)) := by
  refine ⟨h.stage, h.stack, ?_, h.formatting, h.fostering, h.dropsLineFeed, h.reading⟩
  have hplace : b.place = .last e.id := h.place rfl
  change Draft.add b.place _ b.draft = _
  rw [hplace, h.draft]

theorem At.openHtml {e : OpenElement} (h : b.At stage (e :: stack) draft) (tag : Tag) :
    (b.openHtml tag).At stage (⟨draft.size, .html, tag.name⟩ :: e :: stack)
      (draft.add (.last e.id) (.element .html tag.name tag.attributes)) := by
  have hinsert := h.insertVoid tag
  refine ⟨h.stage, ?_, hinsert.draft, h.formatting, h.fostering, h.dropsLineFeed, h.reading⟩
  change (⟨b.draft.size, .html, tag.name⟩ : OpenElement) :: b.stack = _
  rw [h.draft, h.stack]

theorem At.insertChar {e : OpenElement} (h : b.At stage (e :: stack) draft) (c : Char) :
    (b.insertChar c).At stage (e :: stack) (draft.appendChar e.id c) := by
  refine ⟨h.stage, h.stack, ?_, h.formatting, h.fostering, h.dropsLineFeed, h.reading⟩
  have hplace : b.place = .last e.id := h.place rfl
  change Draft.addChar b.place c b.draft = _
  rw [hplace, h.draft]
  rfl

theorem At.closeParagraph (h : b.At stage stack draft) (hstack : IsPlainStack stack) :
    b.closeParagraph = b := by
  have hnone (es : List OpenElement) (hes : IsPlainStack es) :
      outside? (·.isHtml "p") OpenElement.shieldsInButton es = none := by
    induction es with
    | nil => rfl
    | cons e es ih =>
      have hname := (hes e List.mem_cons_self).2
      have hrest := ih fun f hf ↦ hes f (List.mem_cons_of_mem e hf)
      rw [outside?, hrest]
      simp [OpenElement.isHtml, hname]
  unfold Builder.closeParagraph close close?
  rw [h.stack, hnone stack hstack]
  rfl

theorem At.close {e : OpenElement} (h : b.At stage (e :: stack) draft)
    {target shield : OpenElement → Bool} (he : target e) :
    (b.close target shield).At stage stack draft := by
  have hclose : b.close target shield = { b with stack } := by
    unfold Builder.close close?
    rw [h.stack, outside?, if_pos he]
    rfl
  rw [hclose]
  exact ⟨h.stage, rfl, h.draft, h.formatting, h.fostering, h.dropsLineFeed, h.reading⟩

section Frame

variable {e : OpenElement} {es : List OpenElement}

theorem feed_html (attributes : List (String × String)) :
    (start.feed (.startTag ⟨"html", attributes, false⟩)).At .beforeHead [⟨1, .html, "html"⟩]
      (Draft.empty.add (.last Draft.document) (.element .html "html" attributes)) :=
  ⟨rfl, rfl, rfl, rfl, rfl, rfl, rfl⟩

theorem feed_head (h : b.At .beforeHead (e :: es) draft) (hstack : IsPlainStack (e :: es)) :
    (b.feed (.startTag (.ofName "head"))).At .inHead (⟨draft.size, .html, "head"⟩ :: e :: es)
      (draft.add (.last e.id) (.element .html "head" [])) := by
  have hstep : step (.startTag (.ofName "head")) b = .done (b.openHead (.ofName "head")) := by
    unfold step
    rw [h.stage]
    rfl
  have hopen := h.openHtml (.ofName "head")
  rw [feed_of_done h hstack (by rintro d ⟨⟩) hstep]
  exact ⟨rfl, hopen.stack, hopen.draft, h.formatting, h.fostering, h.dropsLineFeed, h.reading⟩

theorem feed_endHead (h : b.At .inHead (e :: es) draft) (hstack : IsPlainStack (e :: es)) :
    (b.feed (.endTag "head")).At .afterHead es draft := by
  have hstep : step (.endTag "head") b = .done (b.pop.goTo .afterHead) := by
    unfold step
    rw [h.stage]
    rfl
  rw [feed_of_done h hstack (by rintro d ⟨⟩) hstep]
  exact h.pop.goTo .afterHead

theorem feed_body (h : b.At .afterHead (e :: es) draft) (hstack : IsPlainStack (e :: es))
    (attributes : List (String × String)) :
    (b.feed (.startTag ⟨"body", attributes, false⟩)).At .inBody
      (⟨draft.size, .html, "body"⟩ :: e :: es)
      (draft.add (.last e.id) (.element .html "body" attributes)) := by
  have hstep : step (.startTag ⟨"body", attributes, false⟩) b =
      .done ((b.openHtml ⟨"body", attributes, false⟩).forbidFrameset.goTo .inBody) := by
    unfold step
    rw [h.stage]
    rfl
  rw [feed_of_done h hstack (by rintro d ⟨⟩) hstep]
  exact ((h.openHtml _).forbidFrameset).goTo .inBody

theorem feed_endBody (h : b.At .inBody (e :: es) draft) (hstack : IsPlainStack (e :: es))
    (he : e.name = "body") : (b.feed (.endTag "body")).At .afterBody (e :: es) draft := by
  have hbody : inScope (·.isHtml "body") OpenElement.shields b.stack := by
    have hself : e.isHtml "body" := he ▸ hstack.isHtml
    rw [h.stack, inScope, outside?, if_pos hself]
    rfl
  have hstep : step (.endTag "body") b = .done (b.goTo .afterBody) := by
    unfold step
    rw [h.stage]
    unfold inBody
    rw [hbody]
    rfl
  rw [feed_of_done h hstack (by rintro d ⟨⟩) hstep]
  exact h.goTo .afterBody

theorem feed_endHtml (h : b.At .afterBody stack draft) (hstack : IsPlainStack stack) :
    (b.feed (.endTag "html")).At .afterAfterBody stack draft := by
  have hstep : step (.endTag "html") b = .done (b.goTo .afterAfterBody) := by
    unfold step
    rw [h.stage]
    rfl
  rw [feed_of_done h hstack (by rintro d ⟨⟩) hstep]
  exact h.goTo .afterAfterBody

theorem feed_finish (h : b.At .afterAfterBody stack draft) (hstack : IsPlainStack stack) :
    b.feed .finish = b := by
  refine feed_of_done h hstack (by rintro d ⟨⟩) ?_
  unfold step
  rw [h.stage]
  rfl

end Frame

section Body

theorem step_eq (h : b.At .inBody stack draft) (t : Token) : step t b = inBody t b := by
  unfold step
  rw [h.stage]

variable {e : OpenElement} {es : List OpenElement} (h : b.At .inBody (e :: es) draft)
  (hstack : IsPlainStack (e :: es))

include h hstack

theorem feed_char {c : Char} (hc : c ≠ '\x00') :
    (b.feed (.char c)).At .inBody (e :: es) (draft.appendChar e.id c) := by
  have hchar : b.charInBody c = (if isSpace c then b else b.forbidFrameset).insertChar c := by
    unfold charInBody
    rw [if_neg hc, h.reopenFormatting]
  have hfeed : b.feed (.char c) = b.charInBody c :=
    feed_of_done h hstack (by rintro d ⟨⟩) (step_eq h _)
  rw [hfeed, hchar]
  split
  · exact h.insertChar c
  · exact h.forbidFrameset.insertChar c

theorem feed_startTag {tag : Tag} (htag : tag.name ∈ plainTags) :
    (b.feed (.startTag tag)).At .inBody (⟨draft.size, .html, tag.name⟩ :: e :: es)
      (draft.add (.last e.id) (.element .html tag.name tag.attributes)) := by
  have hstart : b.startInBody tag = b.openHtml tag := by
    obtain ⟨name, attributes, selfClosing⟩ := tag
    have hname : name = "div" ∨ name = "section" ∨ name = "main" ∨ name = "span" := by
      simpa [plainTags] using htag
    rcases hname with rfl | rfl | rfl | rfl
    · exact congrArg (openHtml · _) (h.closeParagraph hstack)
    · exact congrArg (openHtml · _) (h.closeParagraph hstack)
    · exact congrArg (openHtml · _) (h.closeParagraph hstack)
    · exact congrArg (openHtml · _) h.reopenFormatting
  have hfeed : b.feed (.startTag tag) = b.startInBody tag :=
    feed_of_done h hstack (by rintro d ⟨⟩) (step_eq h _)
  rw [hfeed, hstart]
  exact h.openHtml tag

theorem feed_voidTag {tag : Tag} (htag : tag.name ∈ plainVoidTags) :
    (b.feed (.startTag tag)).At .inBody (e :: es)
      (draft.add (.last e.id) (.element .html tag.name tag.attributes)) := by
  have hinsert := h.insertVoid tag
  have hstart : b.startInBody tag = b.insertVoid tag ∨
      b.startInBody tag = (b.insertVoid tag).forbidFrameset := by
    obtain ⟨name, attributes, selfClosing⟩ := tag
    have hname : name = "img" ∨ name = "input" ∨ name = "br" := by
      simpa [plainVoidTags] using htag
    rcases hname with rfl | rfl | rfl
    · exact .inr (congrArg (fun b ↦ (insertVoid b _).forbidFrameset) h.reopenFormatting)
    · have hinput : b.startInBody ⟨"input", attributes, selfClosing⟩ =
          if isHidden ⟨"input", attributes, selfClosing⟩ then
            b.reopenFormatting.insertVoid ⟨"input", attributes, selfClosing⟩
          else (b.reopenFormatting.insertVoid ⟨"input", attributes, selfClosing⟩).forbidFrameset :=
        rfl
      rw [hinput, h.reopenFormatting]
      split
      · exact .inl rfl
      · exact .inr rfl
    · exact .inr (congrArg (fun b ↦ (insertVoid b _).forbidFrameset) h.reopenFormatting)
  have hfeed : b.feed (.startTag tag) = b.startInBody tag :=
    feed_of_done h hstack (by rintro d ⟨⟩) (step_eq h _)
  rw [hfeed]
  rcases hstart with hstart | hstart <;> rw [hstart]
  · exact hinsert
  · exact hinsert.forbidFrameset

theorem feed_endTag (htag : e.name ∈ plainTags) :
    (b.feed (.endTag e.name)).At .inBody es draft := by
  have hself : e.isHtml e.name := hstack.isHtml
  have hname : e.name = "div" ∨ e.name = "section" ∨ e.name = "main" ∨ e.name = "span" := by
    simpa [plainTags] using htag
  have hdone : inBody (.endTag e.name) b = .done (b.endInBody e.name) := by
    rcases hname with hname | hname | hname | hname <;> rw [hname] <;> rfl
  have hend : b.endInBody e.name = b.close (·.isHtml e.name) OpenElement.shields ∨
      b.endInBody e.name = b.close (·.isHtml e.name) OpenElement.isSpecial := by
    rcases hname with hname | hname | hname | hname <;> rw [hname]
    · exact .inl rfl
    · exact .inl rfl
    · exact .inl rfl
    · exact .inr rfl
  rw [feed_of_done h hstack (by rintro d ⟨⟩) ((step_eq h _).trans hdone)]
  rcases hend with hend | hend <;> rw [hend]
  · exact h.close hself
  · exact h.close hself

end Body

end Builder

end PageOutline.Html
