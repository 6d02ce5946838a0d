import PageOutline.Proofs.PageSelection
import Mathlib.Data.List.Infix

namespace PageOutline

namespace Text

/-- Whether a word with cased characters goes up to a place and not past it. The text before the
place comes last character first. -/
def endsWord (before after : List Char) : Bool :=
  startsCased before && !startsCased after

def lowerAt (before after : List Char) (c : Char) : List Char :=
  if c = 'Σ' then if endsWord before after then ['ς'] else ['σ'] else lowerChar c

/-- The lowercase of a text that stands between two others, the first one last character first. -/
def lowerBetween (before after : List Char) : List Char → List Char
  | [] => []
  | c :: r => lowerAt before (r ++ after) c ++ lowerBetween (c :: before) after r

variable {before after before' after' cs : List Char}

theorem lowerAfter_cons (c : Char) (r : List Char) :
    lowerAfter before (c :: r) = lowerAt before r c ++ lowerAfter (c :: before) r := by
  simp only [lowerAfter, lowerAt, endsWord, beq_iff_eq]
  rfl

/-- Lowering goes through a text part by part, where each part stands between the others. -/
theorem lowerAfter_append (before cs ds : List Char) :
    lowerAfter before (cs ++ ds) =
      lowerBetween before ds cs ++ lowerAfter (cs.reverse ++ before) ds := by
  induction cs generalizing before with
  | nil => rfl
  | cons c r ih =>
    rw [List.cons_append, lowerAfter_cons, ih, lowerBetween, List.append_assoc, List.reverse_cons,
      List.append_assoc, List.singleton_append]

theorem lowerAfter_eq_lowerBetween : lowerAfter before cs = lowerBetween before [] cs := by
  have h := lowerAfter_append before cs []
  rwa [List.append_nil, lowerAfter, List.append_nil] at h

theorem length_lowerAt (c : Char) :
    (lowerAt before after c).length = (lowerAt before' after' c).length := by
  simp only [lowerAt, apply_ite List.length, List.length_singleton, ite_self]

theorem lowerAt_eq_iff (c : Char) : lowerAt before after c = lowerAt before' after' c ↔
    (c = 'Σ' → endsWord before after = endsWord before' after') := by
  by_cases h : c = 'Σ'
  · simp only [lowerAt, h, if_true, true_imp_iff]
    cases endsWord before after <;> cases endsWord before' after' <;> decide
  · simp [lowerAt, h]

/-- A text lowers to the same in two places iff each of its capital sigmas ends a word in both of
them or in none. -/
theorem lowerBetween_eq_iff :
    lowerBetween before after cs = lowerBetween before' after' cs ↔ ∀ p s, cs = p ++ 'Σ' :: s →
      endsWord (p.reverse ++ before) (s ++ after) =
        endsWord (p.reverse ++ before') (s ++ after') := by
  induction cs generalizing before before' with
  | nil => simp [lowerBetween]
  | cons c r ih =>
    have hsplit : lowerBetween before after (c :: r) = lowerBetween before' after' (c :: r) ↔
        lowerAt before (r ++ after) c = lowerAt before' (r ++ after') c ∧
          lowerBetween (c :: before) after r = lowerBetween (c :: before') after' r :=
      ⟨fun h ↦ List.append_inj h (length_lowerAt c), fun h ↦ congrArg₂ _ h.1 h.2⟩
    rw [hsplit, lowerAt_eq_iff, ih]
    constructor
    · intro ⟨hc, hr⟩ p s hps
      cases p with
      | nil =>
        obtain ⟨hsigma, rfl⟩ := List.cons.inj hps
        exact hc hsigma
      | cons c' p =>
        obtain ⟨rfl, htail⟩ := List.cons.inj hps
        simpa using hr p s htail
    · intro h
      refine ⟨?_, fun p s hps ↦ ?_⟩
      · intro hsigma
        exact h [] r (by rw [hsigma, List.nil_append])
      · simpa using h (c :: p) s (by rw [hps, List.cons_append])

theorem lowerChar_ne_nil (c : Char) : lowerChar c ≠ [] := by
  unfold lowerChar
  split
  · simp
  · split
    · simp
    · split <;> simp

theorem lowerAfter_eq_nil_iff : lowerAfter before cs = [] ↔ cs = [] := by
  cases cs with
  | nil => simp [lowerAfter]
  | cons c r =>
    have hlow : lowerAt before r c ≠ [] := by
      unfold lowerAt
      split
      · split <;> simp
      · exact lowerChar_ne_nil c
    simp [lowerAfter_cons, hlow]

variable {α : Type} [BEq α] [LawfulBEq α]

theorem occursIn_iff {part l : List α} : occursIn part l = true ↔ part <:+: l := by
  induction l with
  | nil => simp [occursIn]
  | cons c cs ih =>
    rw [occursIn, Bool.or_eq_true, ih, List.infix_cons_iff, List.isPrefixOf_iff_prefix]

end Text

open Text

theorem containsLowered_append {u needle v : String}
    (hsigma : ∀ p s, needle.toList = p ++ 'Σ' :: s →
      endsWord (p.reverse ++ u.toList.reverse) (s ++ v.toList) = endsWord p.reverse s) :
    containsLowered (u ++ needle ++ v) needle = true := by
  have hlow : lowerBetween u.toList.reverse v.toList needle.toList =
      lowerAfter [] needle.toList := by
    rw [lowerAfter_eq_lowerBetween, lowerBetween_eq_iff]
    simpa using hsigma
  rw [containsLowered, occursIn_iff]
  simp only [lowercase, String.toList_ofList, String.toList_append, List.append_assoc,
    lowerAfter_append, List.append_nil, hlow]
  exact List.infix_append' ..

namespace PageRule

variable {σ : Type} [LivePage σ]

/-- A rule for a text holds on every page where the text of the first element that is found holds
the one asked for, with each capital sigma of it at the end of a word in both or in none. -/
theorem holds_text_of_append {page p₁ p₂ p₃ : σ} {root found : NodeId} {rest : List NodeId}
    {selector u needle v : String}
    (hroot : (LivePage.root : Access σ NodeId) page = (.ok root, p₁))
    (hquery : LivePage.query root selector false p₁ = (.ok (found :: rest), p₂))
    (htext : LivePage.text found p₂ = (.ok (u ++ needle ++ v), p₃))
    (hsigma : ∀ p s, needle.toList = p ++ 'Σ' :: s →
      endsWord (p.reverse ++ u.toList.reverse) (s ++ v.toList) = endsWord p.reverse s)
    (location : String) :
    (PageRule.text selector (some needle)).holds location page = (.ok true, p₃) := by
  have hfirst : LivePage.queryFirst root selector p₁ = (.ok (some found), p₂) := by
    rw [LivePage.queryFirst, Access.bind_of_ok hquery]
    rfl
  rw [holds, Access.bind_of_ok hroot, Access.bind_of_ok hfirst]
  change (LivePage.text found >>= fun t ↦ pure (containsLowered t needle)) p₂ = (.ok true, p₃)
  rw [Access.bind_of_ok htext, containsLowered_append hsigma]
  rfl

def headedPage (heading : String) : Document :=
  ((Document.new "body").appendElement Document.root "h1").appendText 1 heading

theorem holds_text_of_append_headedPage :
    let page := headedPage "İ ΟΔΥΣΣεύΣ ΚΑΙ ΣΑΣ!"
    page.query Document.root "h1" false = .ok [1] ∧
    page.reply (.text 1) = .ok ("İ ΟΔΥΣ" ++ "ΣεύΣ ΚΑΙ ΣΑΣ" ++ "!") ∧
    (∀ p s, "ΣεύΣ ΚΑΙ ΣΑΣ".toList = p ++ 'Σ' :: s →
      endsWord (p.reverse ++ "İ ΟΔΥΣ".toList.reverse) (s ++ "!".toList) = endsWord p.reverse s) ∧
    (PageRule.text "h1" (some "ΣεύΣ ΚΑΙ ΣΑΣ")).holds "/" page = (.ok true, page) := by
  intro page
  have hquery : page.query Document.root "h1" false = .ok [1] :=
    eq_ok_of_toOption (by decide +kernel)
  have htext : page.reply (.text 1) = .ok ("İ ΟΔΥΣ" ++ "ΣεύΣ ΚΑΙ ΣΑΣ" ++ "!") := by
    rfl
  have hsigma (p s : List Char) (h : "ΣεύΣ ΚΑΙ ΣΑΣ".toList = p ++ 'Σ' :: s) :
      endsWord (p.reverse ++ "İ ΟΔΥΣ".toList.reverse) (s ++ "!".toList) =
        endsWord p.reverse s := by
    have hlow : lowerBetween "İ ΟΔΥΣ".toList.reverse "!".toList "ΣεύΣ ΚΑΙ ΣΑΣ".toList =
        lowerBetween [] [] "ΣεύΣ ΚΑΙ ΣΑΣ".toList := by
      decide +kernel
    simpa using lowerBetween_eq_iff.1 hlow p s h
  have hasked : LivePage.query Document.root "h1" false page = (.ok [1], page) :=
    Prod.ext hquery rfl
  exact ⟨hquery, htext, hsigma, holds_text_of_append rfl hasked (Prod.ext htext rfl) hsigma "/"⟩

/-- A rule can fail on a text that has the one asked for in the midst of a word. -/
theorem not_forall_holds_text_of_append :
    ¬∀ (d : Document) (selector u needle v : String) (found : NodeId) (rest : List NodeId),
      d.query Document.root selector false = .ok (found :: rest) →
        d.reply (.text found) = .ok (u ++ needle ++ v) →
          ((PageRule.text selector (some needle)).holds "/" d).1 = .ok true := by
  intro hall
  have hholds := hall (headedPage "ΑΣΑ") "h1" "" "ΑΣ" "Α" 1 []
    (eq_ok_of_toOption (by decide +kernel)) (by rfl)
  have hfails : (PageRule.text "h1" (some "ΑΣ")).fits "/" (headedPage "ΑΣΑ") = false := by
    decide +kernel
  rw [← Bool.not_eq_true, fits_iff] at hfails
  exact hfails hholds

end PageRule

end PageOutline
