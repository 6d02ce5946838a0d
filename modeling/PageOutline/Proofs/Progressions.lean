import PageOutline.Proofs.JsonText
import PageOutline.Proofs.ScopedQuery
import PageOutline.Proofs.Siblings

namespace PageOutline

namespace Css

open Component (leaf block)
open Json.Parser (exists_toDigits_eq_cons hexValue_of_isDigit isDigit_of_mem_toDigits)
open Lexer
open Text (ofDigits asciiLower)

theorem wrap_of_lt {n : Nat} (h : n < 2 ^ 31) : wrap n = n := by
  unfold wrap
  exact Int.bmod_eq_of_le (by omega) (by omega)

theorem quotient?_zero (n : Int) : quotient? n 0 = none := if_pos (.inl rfl)

theorem quotient?_of_ne_zero {n d : Int} (hlower : -wordBound < n) (hupper : n < wordBound)
    (hd : d ≠ 0) : quotient? n d = some (n.tdiv d) := by
  have hle := Int.natAbs_tdiv_le_natAbs n d
  rw [quotient?, if_neg]
  omega

/-- The test is by division, but its outcome is membership in the progression, for all distances
that can be computed. -/
theorem onProgression_iff {step offset index : Int} (h : -wordBound < index - offset) :
    onProgression step offset index ↔
      index - offset < wordBound ∧ ∃ k : Nat, index = step * k + offset := by
  unfold onProgression
  dsimp only
  by_cases hbound : wordBound ≤ index - offset
  · rw [if_pos (.inr hbound)]
    exact iff_of_false Bool.false_ne_true fun h ↦ absurd hbound (Int.not_le.2 h.1)
  rw [if_neg (by omega), and_iff_right (Int.not_le.1 hbound)]
  by_cases hstep : step = 0
  · subst hstep
    simp only [quotient?_zero, decide_eq_true_iff]
    constructor
    · exact fun hdistance ↦ ⟨0, by omega⟩
    · rintro ⟨k, hk⟩
      omega
  · simp only [quotient?_of_ne_zero h (Int.not_le.1 hbound) hstep, decide_eq_true_iff]
    constructor
    · rintro ⟨hpos, heq⟩
      refine ⟨((index - offset).tdiv step).toNat, ?_⟩
      rw [Int.toNat_of_nonneg hpos]
      omega
    · rintro ⟨k, hk⟩
      have hdistance : index - offset = step * k := by omega
      have hquotient : (step * (k : Int)).tdiv step = k := Int.mul_tdiv_cancel_left k hstep
      rw [hdistance, hquotient]
      exact ⟨Int.natCast_nonneg k, rfl⟩

def nthText (a b : Int) : String :=
  toString a ++ "n" ++ (if b < 0 then "" else "+") ++ toString b

def nthFunction (fromEnd : Bool) : String := if fromEnd then "nth-last-child" else "nth-child"

def nthSelector (fromEnd : Bool) (a b : Int) : String :=
  ":" ++ nthFunction fromEnd ++ "(" ++ nthText a b ++ ")"

example : nthSelector false (-2) 7 = ":nth-child(-2n+7)" := by decide
example : nthSelector true 3 (-1) = ":nth-last-child(3n-1)" := by decide

section Decimal

theorem ofDigits_toDigits (n : Nat) : ofDigits 10 (Nat.toDigits 10 n) = n := by
  have hfold (ds : List Char) (m : Nat) (hds : ∀ d ∈ ds, d.isDigit) :
      ds.foldl (fun n c ↦ n * 10 + Text.hexValue c) m = Nat.ofDigitChars 10 ds m := by
    induction ds generalizing m with
    | nil => simp
    | cons d ds ih =>
      rw [List.forall_mem_cons] at hds
      rw [List.foldl_cons, ih _ hds.2, Nat.ofDigitChars_cons, hexValue_of_isDigit hds.1,
        Nat.mul_comm m]
  rw [ofDigits, hfold _ _ (isDigit_of_mem_toDigits n), Nat.ofDigitChars_ten_toDigits]

theorem toList_toString_of_nonneg {n : Int} (h : 0 ≤ n) :
    (toString n).toList = Nat.toDigits 10 n.toNat := by
  obtain ⟨m, rfl⟩ := Int.eq_ofNat_of_zero_le h
  exact Nat.toList_repr

theorem toList_toString_of_neg {n : Int} (h : n < 0) :
    (toString n).toList = '-' :: Nat.toDigits 10 n.natAbs := by
  obtain ⟨m, rfl⟩ := Int.eq_negSucc_of_lt_zero h
  have hrepr : toString (Int.negSucc m) = "-" ++ (m + 1).repr := rfl
  rw [hrepr, String.toList_append, Nat.toList_repr]
  rfl

theorem clamp_of_lt {n : Int} (h : |n| < 2 ^ 30) : clamp n = n := by
  rw [abs_lt] at h
  rw [clamp, if_neg, if_neg] <;> unfold wordBound <;> omega

end Decimal

section Tokens

theorem numericAfterSign_toDigits (sign : Option Char) (n : Nat) {stop : Char}
    (hstop : stop = 'n' ∨ stop = ')') (cs : List Char) :
    numericAfterSign sign (Nat.toDigits 10 n ++ stop :: cs) =
      measure ⟨sign.isSome, some (clamp (if sign = some '-' then -(n : Int) else n))⟩
        (stop :: cs) := by
  have hdigits := isDigit_of_mem_toDigits n
  have hnot : ¬stop.isDigit := by
    rcases hstop with rfl | rfl <;> decide
  have hwhole : wholeOf sign (Nat.toDigits 10 n ++ stop :: cs) =
      clamp (if sign = some '-' then -(n : Int) else n) := by
    rw [wholeOf, List.takeWhile_append_of_pos hdigits, List.takeWhile_cons_of_neg hnot,
      List.append_nil, ofDigits_toDigits]
  have hfraction (whole : Option Int) : fraction whole (stop :: cs) = (whole, stop :: cs) := by
    rcases hstop with rfl | rfl <;> rfl
  have hexponent (whole : Option Int) : exponent whole (stop :: cs) = (whole, stop :: cs) := by
    rcases hstop with rfl | rfl <;> cases cs <;> rfl
  rw [numericAfterSign_eq, List.dropWhile_append_of_pos hdigits, List.dropWhile_cons_of_neg hnot,
    hwhole, hfraction]
  dsimp only
  rw [hexponent]

theorem token_digit {c : Char} (hc : c.isDigit) (cs : List Char) :
    token c cs =
      (some (numericAfterSign none (c :: cs)).1, (numericAfterSign none (c :: cs)).2) := by
  have hne (d : Char) (hd : d.isDigit = false) : c ≠ d := by
    rintro rfl
    rw [hc] at hd
    cases hd
  have hnumber : startsNumber (c :: cs) = true := by
    rw [startsNumber]
    · exact hc
    · exact fun _ _ hdot ↦ absurd hdot (hne '.' rfl)
  simp (disch := decide) only [token, isBlank, isNewline, beq_iff_eq, Bool.or_eq_true, hne,
    or_self, hnumber, if_false, if_true]

theorem startsNumber_toDigits (n : Nat) (cs : List Char) :
    startsNumber (Nat.toDigits 10 n ++ cs) = true := by
  obtain ⟨d, ds, hds, hd⟩ := exists_toDigits_eq_cons n
  rw [hds, List.cons_append, startsNumber]
  · exact hd
  · rintro _ _ rfl
    cases hd

theorem tokensOf_step {a : Int} (ha : |a| < 2 ^ 30) (cs : List Char) :
    tokensOf ((toString a).toList ++ 'n' :: cs) =
      .dimension ⟨decide (a < 0), some a⟩ (nameOf ('n' :: cs)).1 ::
        tokensOf (nameOf ('n' :: cs)).2 := by
  have hmeasure (n : Numeric) : measure n ('n' :: cs) =
      (.dimension n (nameOf ('n' :: cs)).1, (nameOf ('n' :: cs)).2) := rfl
  by_cases hneg : a < 0
  · have hvalue : -(a.natAbs : Int) = a := by omega
    have hread := numericAfterSign_toDigits (some '-') a.natAbs (.inl rfl) cs
    rw [if_pos rfl, hvalue, clamp_of_lt ha, hmeasure] at hread
    rw [toList_toString_of_neg hneg, List.cons_append, tokensOf_cons, token_dash,
      startsNumber_toDigits, if_pos rfl, hread, decide_eq_true hneg]
    rfl
  · have hvalue : (a.toNat : Int) = a := by omega
    have hread := numericAfterSign_toDigits none a.toNat (.inl rfl) cs
    rw [if_neg (by decide), hvalue, clamp_of_lt ha, hmeasure] at hread
    obtain ⟨d, ds, hds, hd⟩ := exists_toDigits_eq_cons a.toNat
    rw [hds, List.cons_append] at hread
    rw [toList_toString_of_nonneg (by omega), hds, List.cons_append, tokensOf_cons,
      token_digit hd, hread, decide_eq_false hneg]
    rfl

theorem nameOf_append {stop : Char} (hstop : isNameChar stop = false ∧ stop ≠ '\\')
    {cs : List Char} (h : ∀ c ∈ cs, isPlain c) (rest : List Char) :
    nameOf (cs ++ stop :: rest) = (String.ofList cs, stop :: rest) := by
  unfold nameOf
  rw [name_append hstop rest h (by simp)]

theorem tokensOf_offset {b : Int} (hb : 0 ≤ b) (hbound : |b| < 2 ^ 30) :
    tokensOf ('+' :: ((toString b).toList ++ [')'])) =
      [.number ⟨true, some b⟩, .parenClose] := by
  have hvalue : (b.toNat : Int) = b := by omega
  have hread := numericAfterSign_toDigits (some '+') b.toNat (.inr rfl) []
  rw [if_neg (by decide), hvalue, clamp_of_lt hbound] at hread
  have htoken (cs : List Char) (hcs : startsNumber cs = true) : token '+' cs =
      (some (numericAfterSign (some '+') cs).1, (numericAfterSign (some '+') cs).2) := if_pos hcs
  rw [toList_toString_of_nonneg hb, tokensOf_cons, htoken _ (startsNumber_toDigits _ _), hread]
  rfl

def nthTokens (a b : Int) : List Token :=
  if b < 0 then
    [.dimension ⟨decide (a < 0), some a⟩ (String.ofList ('n' :: '-' :: Nat.toDigits 10 b.natAbs))]
  else [.dimension ⟨decide (a < 0), some a⟩ "n", .number ⟨true, some b⟩]

theorem tokensOf_nthText {a b : Int} (ha : |a| < 2 ^ 30) (hb : |b| < 2 ^ 30) :
    tokensOf ((nthText a b).toList ++ [')']) = nthTokens a b ++ [.parenClose] := by
  by_cases hneg : b < 0
  · have htext : (nthText a b).toList ++ [')'] =
        (toString a).toList ++ 'n' :: ('-' :: (Nat.toDigits 10 b.natAbs ++ [')'])) := by
      simp only [nthText, if_pos hneg, String.append_empty, String.toList_append,
        toList_toString_of_neg hneg, List.append_assoc]
      rfl
    have hplain : ∀ c ∈ 'n' :: '-' :: Nat.toDigits 10 b.natAbs, isPlain c := by
      simp only [List.forall_mem_cons]
      refine ⟨rfl, rfl, fun c hc ↦ ?_⟩
      simp [isPlain, Char.isAlphanum, isDigit_of_mem_toDigits _ c hc]
    have hbracket : isNameChar ')' = false ∧ ')' ≠ '\\' := by decide
    have hunit := nameOf_append hbracket hplain []
    rw [List.cons_append, List.cons_append] at hunit
    rw [htext, tokensOf_step ha, hunit, nthTokens, if_pos hneg]
    rfl
  · have htext : (nthText a b).toList ++ [')'] =
        (toString a).toList ++ 'n' :: ('+' :: ((toString b).toList ++ [')'])) := by
      simp [nthText, hneg]
    have hplus : isNameChar '+' = false ∧ '+' ≠ '\\' := by decide
    have hplain : ∀ c ∈ ['n'], isPlain c := List.forall_mem_singleton.2 rfl
    have hunit := nameOf_append hplus hplain ((toString b).toList ++ [')'])
    rw [List.cons_append, List.nil_append] at hunit
    rw [htext, tokensOf_step ha, hunit, tokensOf_offset (by omega) hb, nthTokens, if_neg hneg]
    rfl

theorem tokensOf_nthFunction (fromEnd : Bool) (cs : List Char) :
    tokensOf (':' :: ((nthFunction fromEnd).toList ++ '(' :: cs)) =
      .colon :: .function (nthFunction fromEnd) :: tokensOf cs := by
  have hcolon (cs : List Char) : tokensOf (':' :: cs) = .colon :: tokensOf cs :=
    tokensOf_cons ':' cs
  have hletter (cs : List Char) :
      token 'n' cs = (some (identLike ('n' :: cs)).1, (identLike ('n' :: cs)).2) := rfl
  have hplain : ∀ c ∈ (nthFunction fromEnd).toList, isPlain c := by
    have hall : (nthFunction fromEnd).toList.all isPlain := by
      cases fromEnd <;> rfl
    exact List.all_eq_true.1 hall
  have hbracket : isNameChar '(' = false ∧ '(' ≠ '\\' := by decide
  have hurl : (asciiLower (nthFunction fromEnd) == "url") = false := by
    cases fromEnd <;> decide
  have hname := nameOf_append hbracket hplain cs
  rw [String.ofList_toList] at hname
  have hlike : identLike ((nthFunction fromEnd).toList ++ '(' :: cs) =
      (.function (nthFunction fromEnd), cs) := by
    rw [identLike, hname]
    change (if (asciiLower (nthFunction fromEnd) == "url") = true then _ else _) = _
    rw [hurl]
    rfl
  obtain ⟨rest, hrest⟩ : ∃ rest, (nthFunction fromEnd).toList = 'n' :: rest := by
    cases fromEnd <;> exact ⟨_, rfl⟩
  rw [hrest, List.cons_append] at hlike ⊢
  rw [hcolon, tokensOf_cons, hletter, hlike]
  rfl

theorem components_nthSelector (fromEnd : Bool) {a b : Int} (ha : |a| < 2 ^ 30)
    (hb : |b| < 2 ^ 30) : components (nthSelector fromEnd a b) =
      [leaf .colon, block (.function (nthFunction fromEnd)) ((nthTokens a b).map leaf)] := by
  have htext : (nthSelector fromEnd a b).toList =
      ':' :: ((nthFunction fromEnd).toList ++ '(' :: ((nthText a b).toList ++ [')'])) := by
    simp [nthSelector]
  rw [components, tokens_eq, htext, tokensOf_nthFunction, tokensOf_nthText ha hb]
  unfold nthTokens
  split <;> rfl

theorem lowered_ofList {cs : List Char} (h : ∀ c ∈ cs, c.isUpper = false) :
    Nth.lowered (String.ofList cs) = cs := by
  have hlowered : IsLowered (String.ofList cs) := by
    intro c hc
    rw [String.toList_ofList] at hc
    exact h c hc
  rw [Nth.lowered, asciiLower_of_isLowered hlowered, String.toList_ofList]

theorem parse_nthTokens {a b : Int} (hb : |b| < 2 ^ 30) :
    Nth.parse ((nthTokens a b).map leaf) = some ((a, b), []) := by
  unfold nthTokens
  split
  · next hneg =>
    have hdigits := isDigit_of_mem_toDigits b.natAbs
    have hlowered : Nth.lowered (String.ofList ('n' :: '-' :: Nat.toDigits 10 b.natAbs)) =
        'n' :: '-' :: Nat.toDigits 10 b.natAbs := by
      apply lowered_ofList
      simp only [List.forall_mem_cons]
      refine ⟨rfl, rfl, fun c hc ↦ Html.isUpper_of_isNameChar ?_⟩
      simp [Html.isNameChar, hdigits c hc]
    have hvalue : -(ofDigits 10 (Nat.toDigits 10 b.natAbs) : Int) = b := by
      rw [ofDigits_toDigits]
      omega
    have hword : Nth.wordOffset? ('n' :: '-' :: Nat.toDigits 10 b.natAbs) = some b := by
      obtain ⟨d, ds, hds, -⟩ := exists_toDigits_eq_cons b.natAbs
      rw [hds] at hdigits hvalue ⊢
      rw [Nth.wordOffset?, if_pos (List.all_eq_true.2 hdigits), hvalue, clamp_of_lt hb]
    have hread : Nth.parse [leaf (.dimension ⟨decide (a < 0), some a⟩
        (String.ofList ('n' :: '-' :: Nat.toDigits 10 b.natAbs)))] =
          Nth.afterWord a (Nth.lowered (String.ofList ('n' :: '-' :: Nat.toDigits 10 b.natAbs)))
            [] := rfl
    have hafter : Nth.afterWord a ('n' :: '-' :: Nat.toDigits 10 b.natAbs) [] =
        (Nth.wordOffset? ('n' :: '-' :: Nat.toDigits 10 b.natAbs)).map fun n ↦ ((a, n), []) := by
      obtain ⟨d, ds, hds, -⟩ := exists_toDigits_eq_cons b.natAbs
      rw [hds]
      rfl
    rw [List.map_singleton, hread, hlowered, hafter, hword]
    rfl
  · rfl

end Tokens

namespace Parser

variable (complex : Place → Bool → Scan Complex) (place : Place) (fromEnd : Bool)
  {inner : List Component} {a b : Int}

theorem readFrom_nthFunction (h : Nth.parse inner = some ((a, b), [])) :
    readFrom (functionalPseudoClass complex place (nthFunction fromEnd)) inner =
      (some (.nth ⟨false, fromEnd⟩ a b), []) := by
  have hclass : functionalPseudoClass complex place (nthFunction fromEnd) =
      nthPseudoClass ⟨false, fromEnd⟩ := by
    cases fromEnd <;> rfl
  rw [hclass, nthPseudoClass, readFrom_get_bind, h]
  rfl

theorem readFrom_simple_function (name : String) (inner cs : List Component) :
    readFrom (simple complex place) (leaf .colon :: block (.function name) inner :: cs) =
      readFrom (inside inner (functionalPseudoClass complex place name) >>= fun s ↦ pure (some s))
        cs := rfl

theorem readFrom_compound_colon (one : Scan (Option Simple)) (cs : List Component) :
    readFrom (compound one) (leaf .colon :: cs) =
      readFrom (simples one (cs.length + 2) >>= fun others ↦
        match others with
        | [] => failure
        | parts => pure parts) (leaf .colon :: cs) := rfl

theorem readFrom_compound_nthFunction (h : Nth.parse inner = some ((a, b), [])) :
    readFrom (compound (simple complex place))
      [leaf .colon, block (.function (nthFunction fromEnd)) inner] =
      (some [.nth ⟨false, fromEnd⟩ a b], []) := by
  have hinside : readFrom
      (inside inner (functionalPseudoClass complex place (nthFunction fromEnd))) [] =
      (some (.nth ⟨false, fromEnd⟩ a b), []) := by
    rw [readFrom_inside, readFrom_nthFunction complex place fromEnd h]
    rfl
  have hone : readFrom (simple complex place)
      [leaf .colon, block (.function (nthFunction fromEnd)) inner] =
      (some (some (.nth ⟨false, fromEnd⟩ a b)), []) := by
    rw [readFrom_simple_function, readFrom_bind_of_some hinside]
    rfl
  have hall : readFrom (simples (simple complex place) 3)
      [leaf .colon, block (.function (nthFunction fromEnd)) inner] =
      (some [.nth ⟨false, fromEnd⟩ a b], []) := by
    rw [simples, readFrom_bind_of_some hone]
    rfl
  rw [readFrom_compound_colon, List.length_singleton, readFrom_bind_of_some hall]
  rfl

end Parser

theorem parse?_nthSelector (fromEnd : Bool) {a b : Int} (ha : |a| < 2 ^ 30) (hb : |b| < 2 ^ 30) :
    Selector.parse? (nthSelector fromEnd a b) =
      some ⟨[.compound [.nth ⟨false, fromEnd⟩ a b]]⟩ := by
  rw [Parser.parse?_eq_some_iff, components_nthSelector fromEnd ha hb]
  refine ⟨by simp, [], ?_, rfl⟩
  rw [Parser.readFrom_complex_eq_compound_iff]
  exact ⟨[], Parser.readFrom_compound_nthFunction _ _ fromEnd (parse_nthTokens hb), rfl⟩

end Css

def IsTerm (a b : Int) (rank : Nat) : Prop := ∃ k : Nat, (rank : Int) = a * k + b

/-- The distance of the rank from the offset is small enough to be computed. -/
def InReach (b : Int) (rank : Nat) : Prop := (rank : Int) - b < 2 ^ 31

/-- Neither the shortcut for the first place nor an overflow shows, up to where the distance from
the offset is out of reach. -/
theorem Css.View.isNth_iff (view : View) (fromEnd : Bool) (a : Int) {b : Int} (hb : |b| < 2 ^ 30)
    (e : Nat) (hrank : (view.beside ⟨false, fromEnd⟩ e).length + 1 < 2 ^ 31) :
    view.isNth ⟨false, fromEnd⟩ a b e ↔
      InReach b ((view.beside ⟨false, fromEnd⟩ e).length + 1) ∧
        IsTerm a b ((view.beside ⟨false, fromEnd⟩ e).length + 1) := by
  have hindex : view.index ⟨false, fromEnd⟩ e =
      ((view.beside ⟨false, fromEnd⟩ e).length + 1 : Nat) := by
    rw [index, if_neg Bool.false_ne_true, Nat.add_comm, wrap_of_lt hrank]
  rw [abs_lt] at hb
  rw [isNth]
  split
  · next hfirst =>
    obtain ⟨rfl, rfl, -⟩ := hfirst
    rw [List.isEmpty_iff_length_eq_zero]
    constructor
    · intro hnone
      rw [hnone]
      exact ⟨show (1 : Int) - 1 < 2 ^ 31 by decide, 0, rfl⟩
    · rintro ⟨-, k, hk⟩
      omega
  · have hlower : -wordBound < view.index ⟨false, fromEnd⟩ e - b := by
      rw [hindex]
      unfold wordBound
      omega
    rw [onProgression_iff hlower, hindex]
    rfl

namespace Document

variable {d : Document}

theorem isMatch_nth (fromEnd : Bool) (a b : Int) (context e : Nat) :
    d.isMatch ⟨[.compound [.nth ⟨false, fromEnd⟩ a b]]⟩ context e =
      d.view.isNth ⟨false, fromEnd⟩ a b e := by
  rw [isMatch_single]
  exact Bool.and_true _

namespace Imported

theorem query_nthSelector (h : d.Imported) (fromEnd : Bool) {a b : Int} (ha : |a| < 2 ^ 30)
    (hb : |b| < 2 ^ 30) : ∃ found, d.query root (Css.nthSelector fromEnd a b) false = .ok found ∧
      ∀ e, d.isElement e → e ≠ root → (e ∈ found ↔ d.view.isNth ⟨false, fromEnd⟩ a b e) := by
  have hroot := node?_of_isElement h.arboreal.root
  refine ⟨_, query_of_parse (Css.parse?_nthSelector fromEnd ha hb) hroot false, fun e he hne ↦ ?_⟩
  have hcandidate : e ∈ d.candidates root false := h.mem_descendants_root he hne
  rw [List.mem_filter, isMatch_nth, and_iff_right hcandidate]

theorem mem_nthSelector_iff (h : d.Imported) {a b : Int} (ha : |a| < 2 ^ 30)
    (hb : |b| < 2 ^ 30) : ∃ front back,
      d.query root (Css.nthSelector false a b) false = .ok front ∧
      d.query root (Css.nthSelector true a b) false = .ok back ∧
      ∀ p e before after, d.childElements p = before ++ e :: after →
        (before.length + 1 < 2 ^ 31 →
          (e ∈ front ↔ InReach b (before.length + 1) ∧ IsTerm a b (before.length + 1))) ∧
        (after.length + 1 < 2 ^ 31 →
          (e ∈ back ↔ InReach b (after.length + 1) ∧ IsTerm a b (after.length + 1))) := by
  obtain ⟨front, hfront, hmem⟩ := h.query_nthSelector false ha hb
  obtain ⟨back, hback, hmem'⟩ := h.query_nthSelector true ha hb
  refine ⟨front, back, hfront, hback, fun p e before after hl ↦ ?_⟩
  have hd := h.arboreal
  obtain ⟨hbefore, hafter⟩ := hd.elements_around hl
  have hchild : e ∈ d.childElements p := by
    rw [hl]
    exact List.mem_append_right _ List.mem_cons_self
  obtain ⟨hid, he⟩ := List.mem_filter.1 hchild
  have hne : e ≠ root := Nat.ne_of_gt (Nat.zero_lt_of_lt (hd.lt_of_mem_childIds hid).1)
  have hlengthBefore : (d.view.beside ⟨false, false⟩ e).length = before.length := by
    rw [Css.View.beside, if_neg Bool.false_ne_true, hbefore, List.length_reverse]
  have hlengthAfter : (d.view.beside ⟨false, true⟩ e).length = after.length := by
    rw [Css.View.beside, if_pos rfl, hafter]
  constructor
  · intro hrank
    have hnth := d.view.isNth_iff false a hb e (by rwa [hlengthBefore])
    rw [hmem e he hne, hnth, hlengthBefore]
  · intro hrank
    have hnth := d.view.isNth_iff true a hb e (by rwa [hlengthAfter])
    rw [hmem' e he hne, hnth, hlengthAfter]

theorem inReach_of_le {b : Int} (hb : |b| < 2 ^ 30) {rank : Nat} (h : rank ≤ 2 ^ 30) :
    InReach b rank := by
  rw [abs_lt] at hb
  unfold InReach
  omega

/-- In a document from outside, going to the next sibling element undoes going to the previous one,
and walks come past all child elements. A selector by position finds the elements whose rank,
counted by such walks, is a term of the progression at a distance from the offset that integers of
32 bits can hold, and up to the rank `2 ^ 30` all distances are such. -/
theorem query_nth (h : d.Imported) :
    (∀ e f, d.isElement e → d.isElement f →
      (d.nextElement? e = some f ↔ d.previousElement? f = some e)) ∧
    (∀ p, Walks d.nextElement? (d.firstElement? p) (d.childElements p)) ∧
    (∀ e, d.isElement e →
      Walks d.nextElement? (d.nextElement? e) (d.view.elementsAfter e) ∧
        Walks d.previousElement? (d.previousElement? e) (d.view.elementsBefore e)) ∧
    (∀ e, d.isElement e → e ≠ root → ∃ p, d.parent? e = some p ∧ e ∈ d.childElements p) ∧
    ∀ a b : Int, |a| < 2 ^ 30 → |b| < 2 ^ 30 → ∃ front back,
      d.query root (Css.nthSelector false a b) false = .ok front ∧
      d.query root (Css.nthSelector true a b) false = .ok back ∧
      ∀ p e before after, d.childElements p = before ++ e :: after →
        (before.length + 1 < 2 ^ 31 →
          (e ∈ front ↔ InReach b (before.length + 1) ∧ IsTerm a b (before.length + 1))) ∧
        (after.length + 1 < 2 ^ 31 →
          (e ∈ back ↔ InReach b (after.length + 1) ∧ IsTerm a b (after.length + 1))) ∧
        (before.length + 1 ≤ 2 ^ 30 → (e ∈ front ↔ IsTerm a b (before.length + 1))) ∧
        (after.length + 1 ≤ 2 ^ 30 → (e ∈ back ↔ IsTerm a b (after.length + 1))) := by
  have hd := h.arboreal
  refine ⟨fun e f he hf ↦ hd.nextElement?_eq_some_iff he hf, hd.walks_childElements,
    fun e he ↦ hd.walks_siblings he, fun e he hne ↦ ?_, fun a b ha hb ↦ ?_⟩
  · obtain ⟨p, hp⟩ := hd.exists_parent e (isSome_node?.1 (node?_of_isElement he)) hne
    exact ⟨p, hp, List.mem_filter.2 ⟨hd.mem_childIds.2 hp, he⟩⟩
  obtain ⟨front, back, hfront, hback, hmem⟩ := h.mem_nthSelector_iff ha hb
  refine ⟨front, back, hfront, hback, fun p e before after hl ↦ ?_⟩
  obtain ⟨hinFront, hinBack⟩ := hmem p e before after hl
  refine ⟨hinFront, hinBack, fun hrank ↦ ?_, fun hrank ↦ ?_⟩
  · rw [hinFront (by omega), and_iff_right (inReach_of_le hb hrank)]
  · rw [hinBack (by omega), and_iff_right (inReach_of_le hb hrank)]

end Imported

def spacedList : Snapshot where
  tag := "ul"
  attributes := ∅
  children := [.text " ", .element "li" ∅ [] none, .text " ", .element "li" ∅ [.text "b"] none,
    .element "li" ∅ [] none]
  box := none

theorem query_nth_spacedList :
    (ofSnapshot spacedList).Imported ∧ |(-2 : Int)| < 2 ^ 30 ∧ |(3 : Int)| < 2 ^ 30 ∧
    (ofSnapshot spacedList).childElements root = [2, 4, 6] ∧
    ∃ front back : List Nat,
      (ofSnapshot spacedList).query root ":nth-child(-2n+3)" false = .ok front ∧
      (ofSnapshot spacedList).query root ":nth-last-child(-2n+3)" false = .ok back ∧
      2 ∈ front ∧ 4 ∉ front ∧ 6 ∈ front ∧ 4 ∉ back := by
  have h : (ofSnapshot spacedList).Imported := .ofSnapshot _
  have hnode (i : Nat) : (ofSnapshot spacedList).node? i =
      (spacedList.toNode.entries none root)[i]? := by
    rw [← toList_ofSnapshot, Array.getElem?_toList]
    rfl
  have helement : (ofSnapshot spacedList).isElement = fun i ↦
      (spacedList.toNode.entries none root)[i]?.any (·.content.isElement) := by
    funext i
    rw [isElement_eq, hnode]
  have hchildren : (ofSnapshot spacedList).childElements root = [2, 4, 6] := by
    rw [childElements, helement, childIds, hnode]
    rfl
  obtain ⟨-, -, -, -, hnth⟩ := h.query_nth
  obtain ⟨front, back, hfront, hback, hmem⟩ := hnth (-2) 3 (by decide) (by decide)
  have hsecond : ¬IsTerm (-2) 3 2 := by
    rintro ⟨k, hk⟩
    omega
  obtain ⟨-, -, htwo, -⟩ := hmem root 2 [] [4, 6] hchildren
  obtain ⟨-, -, hfour, hfour'⟩ := hmem root 4 [2] [6] hchildren
  obtain ⟨-, -, hsix, -⟩ := hmem root 6 [2, 4] [] hchildren
  exact ⟨h, by decide, by decide, hchildren, front, back, hfront, hback,
    (htwo (by decide)).2 ⟨1, by decide⟩, fun hin ↦ hsecond ((hfour (by decide)).1 hin),
    (hsix (by decide)).2 ⟨0, by decide⟩, fun hin ↦ hsecond ((hfour' (by decide)).1 hin)⟩

def longList (n : Nat) : Snapshot where
  tag := "ul"
  attributes := ∅
  children := List.replicate n (.element "li" ∅ [] none)
  box := none

theorem isElement_of_mem_entries_longList {n : Nat} :
    ∀ entry ∈ (longList n).toNode.entries none root, entry.content.isElement := by
  have hitems (start : Nat) : ∀ entry ∈ SnapshotNode.entriesAll (some root) start
      (List.replicate n (.element "li" ∅ [] none)), entry.content.isElement := by
    induction n generalizing start with
    | zero => simp [SnapshotNode.entriesAll]
    | succ n ih =>
      intro entry hentry
      rw [List.replicate_succ, SnapshotNode.entriesAll, List.mem_append] at hentry
      rcases hentry with hitem | hrest
      · rw [SnapshotNode.entries, SnapshotNode.entriesAll, List.mem_singleton] at hitem
        rw [hitem]
        rfl
      · exact ih _ entry hrest
  intro entry hentry
  rw [longList, Snapshot.toNode, SnapshotNode.entries, List.mem_cons] at hentry
  rcases hentry with rfl | hitem
  · rfl
  · exact hitems _ entry hitem

theorem length_childElements_longList (n : Nat) :
    ((ofSnapshot (longList n)).childElements root).length = n := by
  have hd : (ofSnapshot (longList n)).Arboreal := Imported.arboreal (.ofSnapshot _)
  have hnode (i : Nat) : (ofSnapshot (longList n)).node? i =
      ((longList n).toNode.entries none root)[i]? := by
    rw [← toList_ofSnapshot, Array.getElem?_toList]
    rfl
  have helement : ∀ x ∈ (ofSnapshot (longList n)).childIds root,
      (ofSnapshot (longList n)).isElement x := by
    intro x hx
    obtain ⟨entry, hentry⟩ :=
      Option.isSome_iff_exists.1 (isSome_node?.2 (hd.lt_of_mem_childIds hx).2)
    rw [isElement_eq, hentry, Option.any_some]
    rw [hnode] at hentry
    exact isElement_of_mem_entries_longList _ (List.mem_of_getElem? hentry)
  have hchildren : (ofSnapshot (longList n)).childIds root =
      SnapshotNode.ids 1 (List.replicate n (.element "li" ∅ [] none)) := by
    rw [childIds, hnode]
    rfl
  rw [childElements, List.filter_eq_self.2 helement, hchildren, SnapshotNode.length_ids,
    List.length_replicate]

/-- The rank of the last item of this list is a term, but its distance from the offset is `2 ^ 31`
and overflows. -/
theorem not_mem_query_nth_longList : ∃ before e front,
    (ofSnapshot (longList (2 ^ 30 + 1))).Imported ∧
    |(1 : Int)| < 2 ^ 30 ∧ |(-1073741823 : Int)| < 2 ^ 30 ∧
    (ofSnapshot (longList (2 ^ 30 + 1))).childElements root = before ++ [e] ∧
    (ofSnapshot (longList (2 ^ 30 + 1))).query root (Css.nthSelector false 1 (-1073741823)) false =
      .ok front ∧
    IsTerm 1 (-1073741823) (before.length + 1) ∧ e ∉ front := by
  -- The number of items stays a variable, so that no step can unfold the list.
  generalize hn : 2 ^ 30 + 1 = n
  have hlength := length_childElements_longList n
  have himported : (ofSnapshot (longList n)).Imported := .ofSnapshot _
  have hitems : (ofSnapshot (longList n)).childElements root ≠ [] := by
    rw [← List.length_pos_iff]
    omega
  obtain ⟨before, e, hl⟩ := (List.eq_nil_or_concat' _).resolve_left hitems
  rw [hl, List.length_append, List.length_singleton] at hlength
  have ha : |(1 : Int)| < 2 ^ 30 := by decide
  have hb : |(-1073741823 : Int)| < 2 ^ 30 := by decide
  obtain ⟨front, back, hfront, -, hmem⟩ := himported.mem_nthSelector_iff ha hb
  obtain ⟨hinFront, -⟩ := hmem root e before [] hl
  refine ⟨before, e, front, himported, ha, hb, hl, hfront, ⟨2 ^ 31, by omega⟩, fun hin ↦ ?_⟩
  obtain ⟨hreach, -⟩ := (hinFront (by omega)).1 hin
  unfold InReach at hreach
  omega

end Document

end PageOutline
