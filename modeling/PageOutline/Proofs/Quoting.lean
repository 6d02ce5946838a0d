import PageOutline.Pass.Dropdown
import PageOutline.Proofs.Selectors
import PageOutline.Proofs.TokenText
import Mathlib.Tactic.IntervalCases

namespace PageOutline

namespace Css

namespace Lexer

def readBack (c : Char) : Char := if c == '\x00' then '\uFFFD' else c

theorem stringBody_escape (fuel : Nat) {d : Char} (cs : List Char) (h : isNewline d = false) :
    stringBody '"' (fuel + 1) ('\\' :: d :: cs) =
      ((stringBody '"' fuel (escape (d :: cs)).2).1.map ((escape (d :: cs)).1 :: ·),
        (stringBody '"' fuel (escape (d :: cs)).2).2) := by
  rw [stringBody, if_neg (by decide), if_neg (by decide), if_pos (by decide)]
  simp only [h, Bool.false_eq_true, if_false]

theorem stringBody_code {n : Nat} (h : n < 0x20) (fuel : Nat) (rest : List Char) :
    stringBody '"' (fuel + 1) ('\\' :: (Nat.toDigits 16 n ++ ' ' :: rest)) =
      ((stringBody '"' fuel rest).1.map (readBack (Char.ofNat n) :: ·),
        (stringBody '"' fuel rest).2) := by
  interval_cases n <;> exact stringBody_escape fuel _ rfl

theorem stringBody_quotedChar (fuel : Nat) (c : Char) (rest : List Char) :
    stringBody '"' (fuel + 1) (quotedChar c ++ rest) =
      ((stringBody '"' fuel rest).1.map (readBack c :: ·), (stringBody '"' fuel rest).2) := by
  by_cases hquote : c = '"'
  · subst hquote
    exact stringBody_escape fuel rest rfl
  by_cases hslash : c = '\\'
  · subst hslash
    exact stringBody_escape fuel rest rfl
  by_cases hnul : c = '\x00'
  · subst hnul
    rfl
  by_cases hcontrol : c.toNat < 0x20
  · have hc : quotedChar c ++ rest = '\\' :: (Nat.toDigits 16 c.toNat ++ ' ' :: rest) := by
      simp [quotedChar, hquote, hslash, hnul, hcontrol]
    rw [hc, stringBody_code hcontrol, Char.ofNat_toNat]
  by_cases hdelete : c = '\x7f'
  · subst hdelete
    exact stringBody_escape fuel _ rfl
  have hc : quotedChar c = [c] := by
    simp [quotedChar, hquote, hslash, hnul, hcontrol, hdelete]
  have hnewline : isNewline c = false := by
    have hne (d : Char) (hd : d.toNat < 0x20) : c ≠ d := fun hcd ↦ hcontrol (hcd ▸ hd)
    simp [isNewline, hne '\n' (by decide), hne '\r' (by decide), hne '\x0c' (by decide)]
  rw [hc, List.singleton_append, stringBody.eq_def]
  simp [hquote, hnewline, hslash, readBack]

theorem stringBody_flatMap (cs rest : List Char) {fuel : Nat} (h : cs.length < fuel) :
    stringBody '"' fuel (cs.flatMap quotedChar ++ '"' :: rest) =
      (some (cs.map readBack), rest) := by
  induction cs generalizing fuel with
  | nil =>
    obtain ⟨fuel, rfl⟩ := Nat.exists_eq_add_of_lt h
    rfl
  | cons c cs ih =>
    obtain ⟨fuel, rfl⟩ := Nat.exists_eq_add_of_lt h
    rw [List.flatMap_cons, List.append_assoc, stringBody_quotedChar, ih (by simp; omega)]
    rfl

theorem length_le_flatMap_quotedChar (cs : List Char) :
    cs.length ≤ (cs.flatMap quotedChar).length := by
  induction cs with
  | nil => exact le_rfl
  | cons c cs ih =>
    have hpos : 0 < (quotedChar c).length := by
      unfold quotedChar
      split_ifs <;> simp
    rw [List.flatMap_cons, List.length_append, List.length_cons]
    omega

theorem string_flatMap (cs rest : List Char) :
    string '"' (cs.flatMap quotedChar ++ '"' :: rest) =
      (.string (String.ofList (cs.map readBack)), rest) := by
  have hlength : cs.length < (cs.flatMap quotedChar ++ '"' :: rest).length + 1 := by
    have hle := length_le_flatMap_quotedChar cs
    rw [List.length_append]
    omega
  unfold string
  rw [stringBody_flatMap _ _ hlength]

def isPlain (c : Char) : Bool := c.isAlphanum || c == '-' || c == '_'

theorem isNameChar_of_isPlain {c : Char} (h : isPlain c) : isNameChar c := by
  have hc : ((c.isAlpha ∨ c.isDigit) ∨ c = '-') ∨ c = '_' := by
    simpa [isPlain, Char.isAlphanum] using h
  rcases hc with ((hc | hc) | hc) | hc <;> simp [isNameChar, isNameStart, hc]

def endsName (c : Char) : Bool := !isNameChar c && c != '\\' && c != '(' && c != '>'

theorem of_endsName {c : Char} (h : endsName c) :
    isNameChar c = false ∧ c ≠ '\\' ∧ c ≠ '(' ∧ c ≠ '>' := by
  simpa [endsName, and_assoc] using h

theorem name_append {stop : Char} (hstop : isNameChar stop = false ∧ stop ≠ '\\') {cs : List Char}
    (rest : List Char) (h : ∀ c ∈ cs, isPlain c) {fuel : Nat} (hf : cs.length ≤ fuel) :
    name fuel (cs ++ stop :: rest) = (cs, stop :: rest) := by
  induction cs generalizing fuel with
  | nil =>
    cases fuel with
    | zero => rfl
    | succ fuel =>
      rw [List.nil_append, name.eq_def]
      simp [hstop]
  | cons c cs ih =>
    cases fuel with
    | zero => cases hf
    | succ fuel =>
      rw [List.forall_mem_cons] at h
      have hslash : c ≠ '\\' := by
        rintro rfl
        exact absurd h.1 (by decide)
      have hnul : c ≠ '\x00' := by
        rintro rfl
        exact absurd h.1 (by decide)
      have hname := isNameChar_of_isPlain h.1
      rw [List.cons_append, name.eq_def]
      simp [hslash, hname, hnul, ih h.2 (Nat.le_of_succ_le_succ hf)]

theorem isDigit_of_isAlpha {c : Char} (h : c.isAlpha) : c.isDigit = false := by
  have hbounds : (decide (c.val ≥ 'A'.val ∧ c.val ≤ 'Z'.val) ||
      (decide (c.val ≥ 'a'.val) && decide (c.val ≤ 'z'.val))) = true := h
  simp only [Bool.or_eq_true, Bool.and_eq_true, decide_eq_true_eq, ge_iff_le,
    UInt32.le_iff_toNat_le] at hbounds
  refine Bool.eq_false_iff.2 fun hdigit ↦ ?_
  have hupper : c.val.toNat ≤ '9'.toNat := (Char.isDigit_iff_toNat.1 hdigit).2
  have hletters : '9'.toNat < 'A'.val.toNat ∧ '9'.toNat < 'a'.val.toNat := by decide
  omega

theorem isPlain_ne {c d : Char} (h : isPlain c) (hd : isPlain d = false) : c ≠ d := by
  rintro rfl
  rw [h] at hd
  cases hd

theorem identLike_append {stop : Char} (hstop : endsName stop) {cs : List Char}
    (rest : List Char) (h : ∀ c ∈ cs, isPlain c) :
    identLike (cs ++ stop :: rest) = (.ident (String.ofList cs), stop :: rest) := by
  obtain ⟨hname, hslash, hparen, -⟩ := of_endsName hstop
  have hnameOf : nameOf (cs ++ stop :: rest) = (String.ofList cs, stop :: rest) := by
    unfold nameOf
    rw [name_append ⟨hname, hslash⟩ rest h (by simp)]
  unfold identLike
  rw [hnameOf]
  split
  · next heq => exact absurd (List.cons.inj (Prod.mk.inj heq).2).1 hparen
  · next heq => rw [← (Prod.mk.inj heq).1, ← (Prod.mk.inj heq).2]

theorem isDigit_of_isNameStart {c : Char} (h : isNameStart c) : c.isDigit = false := by
  have hc : ((c.isAlpha ∨ c = '_') ∨ c = '\x00') ∨ 0x80 ≤ c.toNat := by
    simpa [isNameStart] using h
  rcases hc with ((hc | rfl) | rfl) | hc
  · exact isDigit_of_isAlpha hc
  · rfl
  · rfl
  · refine Bool.eq_false_iff.2 fun hdigit ↦ ?_
    have hle : c.toNat ≤ '9'.toNat := (Char.isDigit_iff_toNat.1 hdigit).2
    have hnine : '9'.toNat < 0x80 := by decide
    omega

theorem token_dash (cs : List Char) : token '-' cs =
    if startsNumber cs then
      (some (numericAfterSign (some '-') cs).1, (numericAfterSign (some '-') cs).2)
    else
      match cs with
      | '-' :: '>' :: cs => (some .commentClose, cs)
      | _ =>
        if startsIdent ('-' :: cs) then (some (identLike ('-' :: cs)).1, (identLike ('-' :: cs)).2)
        else (some (.delim '-'), cs) := rfl

theorem token_append {stop : Char} (hstop : endsName stop) {c : Char} {cs : List Char}
    (rest : List Char) (hc : startsIdent (c :: cs)) (h : ∀ d ∈ c :: cs, isPlain d) :
    token c (cs ++ stop :: rest) = (some (.ident (String.ofList (c :: cs))), stop :: rest) := by
  have hlike : identLike (c :: (cs ++ stop :: rest)) =
      (.ident (String.ofList (c :: cs)), stop :: rest) := identLike_append hstop rest h
  rw [List.forall_mem_cons] at h
  have hne (d : Char) (hd : isPlain d = false) : c ≠ d := isPlain_ne h.1 hd
  by_cases hdash : c = '-'
  · subst hdash
    obtain ⟨d, ds, rfl⟩ : ∃ d ds, cs = d :: ds := by
      cases cs with
      | nil => cases hc
      | cons d ds => exact ⟨d, ds, rfl⟩
    rw [List.forall_mem_cons] at h
    have hd : isNameStart d ∨ d = '-' := by
      have hslash : d ≠ '\\' := isPlain_ne h.2.1 rfl
      simpa [startsIdent, hslash] using hc
    have hdigit : d.isDigit = false := by
      rcases hd with hd | rfl
      · exact isDigit_of_isNameStart hd
      · rfl
    have hnumber : startsNumber (d :: (ds ++ stop :: rest)) = false := by
      rw [startsNumber]
      · exact hdigit
      · exact fun _ _ hdot ↦ absurd hdot (isPlain_ne h.2.1 rfl)
    have hident : startsIdent ('-' :: d :: (ds ++ stop :: rest)) = true := by
      simpa [startsIdent] using .inl hd
    have hclose : ∀ after, d :: (ds ++ stop :: rest) ≠ '-' :: '>' :: after := by
      intro after heq
      cases ds with
      | nil => exact (of_endsName hstop).2.2.2 (List.cons.inj (List.cons.inj heq).2).1
      | cons e es =>
        rw [List.forall_mem_cons] at h
        have he : e = '>' := by
          simp only [List.cons_append, List.cons.injEq] at heq
          exact heq.2.1
        exact isPlain_ne h.2.2.1 rfl he
    rw [List.cons_append] at hlike ⊢
    rw [token_dash, hnumber, hident, hlike, if_neg Bool.false_ne_true]
    split
    · next after heq => exact absurd heq (hclose after)
    · rfl
  · have hstart : isNameStart c := by
      rw [startsIdent] at hc
      · exact hc
      · exact fun _ _ hd ↦ absurd hd hdash
      · exact hne '\\' rfl
    have hnumber : startsNumber (c :: (cs ++ stop :: rest)) = false := by
      rw [startsNumber]
      · exact isDigit_of_isNameStart hstart
      · exact fun _ _ hdot ↦ absurd hdot (hne '.' rfl)
    have hident : startsIdent (c :: (cs ++ stop :: rest)) = true := by
      rw [startsIdent]
      · exact hstart
      · exact fun _ _ hd ↦ absurd hd hdash
      · exact hne '\\' rfl
    simp (disch := decide) only [token, isBlank, isNewline, beq_iff_eq, Bool.or_eq_true, hne,
      or_self, hnumber, hident, hlike, if_false, if_true, Bool.false_eq_true, hdash]

end Lexer

open Lexer

/-- A text as it is read back when it was quoted, with U+FFFD in the place of U+0000. -/
def asRead (s : String) : String := String.ofList (s.toList.map readBack)

theorem asRead_eq_empty {s : String} : asRead s = "" ↔ s = "" := by
  rw [asRead, ← String.toList_eq_nil_iff, String.toList_ofList, List.map_eq_nil_iff,
    String.toList_eq_nil_iff]

theorem asRead_of_notMem {s : String} (h : '\x00' ∉ s.toList) : asRead s = s := by
  have hkept (c : Char) (hc : c ∈ s.toList) : readBack c = c := by
    have hzero : c ≠ '\x00' := fun heq ↦ h (heq ▸ hc)
    simp [readBack, hzero]
  rw [asRead, List.map_congr_left hkept, List.map_id', String.ofList_toList]

/-- The names that stand for themselves in a selector. -/
def IsName (s : String) : Prop := startsIdent s.toList ∧ ∀ c ∈ s.toList, isPlain c

instance (s : String) : Decidable (IsName s) :=
  @instDecidableAnd _ _ _ (List.decidableBAll _ _)

def IsWord (s : String) : Prop :=
  ∃ c cs, s.toList = c :: cs ∧ c.isAlpha ∧ ∀ d ∈ cs, d.isAlphanum

theorem startsIdent_of_isAlpha {c : Char} (h : c.isAlpha) (cs : List Char) :
    startsIdent (c :: cs) := by
  have hne (d : Char) (hd : d.isAlpha = false) : c ≠ d := by
    rintro rfl
    rw [h] at hd
    cases hd
  rw [startsIdent]
  · simp [isNameStart, h]
  · exact fun _ _ hdash ↦ absurd hdash (hne '-' rfl)
  · exact hne '\\' rfl

def IsIdentifier (s : String) : Prop :=
  ∃ c cs, s.toList = c :: cs ∧ c.isAlpha ∧ ∀ d ∈ cs, d.isAlphanum ∨ d = '-'

instance (s : String) : Decidable (IsIdentifier s) :=
  match h : s.toList with
  | [] => .isFalse fun ⟨_, _, hs, _⟩ ↦ List.cons_ne_nil _ _ (hs.symm.trans h)
  | c :: cs =>
    @decidable_of_iff _ (c.isAlpha ∧ ∀ d ∈ cs, d.isAlphanum ∨ d = '-') (by simp [IsIdentifier, h])
      (@instDecidableAnd _ _ _ (List.decidableBAll _ _))

theorem IsIdentifier.isName {s : String} (h : IsIdentifier s) : IsName s := by
  obtain ⟨c, cs, hs, hc, hcs⟩ := h
  refine ⟨?_, fun d hd ↦ ?_⟩
  · rw [hs]
    exact startsIdent_of_isAlpha hc cs
  · rw [hs, List.mem_cons] at hd
    rcases hd with rfl | hd
    · simp [isPlain, Char.isAlphanum, hc]
    · rcases hcs d hd with hd | rfl
      · simp [isPlain, hd]
      · rfl

theorem IsWord.isName {s : String} (h : IsWord s) : IsName s := by
  obtain ⟨c, cs, hs, hc, hcs⟩ := h
  exact IsIdentifier.isName ⟨c, cs, hs, hc, fun d hd ↦ .inl (hcs d hd)⟩

theorem tokensOf_name {name : String} (hname : IsName name) {stop : Char} (hstop : endsName stop)
    (rest : List Char) :
    tokensOf (name.toList ++ stop :: rest) = .ident name :: tokensOf (stop :: rest) := by
  obtain ⟨hstart, hplain⟩ := hname
  obtain ⟨c, cs, hcs⟩ : ∃ c cs, name.toList = c :: cs := by
    cases hcs : name.toList with
    | nil =>
      rw [hcs] at hstart
      cases hstart
    | cons c cs => exact ⟨c, cs, rfl⟩
  rw [hcs] at hstart hplain
  rw [hcs, List.cons_append, tokensOf_cons, token_append hstop rest hstart hplain, ← hcs,
    String.ofList_toList]
  rfl

theorem tokensOf_quote (s : String) (rest : List Char) :
    tokensOf ((quote s).toList ++ rest) = .string (asRead s) :: tokensOf rest := by
  have hchars : (quote s).toList ++ rest = '"' :: (s.toList.flatMap quotedChar ++ '"' :: rest) := by
    simp [quote]
  rw [hchars, tokensOf_cons]
  change (string '"' _).1 :: tokensOf (string '"' _).2 = _
  rw [string_flatMap]
  rfl

def Comparison.symbol : Comparison → String
  | .equal => "="
  | .includes => "~="
  | .dash => "|="
  | .startsWith => "^="
  | .endsWith => "$="
  | .contains => "*="

def Comparison.token : Comparison → Token
  | .equal => .delim '='
  | .includes => .includeMatch
  | .dash => .dashMatch
  | .startsWith => .prefixMatch
  | .endsWith => .suffixMatch
  | .contains => .substringMatch

theorem Comparison.exists_symbol (how : Comparison) :
    ∃ stop after, how.symbol.toList = stop :: after ∧ endsName stop ∧
      ∀ rest, tokensOf (stop :: (after ++ '"' :: rest)) = how.token :: tokensOf ('"' :: rest) := by
  cases how with
  | equal => exact ⟨'=', [], rfl, rfl, fun rest ↦ tokensOf_cons _ _⟩
  | includes => exact ⟨'~', ['='], rfl, rfl, fun rest ↦ tokensOf_cons _ _⟩
  | dash => exact ⟨'|', ['='], rfl, rfl, fun rest ↦ tokensOf_cons _ _⟩
  | startsWith => exact ⟨'^', ['='], rfl, rfl, fun rest ↦ tokensOf_cons _ _⟩
  | endsWith => exact ⟨'$', ['='], rfl, rfl, fun rest ↦ tokensOf_cons _ _⟩
  | contains => exact ⟨'*', ['='], rfl, rfl, fun rest ↦ tokensOf_cons _ _⟩

theorem tokensOf_squareOpen (cs : List Char) :
    tokensOf ('[' :: cs) = .squareOpen :: tokensOf cs :=
  tokensOf_cons '[' cs

theorem tokensOf_comparison {name : String} (hname : IsName name) (how : Comparison) (s : String) :
    tokensOf ('[' :: (name.toList ++ (how.symbol.toList ++ ((quote s).toList ++ [']'])))) =
      [.squareOpen, .ident name, how.token, .string (asRead s), .squareClose] := by
  have hquote : (quote s).toList ++ [']'] = '"' :: ((quote s).toList.tail ++ [']']) := by
    simp [quote]
  have hvalue := tokensOf_quote s [']']
  obtain ⟨stop, after, hsymbol, hstop, hcomparison⟩ := how.exists_symbol
  rw [hquote] at hvalue ⊢
  rw [tokensOf_squareOpen, hsymbol, List.cons_append, tokensOf_name hname hstop, hcomparison,
    hvalue]
  rfl

theorem tokens_comparisonSelector {name : String} (hname : IsName name) (how : Comparison)
    (s : String) :
    tokens ("[" ++ name ++ how.symbol ++ quote s ++ "]") =
      [.squareOpen, .ident name, how.token, .string (asRead s), .squareClose] := by
  rw [tokens_eq, ← tokensOf_comparison hname]
  simp

/-- A comparison of an attribute is read as such: the text in it ends where its quotes do. -/
theorem parse?_comparisonSelector {name : String} (hname : IsName name) (how : Comparison)
    (s : String) :
    Selector.parse? ("[" ++ name ++ how.symbol ++ quote s ++ "]") =
      some ⟨[.compound [.attr (Text.asciiLower name)
        (.compare how (asRead s)
          (Parser.caselessAttributes.contains (Text.asciiLower name)))]]⟩ := by
  unfold Selector.parse? components
  rw [tokens_comparisonSelector hname]
  cases how <;> rfl

theorem tokens_prefixSelector {word : String} (hword : IsWord word) (s : String) :
    tokens (word ++ "[id^=" ++ quote s ++ "]") =
      [.ident word, .squareOpen, .ident "id", .prefixMatch, .string (asRead s),
        .squareClose] := by
  have htext : (word ++ "[id^=" ++ quote s ++ "]").toList =
      word.toList ++ '[' :: ("id".toList ++
        (Comparison.startsWith.symbol.toList ++ ((quote s).toList ++ [']']))) := by
    simp [Comparison.symbol]
  have hid : IsName "id" := by decide
  rw [tokens_eq, htext, tokensOf_name hword.isName rfl, tokensOf_comparison hid]
  rfl

theorem parse?_prefixSelector {word : String} (hword : IsWord word) (s : String) :
    Selector.parse? (word ++ "[id^=" ++ quote s ++ "]") =
      some ⟨[.compound [.localName (Text.asciiLower word),
        .attr "id" (.compare .startsWith (asRead s) false)]]⟩ := by
  unfold Selector.parse? components
  rw [tokens_prefixSelector hword]
  rfl

theorem tokens_presenceSelector {name : String} (hname : IsName name) :
    tokens ("[" ++ name ++ "]") = [.squareOpen, .ident name, .squareClose] := by
  have htext : ("[" ++ name ++ "]").toList = '[' :: (name.toList ++ [']']) := by
    simp
  rw [tokens_eq, htext, tokensOf_squareOpen, tokensOf_name hname rfl]
  rfl

theorem parse?_presenceSelector {name : String} (hname : IsName name) :
    Selector.parse? ("[" ++ name ++ "]") =
      some ⟨[.compound [.attr (Text.asciiLower name) .present]]⟩ := by
  unfold Selector.parse? components
  rw [tokens_presenceSelector hname]
  rfl

end Css

theorem Pass.optionSelector_avoids {settings : Settings} {names : List String}
    (hword : Css.IsWord settings.dropdownOptionTag) (hid : "id" ∉ names) (id : String) :
    Css.Selector.Avoids names (optionSelector settings id) := by
  intro selector hselector name hname
  unfold optionSelector at hselector
  rw [Css.parse?_prefixSelector hword] at hselector
  obtain rfl := Option.some.inj hselector
  obtain rfl : name = "id" := List.mem_singleton.1 hname
  exact hid

end PageOutline
