import PageOutline.Proofs.JsonGrammar
import Mathlib.Data.List.TakeWhile

namespace PageOutline.Json

open Text (isHexDigit ofDigits charOfCode)

theorem bind_eq_ok {α β : Type} {x : Except JsonFault α} {f : α → Except JsonFault β} {b : β} :
    x >>= f = .ok b ↔ ∃ a, x = .ok a ∧ f a = .ok b := by
  cases x with
  | error fault => exact ⟨nofun, nofun⟩
  | ok a => exact ⟨fun h ↦ ⟨a, rfl, h⟩, fun ⟨_, rfl, h⟩ ↦ h⟩

namespace Parser

variable {limit levels fuel : Nat} {cs rest after : List Char}

section Strings

open Letter

theorem stringBody_plain {c : Char} (h : c ≠ '"' ∧ c ≠ '\\' ∧ 0x20 ≤ c.toNat) (strict : Bool)
    (fuel : Nat) (cs : List Char) :
    stringBody strict (fuel + 1) (c :: cs) =
      (do
        let (s, cs) ← stringBody strict fuel cs
        return (c :: s, cs)) := by
  have hcontrol : ¬c.toNat < 0x20 := Nat.not_lt.2 h.2.2
  rw [stringBody.eq_def]
  simp only [h.1, h.2.1, hcontrol, if_false]

theorem stringBody_escape {e c : Char} (h : simpleEscape? e = some c) (strict : Bool)
    (fuel : Nat) (cs : List Char) :
    stringBody strict (fuel + 1) ('\\' :: e :: cs) =
      (do
        let (s, cs) ← stringBody strict fuel cs
        return (c :: s, cs)) := by
  -- the case of `u` is excluded by the hypothesis
  have hne : e ≠ 'u' := by
    rintro rfl
    cases h
  rw [stringBody.eq_def]
  simp [h]

theorem stringBody_code (fuel : Nat) (cs : List Char) :
    stringBody true (fuel + 1) ('\\' :: 'u' :: cs) =
      (do
        let (found, cs) ← unicodeEscape cs
        match found with
        | some d => do
          let (s, cs) ← stringBody true fuel cs
          return (d :: s, cs)
        | none => .error .malformed) := rfl

section Codes

variable {a b c d e f g i : Char}

theorem hexQuad_digits (h : [a, b, c, d].all isHexDigit) (cs : List Char) :
    hexQuad (a :: b :: c :: d :: cs) = .ok (ofDigits 16 [a, b, c, d], cs) := by
  rw [hexQuad, if_pos h]

theorem unicodeEscape_low (h : [a, b, c, d].all isHexDigit)
    (hlow : 0xdc00 ≤ ofDigits 16 [a, b, c, d] ∧ ofDigits 16 [a, b, c, d] ≤ 0xdfff)
    (cs : List Char) : unicodeEscape (a :: b :: c :: d :: cs) = .ok (none, cs) := by
  simp only [unicodeEscape, hexQuad_digits h, bind, Except.bind, hlow]
  rfl

theorem unicodeEscape_single (h : [a, b, c, d].all isHexDigit)
    (hlow : ¬(0xdc00 ≤ ofDigits 16 [a, b, c, d] ∧ ofDigits 16 [a, b, c, d] ≤ 0xdfff))
    (hhigh : ¬(0xd800 ≤ ofDigits 16 [a, b, c, d] ∧ ofDigits 16 [a, b, c, d] ≤ 0xdbff))
    (cs : List Char) :
    unicodeEscape (a :: b :: c :: d :: cs) =
      .ok (some (charOfCode (ofDigits 16 [a, b, c, d])), cs) := by
  simp only [unicodeEscape, hexQuad_digits h, bind, Except.bind, hlow, hhigh]
  rfl

theorem unicodeEscape_pair (h : [a, b, c, d].all isHexDigit)
    (hlow : ¬(0xdc00 ≤ ofDigits 16 [a, b, c, d] ∧ ofDigits 16 [a, b, c, d] ≤ 0xdfff))
    (hhigh : 0xd800 ≤ ofDigits 16 [a, b, c, d] ∧ ofDigits 16 [a, b, c, d] ≤ 0xdbff)
    (h' : [e, f, g, i].all isHexDigit) (cs : List Char) :
    unicodeEscape (a :: b :: c :: d :: '\\' :: 'u' :: e :: f :: g :: i :: cs) =
      if 0xdc00 ≤ ofDigits 16 [e, f, g, i] ∧ ofDigits 16 [e, f, g, i] ≤ 0xdfff then
        .ok (some (charOfCode (0x10000 + (ofDigits 16 [a, b, c, d] - 0xd800) * 0x400 +
          (ofDigits 16 [e, f, g, i] - 0xdc00))), cs)
      else .ok (none, '\\' :: 'u' :: e :: f :: g :: i :: cs) := by
  simp only [unicodeEscape, hexQuad_digits h, bind, Except.bind, hlow, hhigh,
    hexQuad_digits h']
  rfl

theorem unicodeEscape_alone (h : [a, b, c, d].all isHexDigit)
    (hlow : ¬(0xdc00 ≤ ofDigits 16 [a, b, c, d] ∧ ofDigits 16 [a, b, c, d] ≤ 0xdfff))
    (hhigh : 0xd800 ≤ ofDigits 16 [a, b, c, d] ∧ ofDigits 16 [a, b, c, d] ≤ 0xdbff)
    {ls : List Letter} (hls : ∀ e f g i h' ms, ls ≠ .code e f g i h' :: ms) (rest : List Char) :
    unicodeEscape (a :: b :: c :: d :: (bodyChars ls ++ '"' :: rest)) =
      .ok (none, bodyChars ls ++ '"' :: rest) := by
  simp only [unicodeEscape, hexQuad_digits h, bind, Except.bind, hlow, hhigh]
  cases ls with
  | nil => rfl
  | cons l ls =>
    cases l with
    | plain x hx =>
      rw [bodyChars_plain, List.cons_append]
      simp [hx.2.1]
      rfl
    | escape x y hx =>
      have hne : x ≠ 'u' := by
        rintro rfl
        cases hx
      rw [bodyChars_escape, List.cons_append, List.cons_append]
      simp [hne]
      rfl
    | code e f g i h' => exact absurd rfl (hls e f g i h' ls)

end Codes

theorem cons_eq_ok {x : Except JsonFault (List Char × List Char)} {c : Char} {s : List Char}
    (h : (do
      let (s, cs) ← x
      return (c :: s, cs)) = Except.ok (s, after)) :
    ∃ t, s = c :: t ∧ x = .ok (t, after) := by
  obtain ⟨⟨t, cs⟩, rfl, h⟩ := bind_eq_ok.1 h
  cases h
  exact ⟨t, rfl, rfl⟩

theorem stringBody_letters {ls : List Letter} {s : List Char}
    (h : stringBody true fuel (bodyChars ls ++ '"' :: rest) = .ok (s, after)) :
    decode ls = some s ∧ after = rest := by
  induction fuel generalizing ls s with
  | zero => cases h
  | succ fuel ih =>
    -- the letters behind an escape that is read are read with less fuel
    have hlater {c : Char} {ms : List Letter}
        (hread : (do
          let (s, cs) ← stringBody true fuel (bodyChars ms ++ '"' :: rest)
          return (c :: s, cs)) = Except.ok (s, after)) :
        (c :: ·) <$> decode ms = some s ∧ after = rest := by
      obtain ⟨t, hs, ht⟩ := cons_eq_ok hread
      obtain ⟨hdecode, hafter⟩ := ih ht
      rw [hdecode, hs]
      exact ⟨rfl, hafter⟩
    match ls with
    | [] =>
      cases h
      exact ⟨rfl, rfl⟩
    | .plain c hc :: ls =>
      rw [bodyChars_plain, List.cons_append, stringBody_plain hc] at h
      exact hlater h
    | .escape e c he :: ls =>
      rw [bodyChars_escape, List.cons_append, List.cons_append, stringBody_escape he] at h
      exact hlater h
    | .code a b c d hd :: ls =>
      rw [bodyChars_code, List.cons_append, List.cons_append, stringBody_code] at h
      simp only [List.cons_append] at h
      unfold decode
      dsimp only
      by_cases hlow : 0xdc00 ≤ ofDigits 16 [a, b, c, d] ∧ ofDigits 16 [a, b, c, d] ≤ 0xdfff
      · rw [unicodeEscape_low hd hlow] at h
        cases h
      rw [if_neg hlow]
      by_cases hhigh : 0xd800 ≤ ofDigits 16 [a, b, c, d] ∧ ofDigits 16 [a, b, c, d] ≤ 0xdbff
      · rw [if_neg (not_not_intro hhigh)]
        split
        · next e f g i hi ms =>
          rw [bodyChars_code] at h
          simp only [List.cons_append] at h
          rw [unicodeEscape_pair hd hlow hhigh hi] at h
          split_ifs at h ⊢ with hpair
          · exact hlater h
          · cases h
        · next hls =>
          rw [unicodeEscape_alone hd hlow hhigh hls] at h
          cases h
      · rw [if_pos hhigh]
        rw [unicodeEscape_single hd hlow hhigh] at h
        exact hlater h

theorem digits_of_hexQuad {n : Nat} (h : hexQuad cs = .ok (n, after)) :
    ∃ a b c d, [a, b, c, d].all isHexDigit ∧ cs = a :: b :: c :: d :: after := by
  unfold hexQuad at h
  split at h
  · next a b c d cs =>
    split_ifs at h with hd
    cases h
    exact ⟨a, b, c, d, hd, rfl⟩
  · cases h

theorem letters_of_unicodeEscape {c : Char} (h : unicodeEscape cs = .ok (some c, after)) :
    ∃ ls, '\\' :: 'u' :: cs = bodyChars ls ++ after := by
  obtain ⟨⟨high, behind⟩, hhigh, hread⟩ := bind_eq_ok.1 h
  obtain ⟨a, b, c, d, hd, rfl⟩ := digits_of_hexQuad hhigh
  dsimp only at hread
  split_ifs at hread with hlow hpaired
  · cases hread
  · split at hread
    · cases hread
    · cases hread
    · next rest =>
      obtain ⟨⟨low, behind⟩, hlow, hpair⟩ := bind_eq_ok.1 hread
      obtain ⟨e, f, g, i, hi, rfl⟩ := digits_of_hexQuad hlow
      dsimp only at hpair
      split_ifs at hpair
      · obtain rfl : behind = after := (Prod.mk.inj (Except.ok.inj hpair)).2
        exact ⟨[.code a b c d hd, .code e f g i hi], rfl⟩
      · cases hpair
    · cases hread
  · cases hread
    exact ⟨[.code a b c d hd], rfl⟩

theorem letters_of_stringBody {s : List Char} (h : stringBody true fuel cs = .ok (s, rest)) :
    ∃ ls, cs = bodyChars ls ++ '"' :: rest := by
  fun_induction stringBody true fuel cs generalizing s with
  | case1 cs => cases h
  | case2 n => cases h
  | case3 fuel cs =>
    cases h
    exact ⟨[], rfl⟩
  | case4 fuel hne => cases h
  | case5 fuel cs hne ih =>
    obtain ⟨⟨found, behind⟩, hcode, h⟩ := bind_eq_ok.1 h
    cases found with
    | none => cases h
    | some c =>
      obtain ⟨ms, hms⟩ := letters_of_unicodeEscape hcode
      obtain ⟨t, -, ht⟩ := cons_eq_ok h
      obtain ⟨ls, rfl⟩ := ih behind ht
      refine ⟨ms ++ ls, ?_⟩
      simp only [hms, bodyChars, List.flatMap_append, List.append_assoc]
  | case6 fuel e cs hu c hc hne ih =>
    obtain ⟨t, -, ht⟩ := cons_eq_ok h
    obtain ⟨ls, rfl⟩ := ih ht
    exact ⟨.escape e c hc :: ls, rfl⟩
  | case7 fuel e cs hu hnone hne => cases h
  | case8 fuel c cs hquote hslash hcontrol => cases h
  | case9 fuel c cs hquote hslash hcontrol ih =>
    obtain ⟨t, -, ht⟩ := cons_eq_ok h
    obtain ⟨ls, rfl⟩ := ih ht
    exact ⟨.plain c ⟨hquote, hslash, Nat.not_lt.1 hcontrol⟩ :: ls, rfl⟩

end Strings

section Numbers

def NoDigit (cs : List Char) : Prop := ∀ c ∈ cs.head?, c.isDigit = false

/-- What comes next continues no number. -/
def Stops (cs : List Char) : Prop :=
  ∀ c ∈ cs.head?, c.isDigit = false ∧ c ≠ '.' ∧ c ≠ 'e' ∧ c ≠ 'E'

theorem Stops.noDigit (h : Stops cs) : NoDigit cs := fun c hc ↦ (h c hc).1

theorem noDigit_cons {c : Char} (h : c.isDigit = false) (cs : List Char) : NoDigit (c :: cs) := by
  rintro d ⟨⟩
  exact h

theorem digits1_append (ds : Digits) (h : NoDigit rest) :
    digits1 (ds.chars ++ rest) = .ok (ds.chars, rest) := by
  have hend : rest.takeWhile Char.isDigit = [] ∧ rest.dropWhile Char.isDigit = rest := by
    cases rest with
    | nil => exact ⟨rfl, rfl⟩
    | cons c cs =>
      have hc := h c rfl
      simp [hc]
  unfold digits1
  rw [List.takeWhile_append_of_pos ds.isDigit, List.dropWhile_append_of_pos ds.isDigit, hend.1,
    hend.2, List.append_nil]
  cases hds : ds.chars with
  | nil => exact absurd hds ds.ne_nil
  | cons d tail => rfl

theorem wholeDigits_append (n : Numeral) (h : NoDigit rest) :
    wholeDigits (n.digits.chars ++ rest) = .ok (n.digits.chars, rest) := by
  unfold wholeDigits
  split
  · next c cs hzero =>
    cases hds : n.digits.chars with
    | nil => exact absurd hds n.digits.ne_nil
    | cons d ds =>
      rw [hds, List.cons_append, List.cons.injEq] at hzero
      obtain ⟨rfl, hzero⟩ := hzero
      obtain rfl := n.alone ds hds
      rw [List.nil_append] at hzero
      subst hzero
      have hc : c.isDigit = false := h c rfl
      simp [hc]
  · exact digits1_append n.digits h

theorem ne_of_isDigit {c d : Char} (hc : c.isDigit) (hd : d.isDigit = false) : c ≠ d := by
  rintro rfl
  rw [hd] at hc
  cases hc

theorem exponentPart_chars (e : Exponent) (h : NoDigit rest) :
    exponentPart (e.chars ++ rest) = .ok (some e.value, rest) := by
  have hread := digits1_append e.digits h
  have htext : e.chars ++ rest = e.mark :: (e.sign.chars ++ (e.digits.chars ++ rest)) := by
    simp [Exponent.chars]
  unfold exponentPart Exponent.value
  rw [htext]
  simp only [e.isMark, if_true]
  cases hsign : e.sign with
  | plus | minus =>
    simp only [Sign.chars, List.singleton_append, hread, bind, Except.bind]
    rfl
  | absent =>
    obtain ⟨d, ds, hds, hd⟩ := e.digits.exists_cons
    rw [hds, List.cons_append] at hread
    simp only [Sign.chars, List.nil_append, hds, List.cons_append]
    split
    · next hplus => exact absurd (List.cons.inj hplus).1 (ne_of_isDigit hd rfl)
    · next hminus => exact absurd (List.cons.inj hminus).1 (ne_of_isDigit hd rfl)
    · rw [hread]
      rfl

theorem exponentPart_of_stops (h : Stops rest) : exponentPart rest = .ok (none, rest) := by
  cases rest with
  | nil => rfl
  | cons c cs =>
    have hc := h c rfl
    unfold exponentPart
    simp only [hc.2.2.1, hc.2.2.2, or_self, if_false]

theorem exponentPart_getD (e : Option Exponent) (h : Stops rest) :
    exponentPart ((e.map Exponent.chars).getD [] ++ rest) = .ok (e.map Exponent.value, rest) := by
  cases e with
  | none => exact exponentPart_of_stops h
  | some e => exact exponentPart_chars e h.noDigit

theorem head_exponent (e : Option Exponent) (h : Stops rest) :
    ∀ c ∈ ((e.map Exponent.chars).getD [] ++ rest).head?, c.isDigit = false ∧ c ≠ '.' := by
  cases e with
  | none => exact fun c hc ↦ ⟨(h c hc).1, (h c hc).2.1⟩
  | some e =>
    rintro c ⟨⟩
    rcases e.isMark with hmark | hmark <;> exact hmark ▸ by decide

def decimalsPart : List Char → Except JsonFault (Option (List Char) × List Char)
  | '.' :: cs => do
    let (ds, cs) ← digits1 cs
    pure (some ds, cs)
  | cs => pure (none, cs)

theorem decimalsPart_of_ne (h : ∀ tail, cs = '.' :: tail → False) :
    decimalsPart cs = pure (none, cs) := by
  unfold decimalsPart
  split
  · next tail => exact (h tail rfl).elim
  · rfl

def unsignedText (negative : Bool) (cs : List Char) :
    Except JsonFault (NumberText × List Char) := do
  let (digits, cs) ← wholeDigits cs
  let (decimals, cs) ← decimalsPart cs
  let (exponent, cs) ← exponentPart cs
  return (⟨negative, digits, decimals, exponent⟩, cs)

theorem numberText_eq (cs : List Char) :
    ∃ negative behind, numberText cs = unsignedText negative behind ∧
      cs = (if negative then ['-'] else []) ++ behind ∧
      (negative = false → ∀ tail, behind ≠ '-' :: tail) := by
  unfold numberText
  split
  next negative behind hsign =>
    refine ⟨negative, behind, ?_, ?_⟩
    · unfold unsignedText
      refine congrArg (wholeDigits behind >>= ·) (funext fun x ↦ ?_)
      dsimp only
      split
      · next tail hdot => simp only [hdot, decimalsPart, bind_assoc]
      · next hdot => simp only [decimalsPart_of_ne hdot]
    · split at hsign
      · cases hsign
        exact ⟨rfl, fun h ↦ Bool.noConfusion h⟩
      · next hne =>
        cases hsign
        exact ⟨rfl, fun _ ↦ hne⟩

theorem decimalsPart_getD (ds : Option Digits)
    (h : ∀ c ∈ rest.head?, c.isDigit = false ∧ c ≠ '.') :
    decimalsPart ((ds.map fun ds ↦ '.' :: ds.chars).getD [] ++ rest) =
      .ok (ds.map Digits.chars, rest) := by
  cases ds with
  | none =>
    rw [Option.map_none, Option.getD_none, List.nil_append]
    apply decimalsPart_of_ne
    rintro tail rfl
    exact (h '.' rfl).2 rfl
  | some ds =>
    have hread := digits1_append ds fun c hc ↦ (h c hc).1
    rw [Option.map_some, Option.getD_some, List.cons_append, decimalsPart, hread]
    rfl

theorem noDigit_decimals (ds : Option Digits) (h : NoDigit rest) :
    NoDigit ((ds.map fun ds ↦ '.' :: ds.chars).getD [] ++ rest) := by
  cases ds with
  | none => exact h
  | some ds => exact noDigit_cons rfl _

theorem numberText_chars (n : Numeral) (h : Stops rest) :
    numberText (n.chars ++ rest) = .ok (n.parts, rest) := by
  have hexponent := exponentPart_getD n.exponent h
  have hhead := head_exponent n.exponent h
  set behind := (n.exponent.map Exponent.chars).getD [] ++ rest with hbehind
  have hdecimals := decimalsPart_getD n.decimals hhead
  have hnoDigit := noDigit_decimals n.decimals fun c hc ↦ (hhead c hc).1
  set tail := (n.decimals.map fun ds ↦ '.' :: ds.chars).getD [] ++ behind with htail
  have hread (negative : Bool) : unsignedText negative (n.digits.chars ++ tail) =
      .ok (⟨negative, n.digits.chars, n.decimals.map Digits.chars,
        n.exponent.map Exponent.value⟩, rest) := by
    simp only [unsignedText, wholeDigits_append n hnoDigit, hdecimals, hexponent, bind, Except.bind]
    rfl
  have htext : n.chars ++ rest =
      (if n.negative then ['-'] else []) ++ (n.digits.chars ++ tail) := by
    simp only [Numeral.chars, htail, hbehind, List.append_assoc]
  obtain ⟨negative, unsigned, hnumber, hsplit, hne⟩ := numberText_eq (n.chars ++ rest)
  obtain ⟨d, ds, hds, hd⟩ := n.digits.exists_cons
  have hminus : d ≠ '-' := ne_of_isDigit hd rfl
  have hsame : negative = n.negative ∧ unsigned = n.digits.chars ++ tail := by
    rw [htext] at hsplit
    cases negative <;> cases hn : n.negative <;> rw [hn] at hsplit
    · exact ⟨rfl, hsplit.symm⟩
    · exact absurd hsplit.symm (hne rfl _)
    · rw [hds] at hsplit
      exact absurd (List.cons.inj hsplit).1 hminus
    · exact ⟨rfl, (List.cons.inj hsplit).2.symm⟩
  rw [hnumber, hsame.1, hsame.2, hread, Numeral.parts]

theorem digits_of_digits1 {ds : List Char} (h : digits1 cs = .ok (ds, rest)) :
    ∃ digits : Digits, digits.chars = ds ∧ cs = ds ++ rest := by
  unfold digits1 at h
  split at h
  · cases h
  · next hne =>
    cases h
    refine ⟨⟨_, hne, fun d hd ↦ List.mem_takeWhile_imp hd⟩, rfl, ?_⟩
    exact List.takeWhile_append_dropWhile.symm

theorem digits_of_wholeDigits {ds : List Char} (h : wholeDigits cs = .ok (ds, rest)) :
    ∃ digits : Digits, (∀ tail, digits.chars = '0' :: tail → tail = []) ∧ digits.chars = ds ∧
      cs = ds ++ rest := by
  unfold wholeDigits at h
  split at h
  · split_ifs at h
    cases h
    exact ⟨⟨['0'], by simp, by simp⟩, fun tail ht ↦ (List.cons.inj ht).2.symm, rfl, rfl⟩
  · next hzero =>
    obtain ⟨digits, rfl, rfl⟩ := digits_of_digits1 h
    refine ⟨digits, fun tail ht ↦ ?_, rfl, rfl⟩
    cases tail with
    | nil => rfl
    | cons c tail =>
      refine absurd ?_ (hzero c (tail ++ rest))
      rw [ht]
      rfl

theorem digits_of_decimalsPart {ds : Option (List Char)} (h : decimalsPart cs = .ok (ds, rest)) :
    ∃ digits : Option Digits,
      cs = (digits.map fun ds ↦ '.' :: ds.chars).getD [] ++ rest := by
  unfold decimalsPart at h
  split at h
  · obtain ⟨⟨found, behind⟩, hread, h⟩ := bind_eq_ok.1 h
    obtain ⟨digits, hdigits, hcs⟩ := digits_of_digits1 hread
    cases h
    refine ⟨some digits, ?_⟩
    rw [hcs, ← hdigits]
    rfl
  · cases h
    exact ⟨none, rfl⟩

theorem exponent_of_exponentPart {e : Option Int} (h : exponentPart cs = .ok (e, rest)) :
    ∃ exponent : Option Exponent, cs = (exponent.map Exponent.chars).getD [] ++ rest := by
  unfold exponentPart at h
  split at h
  · next c cs =>
    split_ifs at h with hmark
    · split at h
      all_goals
        obtain ⟨⟨ds, _⟩, hread, h⟩ := bind_eq_ok.1 h
        cases h
        obtain ⟨digits, rfl, rfl⟩ := digits_of_digits1 hread
      · exact ⟨some ⟨c, hmark, .plus, digits⟩, rfl⟩
      · exact ⟨some ⟨c, hmark, .minus, digits⟩, rfl⟩
      · exact ⟨some ⟨c, hmark, .absent, digits⟩, rfl⟩
    · cases h
      exact ⟨none, rfl⟩
  · cases h
    exact ⟨none, rfl⟩

theorem numeral_of_numberText {t : NumberText} (h : numberText cs = .ok (t, rest)) :
    ∃ n : Numeral, cs = n.chars ++ rest := by
  obtain ⟨negative, unsigned, hnumber, rfl, -⟩ := numberText_eq cs
  rw [hnumber] at h
  obtain ⟨⟨whole, _⟩, hwhole, h⟩ := bind_eq_ok.1 h
  obtain ⟨⟨decimals, _⟩, hdecimals, h⟩ := bind_eq_ok.1 h
  obtain ⟨⟨exponent, _⟩, hexponent, h⟩ := bind_eq_ok.1 h
  cases h
  obtain ⟨digits, halone, rfl, rfl⟩ := digits_of_wholeDigits hwhole
  obtain ⟨decimals, rfl⟩ := digits_of_decimalsPart hdecimals
  obtain ⟨exponent, rfl⟩ := exponent_of_exponentPart hexponent
  refine ⟨⟨negative, digits, halone, decimals, exponent⟩, ?_⟩
  simp only [Numeral.chars, List.append_assoc]

end Numbers

end Parser

end PageOutline.Json
