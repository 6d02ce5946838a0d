import PageOutline.Html.Construction
import PageOutline.Proofs.Arena
import PageOutline.Proofs.Escaping

namespace PageOutline.Html

open Markup
open Text (isAsciiBlank isAsciiAlphanumeric)

def isNameChar (c : Char) : Bool := c.isLower || c.isDigit || c == '-'

def IsName (s : String) : Prop := s.toList.head?.any Char.isLower ∧ ∀ c ∈ s.toList, isNameChar c

instance (s : String) : Decidable (IsName s) :=
  @instDecidableAnd _ _ _ (List.decidableBAll _ _)

/-- Texts that are kept as they are: none of their characters is dropped, and no end of a line is
changed. -/
def IsKept (s : String) : Prop := ∀ c ∈ s.toList, c ≠ '\x00' ∧ c ≠ '\r'

instance (s : String) : Decidable (IsKept s) := List.decidableBAll _ _

section Escapes

theorem escapeTextChar_cases (c : Char) :
    c ≠ '<' ∧ c ≠ '&' ∧ escapeTextChar c = [c] ∨
      ∃ name, escapeTextChar c = '&' :: name ∧
        ∀ inValue r, reference inValue (name ++ r) = ([c], r) := by
  unfold escapeTextChar
  simp only [beq_iff_eq]
  split_ifs with hamp hlt hgt
  · exact .inr ⟨_, rfl, fun _ _ ↦ hamp ▸ rfl⟩
  · exact .inr ⟨_, rfl, fun _ _ ↦ hlt ▸ rfl⟩
  · exact .inr ⟨_, rfl, fun _ _ ↦ hgt ▸ rfl⟩
  · exact .inl ⟨hlt, hamp, rfl⟩

theorem escapeValueChar_cases (c : Char) :
    c ≠ '"' ∧ c ≠ '&' ∧ escapeValueChar c = [c] ∨
      ∃ name, escapeValueChar c = '&' :: name ∧
        ∀ inValue r, reference inValue (name ++ r) = ([c], r) := by
  unfold escapeValueChar
  simp only [beq_iff_eq]
  split_ifs with hquote
  · exact .inr ⟨_, rfl, fun _ _ ↦ hquote ▸ rfl⟩
  · rcases escapeTextChar_cases c with ⟨-, hamp, hself⟩ | hreference
    · exact .inl ⟨hquote, hamp, hself⟩
    · exact .inr hreference

theorem value_escape {s : List Char} (hs : ∀ c ∈ s, c ≠ '\x00') (r : List Char) {limit : Nat}
    (hlimit : s.length ≤ limit) :
    value (· == '"') limit (s.flatMap escapeValueChar ++ '"' :: r) = (s, '"' :: r) := by
  induction s generalizing limit with
  | nil => cases limit <;> rfl
  | cons c s ih =>
    obtain ⟨less, rfl⟩ := Nat.exists_eq_add_one_of_ne_zero (Nat.ne_zero_of_lt hlimit)
    rw [List.forall_mem_cons] at hs
    have hrest := ih hs.2 (Nat.le_of_succ_le_succ hlimit)
    rw [List.flatMap_cons, List.append_assoc]
    rcases escapeValueChar_cases c with ⟨hquote, hamp, hself⟩ | ⟨name, hname, hread⟩
    · rw [hself, List.singleton_append, value, if_neg (by simpa using hquote), if_neg hamp, hrest,
        shown, if_neg hs.1]
    · rw [hname, List.cons_append, value, if_neg (by decide), if_pos rfl, hread]
      dsimp only
      rw [hrest, List.singleton_append]

theorem length_le_flatMap_escape (s : List Char) :
    s.length ≤ (s.flatMap escapeValueChar).length := by
  induction s with
  | nil => exact Nat.le_refl _
  | cons c s ih =>
    have hpos : 0 < (escapeValueChar c).length := by
      rcases escapeValueChar_cases c with ⟨-, -, hself⟩ | ⟨name, hname, -⟩
      · simp [hself]
      · simp [hname]
    rw [List.flatMap_cons, List.length_append, List.length_cons]
    omega

end Escapes

section Names

theorem ne_of_isNameChar {c d : Char} (hc : isNameChar c) (hd : isNameChar d = false) : c ≠ d := by
  rintro rfl
  rw [hc] at hd
  cases hd

theorem isNameChar_of_isLower {c : Char} (h : c.isLower) : isNameChar c := by
  simp [isNameChar, h]

theorem isAlpha_of_isLower {c : Char} (h : c.isLower) : c.isAlpha :=
  (Bool.or_eq_true _ _).mpr (.inr h)

theorem endsTagName_of_isNameChar {c : Char} (h : isNameChar c) : endsTagName c = false := by
  have hne (d : Char) (hd : isNameChar d = false) : c ≠ d := ne_of_isNameChar h hd
  simp [endsTagName, isAsciiBlank, hne ' ' (by decide), hne '\t' (by decide), hne '\n' (by decide),
    hne '\x0c' (by decide), hne '\r' (by decide), hne '/' (by decide), hne '>' (by decide)]

theorem skipBlanks_of_isNameChar {c : Char} (h : isNameChar c) (cs : List Char) :
    skipBlanks (c :: cs) = c :: cs := by
  have hends := endsTagName_of_isNameChar h
  rw [endsTagName, Bool.or_eq_false_iff, Bool.or_eq_false_iff] at hends
  exact List.dropWhile_cons_of_neg (by simp [hends.1.1])

theorem isUpper_of_isNameChar {c : Char} (h : isNameChar c) : c.isUpper = false := by
  refine decide_eq_false ?_
  simp only [isNameChar, Bool.or_eq_true, beq_iff_eq] at h
  simp only [ge_iff_le, UInt32.le_iff_toNat_le]
  rcases h with (h | h) | rfl
  · have hlower : 'a'.val ≤ c.val := of_decide_eq_true ((Bool.and_eq_true _ _).mp h).1
    have hab : 'Z'.val.toNat < 'a'.val.toNat := by decide
    rw [UInt32.le_iff_toNat_le] at hlower
    omega
  · have hdigit : c.val ≤ '9'.val := of_decide_eq_true ((Bool.and_eq_true _ _).mp h).2
    have hab : '9'.val.toNat < 'A'.val.toNat := by decide
    rw [UInt32.le_iff_toNat_le] at hdigit
    omega
  · decide

theorem loweredShown_of_isNameChar {c : Char} (h : isNameChar c) : loweredShown c = c := by
  rw [loweredShown, toLower_of_not_isUpper (isUpper_of_isNameChar h), shown,
    if_neg (ne_of_isNameChar h (by decide))]

variable {s : String}

theorem IsName.exists_cons (h : IsName s) : ∃ c cs, s.toList = c :: cs ∧ c.isLower := by
  obtain ⟨hfirst, -⟩ := h
  rcases hs : s.toList with _ | ⟨c, cs⟩
  · rw [hs] at hfirst
    cases hfirst
  · rw [hs] at hfirst
    exact ⟨c, cs, rfl, hfirst⟩

theorem IsName.isLowered (h : IsName s) : IsLowered s := fun c hc ↦
  isUpper_of_isNameChar (h.2 c hc)

theorem IsName.ofList_loweredShown (h : IsName s) :
    String.ofList (s.toList.map loweredShown) = s := by
  have hsame : s.toList.map loweredShown = s.toList :=
    (List.map_congr_left fun c hc ↦ loweredShown_of_isNameChar (h.2 c hc)).trans (List.map_id _)
  rw [hsame, String.ofList_toList]

end Names

section Tags

theorem takeWhile_append_cons {p : Char → Bool} {cs : List Char} {c : Char} (hcs : ∀ d ∈ cs, p d)
    (hc : p c = false) (r : List Char) :
    (cs ++ c :: r).takeWhile p = cs ∧ (cs ++ c :: r).dropWhile p = c :: r := by
  rw [List.takeWhile_append_of_pos hcs, List.dropWhile_append_of_pos hcs,
    List.takeWhile_cons_of_neg (by simp [hc]), List.dropWhile_cons_of_neg (by simp [hc]),
    List.append_nil]
  exact ⟨rfl, rfl⟩

theorem attributeValue?_escape {s : String} (hs : IsKept s) (r : List Char) {limit : Nat}
    (hlimit : s.toList.length ≤ limit) :
    attributeValue? limit ('"' :: (s.toList.flatMap escapeValueChar ++ '"' :: r)) =
      some (s, r) := by
  have hvalue := value_escape (fun d hd ↦ (hs d hd).1) r hlimit
  have hskip : skipBlanks ('"' :: (s.toList.flatMap escapeValueChar ++ '"' :: r)) =
      '"' :: (s.toList.flatMap escapeValueChar ++ '"' :: r) := rfl
  rw [attributeValue?, hskip]
  split
  · next h => cases h
  · next h => exact absurd (List.cons.inj h).1 (by decide)
  · next h =>
    obtain ⟨rfl, rfl⟩ := List.cons.inj h
    rw [if_pos (.inl rfl), hvalue]
    simp only [String.ofList_toList]

theorem attribute?_chars {a : String × String} (hname : IsName a.1) (hvalue : IsKept a.2)
    (r : List Char) {limit : Nat} (hlimit : a.2.toList.length ≤ limit) :
    attribute? limit (a.1.toList ++
      '=' :: '"' :: (a.2.toList.flatMap escapeValueChar ++ '"' :: r)) = some (a, r) := by
  obtain ⟨c, cs, hcs, -⟩ := hname.exists_cons
  have hread := hname.ofList_loweredShown
  have hplain := hname.2
  rw [hcs, List.forall_mem_cons] at hplain
  have hin : ∀ d ∈ cs, (!endsTagName d && d != '=') = true := by
    intro d hd
    have hd := hplain.2 d hd
    have hne : d ≠ '=' := ne_of_isNameChar hd (by decide)
    simp [endsTagName_of_isNameChar hd, hne]
  have hstop : (!endsTagName '=' && '=' != '=') = false := by decide
  obtain ⟨htake, hdrop⟩ := takeWhile_append_cons hin hstop
    ('"' :: (a.2.toList.flatMap escapeValueChar ++ '"' :: r))
  rw [hcs] at hread ⊢
  rw [List.cons_append, attribute?]
  dsimp only
  rw [htake, hdrop, hread]
  change (attributeValue? limit _).map _ = _
  rw [attributeValue?_escape hvalue r hlimit]
  rfl

theorem attributes_cons {c : Char} (hc : isNameChar c) (limit : Nat)
    (found : List (String × String)) (cs : List Char) :
    attributes (limit + 1) found (' ' :: c :: cs) =
      (attribute? limit (c :: cs)).bind fun x ↦ attributes limit (addAttribute found x.1) x.2 := by
  have hskip : skipBlanks (' ' :: c :: cs) = c :: cs := skipBlanks_of_isNameChar hc cs
  have hclose : c ≠ '>' := ne_of_isNameChar hc (by decide)
  have hslash : c ≠ '/' := ne_of_isNameChar hc (by decide)
  rw [attributes, hskip]
  split
  · next h => cases h
  · next h => exact absurd (List.cons.inj h).1 hclose
  · next h => exact absurd (List.cons.inj h).1 hslash
  · next h => exact absurd (List.cons.inj h).1 hslash
  · cases attribute? limit (c :: cs) <;> rfl

theorem attributes_chars {pairs found : List (String × String)}
    (hplain : ∀ a ∈ pairs, IsName a.1 ∧ IsKept a.2) (hnodup : ((found ++ pairs).map Prod.fst).Nodup)
    (r : List Char) {limit : Nat} (hlimit : (pairs.flatMap attributeChars).length < limit) :
    attributes limit found (pairs.flatMap attributeChars ++ '>' :: r) =
      some (found ++ pairs, false, r) := by
  induction pairs generalizing found limit with
  | nil =>
    obtain ⟨less, rfl⟩ := Nat.exists_eq_add_one_of_ne_zero (Nat.ne_zero_of_lt hlimit)
    rw [List.append_nil]
    rfl
  | cons a pairs ih =>
    obtain ⟨less, rfl⟩ := Nat.exists_eq_add_one_of_ne_zero (Nat.ne_zero_of_lt hlimit)
    rw [List.forall_mem_cons] at hplain
    obtain ⟨c, cs, hcs, hc⟩ := hplain.1.1.exists_cons
    have hlength := length_le_flatMap_escape a.2.toList
    have hparts : (attributeChars a).length =
        a.1.toList.length + (a.2.toList.flatMap escapeValueChar).length + 4 := by
      simp [attributeChars]
      omega
    rw [List.flatMap_cons, List.length_append] at hlimit
    have htext : (a :: pairs).flatMap attributeChars ++ '>' :: r = ' ' :: (a.1.toList ++
        '=' :: '"' :: (a.2.toList.flatMap escapeValueChar ++
          '"' :: (pairs.flatMap attributeChars ++ '>' :: r))) := by
      simp [attributeChars]
    have hvalue : a.2.toList.length ≤ less := by omega
    have hread := attribute?_chars hplain.1.1 hplain.1.2
      (pairs.flatMap attributeChars ++ '>' :: r) hvalue
    have hnew : addAttribute found a = found ++ [a] := by
      rw [List.map_append, List.map_cons, List.nodup_append] at hnodup
      have hfresh : found.any (·.1 == a.1) = false := by
        rw [List.any_eq_false]
        intro b hb heq
        exact hnodup.2.2 _ (List.mem_map_of_mem hb) _ List.mem_cons_self (by simpa using heq)
      rw [addAttribute, hfresh]
      rfl
    rw [htext]
    rw [hcs, List.cons_append] at hread ⊢
    rw [attributes_cons (isNameChar_of_isLower hc), hread, Option.bind_some, hnew,
      ih hplain.2 (by simpa using hnodup) (by omega), List.append_assoc, List.singleton_append]

variable {tag : String} {pairs : List (String × String)}

theorem tag?_chars (htag : IsName tag) (hplain : ∀ a ∈ pairs, IsName a.1 ∧ IsKept a.2)
    (hnodup : (pairs.map Prod.fst).Nodup) (r : List Char) {limit : Nat}
    (hlimit : (pairs.flatMap attributeChars).length < limit) :
    tag? limit (tag.toList ++ (pairs.flatMap attributeChars ++ '>' :: r)) =
      some (⟨tag, pairs, false⟩, r) := by
  have hin : ∀ c ∈ tag.toList, (!endsTagName c) = true := fun c hc ↦ by
    simp [endsTagName_of_isNameChar (htag.2 c hc)]
  have hread := @attributes_chars pairs [] hplain hnodup r limit hlimit
  obtain ⟨c, cs, hcs, hc⟩ : ∃ c cs, pairs.flatMap attributeChars ++ '>' :: r = c :: cs ∧
      (!endsTagName c) = false := by
    cases pairs with
    | nil => exact ⟨'>', r, rfl, by decide⟩
    | cons a pairs => exact ⟨' ', _, rfl, by decide⟩
  rw [hcs] at hread ⊢
  obtain ⟨htake, hdrop⟩ := takeWhile_append_cons hin hc cs
  unfold tag?
  dsimp only
  rw [htake, hdrop, hread, htag.ofList_loweredShown]
  rfl

theorem opening_of_isLower {c : Char} (hc : c.isLower) (limit : Nat) (foreign : Bool)
    (cs : List Char) : opening limit foreign (c :: cs) = tagToken limit .startTag (c :: cs) := by
  have hname := isNameChar_of_isLower hc
  rw [opening, if_pos (isAlpha_of_isLower hc)]
  · exact fun h ↦ absurd h (ne_of_isNameChar hname (by decide))
  · exact fun h ↦ absurd h (ne_of_isNameChar hname (by decide))
  · exact fun h ↦ absurd h (ne_of_isNameChar hname (by decide))

theorem scan_startTag (htag : IsName tag) (hplain : ∀ a ∈ pairs, IsName a.1 ∧ IsKept a.2)
    (hnodup : (pairs.map Prod.fst).Nodup) (r : List Char) {limit : Nat}
    (hlimit : (startTag tag pairs).toList.length ≤ limit) (foreign : Bool) :
    scan limit foreign .markup ((startTag tag pairs).toList ++ r) =
      ⟨[.startTag ⟨tag, pairs, false⟩], .markup, r⟩ := by
  obtain ⟨c, cs, hcs, hc⟩ := htag.exists_cons
  rw [toList_startTag] at hlimit ⊢
  simp only [List.length_cons, List.length_append] at hlimit
  have hread := tag?_chars htag hplain hnodup r (show _ < limit by omega)
  have htext : '<' :: (tag.toList ++ (pairs.flatMap attributeChars ++ ['>'])) ++ r =
      '<' :: (tag.toList ++ (pairs.flatMap attributeChars ++ '>' :: r)) := by simp
  rw [htext, scan, if_pos rfl]
  rw [hcs, List.cons_append] at hread ⊢
  rw [opening_of_isLower hc, tagToken, hread]

theorem scan_endTag (htag : IsName tag) (r : List Char) {limit : Nat}
    (hlimit : (endTag tag).toList.length ≤ limit) (foreign : Bool) :
    scan limit foreign .markup ((endTag tag).toList ++ r) = ⟨[.endTag tag], .markup, r⟩ := by
  obtain ⟨c, cs, hcs, hc⟩ := htag.exists_cons
  rw [toList_endTag] at hlimit ⊢
  have hread : tag? limit (tag.toList ++ ([] ++ '>' :: r)) = some (⟨tag, [], false⟩, r) :=
    tag?_chars htag (List.forall_mem_nil _) List.nodup_nil r (Nat.zero_lt_of_lt hlimit)
  have htext : '<' :: '/' :: (tag.toList ++ ['>']) ++ r =
      '<' :: '/' :: (tag.toList ++ ([] ++ '>' :: r)) := by simp
  rw [htext, scan, if_pos rfl]
  rw [hcs, List.cons_append] at hread ⊢
  have hclosing : opening limit foreign ('/' :: c :: (cs ++ ([] ++ '>' :: r))) =
      endTagToken limit (c :: (cs ++ ([] ++ '>' :: r))) := by
    have hclose : c ≠ '>' := ne_of_isNameChar (isNameChar_of_isLower hc) (by decide)
    change closing limit _ = _
    rw [closing, if_pos (isAlpha_of_isLower hc)]
    exact hclose
  rw [hclosing, endTagToken, tagToken, hread]

end Tags

section LineEnds

theorem notMem_escapeTextChar {c : Char} (h : c ≠ '\r') : '\r' ∉ escapeTextChar c := by
  unfold escapeTextChar
  split_ifs <;> simp [Ne.symm h]

theorem notMem_escapeValueChar {c : Char} (h : c ≠ '\r') : '\r' ∉ escapeValueChar c := by
  unfold escapeValueChar
  split_ifs
  · decide
  · exact notMem_escapeTextChar h

theorem IsName.notMem {s : String} (h : IsName s) : '\r' ∉ s.toList :=
  fun hmem ↦ ne_of_isNameChar (h.2 _ hmem) (by decide) rfl

variable {tag : String} (htag : IsName tag)

include htag

theorem notMem_startTag {pairs : List (String × String)}
    (hplain : ∀ a ∈ pairs, IsName a.1 ∧ IsKept a.2) : '\r' ∉ (startTag tag pairs).toList := by
  have hvalue (a : String × String) (ha : a ∈ pairs) :
      '\r' ∉ a.2.toList.flatMap escapeValueChar := by
    intro hmem
    obtain ⟨c, hc, hmem⟩ := List.mem_flatMap.1 hmem
    exact notMem_escapeValueChar ((hplain a ha).2 c hc).2 hmem
  have hattributes : '\r' ∉ pairs.flatMap attributeChars := by
    intro hmem
    obtain ⟨a, ha, hmem⟩ := List.mem_flatMap.1 hmem
    have hname := (hplain a ha).1.notMem
    simp [attributeChars, hname, hvalue a ha] at hmem
  have hname := htag.notMem
  rw [toList_startTag]
  simp only [List.mem_cons, List.mem_append, hname, hattributes]
  decide

theorem notMem_endTag : '\r' ∉ (endTag tag).toList := by
  have hname := htag.notMem
  rw [toList_endTag]
  simp only [List.mem_cons, List.mem_append, hname]
  decide

end LineEnds

theorem scan_text (c : Char) (r : List Char) (limit : Nat) (foreign : Bool) :
    scan limit foreign .markup (escapeTextChar c ++ r) = ⟨[.char c], .markup, r⟩ := by
  rcases escapeTextChar_cases c with ⟨hlt, hamp, hself⟩ | ⟨name, hname, hread⟩
  · rw [hself, List.singleton_append, scan, if_neg hlt, if_neg hamp]
  · rw [hname, List.cons_append, scan, if_neg (by decide), if_pos rfl, referenceTokens, hread]
    rfl

end PageOutline.Html
