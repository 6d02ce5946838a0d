import PageOutline.Json.Parser
import PageOutline.Json.Printer
import Mathlib.Tactic.IntervalCases

namespace PageOutline.Json

open Text (isHexDigit ofDigits hexValue)

variable {style : Style} {levels limit indent : Nat} (strict : Bool)

mutual

/-- No number is a double, integers are in range, and arrays and objects nest at most `levels`
deep. -/
def fits : Nat → Json → Bool
  | _, .null | _, .bool _ | _, .string _ => true
  | _, .number (.int n) => -Parser.negativeBound ≤ n && n < Parser.integerBound
  | _, .number (.float _) => false
  | levels + 1, .array items => fitsItems levels items
  | levels + 1, .object members => fitsMembers levels members
  | 0, .array _ | 0, .object _ => false

def fitsItems (levels : Nat) : List Json → Bool
  | [] => true
  | v :: vs => v.fits levels && fitsItems levels vs

def fitsMembers (levels : Nat) : List (String × Json) → Bool
  | [] => true
  | (_, v) :: ms => v.fits levels && fitsMembers levels ms

end

theorem fitsItems_iff {items : List Json} :
    fitsItems levels items ↔ ∀ v ∈ items, v.fits levels := by
  induction items with
  | nil => simp [fitsItems]
  | cons v vs ih => simp [fitsItems, ih]

theorem fitsMembers_iff {members : List (String × Json)} :
    fitsMembers levels members ↔ ∀ m ∈ members, m.2.fits levels := by
  induction members with
  | nil => simp [fitsMembers]
  | cons m ms ih => simp [fitsMembers, ih]

namespace Parser

section Strings

theorem stringBody_control {n : Nat} (h : n < 0x20) (fuel : Nat) (rest : List Char) :
    stringBody strict (fuel + 1) (escapeChar (Char.ofNat n) ++ rest) =
      (do
        let (s, cs) ← stringBody strict fuel rest
        return (Char.ofNat n :: s, cs)) := by
  interval_cases n <;> rfl

theorem stringBody_escapeChar (fuel : Nat) (c : Char) (rest : List Char) :
    stringBody strict (fuel + 1) (escapeChar c ++ rest) =
      (do
        let (s, cs) ← stringBody strict fuel rest
        return (c :: s, cs)) := by
  by_cases hcontrol : c.toNat < 0x20
  · have hread := stringBody_control strict hcontrol fuel rest
    rwa [Char.ofNat_toNat] at hread
  by_cases hquote : c = '"'
  · subst hquote
    rfl
  by_cases hslash : c = '\\'
  · subst hslash
    rfl
  have hne (d : Char) (hd : d.toNat < 0x20) : c ≠ d := fun hcd ↦ hcontrol (hcd ▸ hd)
  have hc : escapeChar c = [c] := by
    simp (disch := decide) [escapeChar, hquote, hslash, hcontrol, hne]
  rw [hc, List.singleton_append, stringBody.eq_def]
  simp only [hquote, hslash, hcontrol, if_false]

theorem stringBody_flatMap (s rest : List Char) {fuel : Nat} (h : s.length < fuel) :
    stringBody strict fuel (s.flatMap escapeChar ++ '"' :: rest) = .ok (s, rest) := by
  induction s generalizing fuel with
  | nil =>
    obtain ⟨fuel, rfl⟩ := Nat.exists_eq_add_of_lt h
    rfl
  | cons c s ih =>
    obtain ⟨fuel, rfl⟩ := Nat.exists_eq_add_of_lt h
    rw [List.flatMap_cons, List.append_assoc, stringBody_escapeChar, ih (by simp; omega)]
    rfl

end Strings

section Numbers

/-- What may stand behind a value in a JSON text, which is no part of a number. -/
inductive Ends : List Char → Prop
  | nil : Ends []
  | comma (cs : List Char) : Ends (',' :: cs)
  | bracket (cs : List Char) : Ends (']' :: cs)
  | brace (cs : List Char) : Ends ('\x7d' :: cs)
  | newline (cs : List Char) : Ends ('\n' :: cs)

theorem Ends.digits {rest : List Char} (h : Ends rest) :
    rest.takeWhile Char.isDigit = [] ∧ rest.dropWhile Char.isDigit = rest := by
  cases h <;> exact ⟨rfl, rfl⟩

theorem hexValue_of_isDigit {c : Char} (h : c.isDigit) : hexValue c = c.toNat - '0'.toNat := by
  simp [hexValue, h]

theorem le_ofDigitChars (ds : List Char) (n : Nat) : n ≤ Nat.ofDigitChars 10 ds n := by
  induction ds generalizing n with
  | nil => simp
  | cons d ds ih =>
    rw [Nat.ofDigitChars_cons]
    have hle := ih (10 * n + (d.toNat - '0'.toNat))
    omega

theorem addDigits_of_lt {ds : List Char} (hds : ∀ d ∈ ds, d.isDigit) {n : Nat}
    (h : Nat.ofDigitChars 10 ds n < integerBound) :
    addDigits n ds = (Nat.ofDigitChars 10 ds n, ds.length, 0) := by
  induction ds generalizing n with
  | nil => simp [addDigits]
  | cons d ds ih =>
    rw [List.forall_mem_cons] at hds
    rw [Nat.ofDigitChars_cons, ← hexValue_of_isDigit hds.1] at h ⊢
    have hlt := (le_ofDigitChars ds (10 * n + hexValue d)).trans_lt h
    simp only [addDigits, hlt, if_true, ih hds.2 h, List.length_cons]

theorem isDigit_of_mem_toDigits (n : Nat) : ∀ d ∈ Nat.toDigits 10 n, d.isDigit :=
  fun _ hd ↦ Nat.isDigit_of_mem_toDigits (by decide) (by decide) hd

theorem toDigits_ne_zero_cons {n : Nat} (h : 0 < n) (ds : List Char) :
    Nat.toDigits 10 n ≠ '0' :: ds := by
  induction n using Nat.strongRecOn generalizing ds with
  | ind n ih =>
    by_cases hn : n < 10
    · rw [Nat.toDigits_of_lt_base hn]
      interval_cases n <;> simp
    · rw [Nat.toDigits_of_base_le (by decide) (by omega)]
      intro heq
      cases hhead : Nat.toDigits 10 (n / 10) with
      | nil => exact Nat.toDigits_ne_nil hhead
      | cons d tail =>
        rw [hhead, List.cons_append] at heq
        obtain ⟨rfl, -⟩ := List.cons.inj heq
        exact ih (n / 10) (by omega) (by omega) tail hhead

theorem wholeDigits_toDigits (n : Nat) {rest : List Char} (h : Ends rest) :
    wholeDigits (Nat.toDigits 10 n ++ rest) = .ok (Nat.toDigits 10 n, rest) := by
  have hdigits := isDigit_of_mem_toDigits n
  have hread : digits1 (Nat.toDigits 10 n ++ rest) = .ok (Nat.toDigits 10 n, rest) := by
    unfold digits1
    rw [List.takeWhile_append_of_pos hdigits, List.dropWhile_append_of_pos hdigits, h.digits.1,
      h.digits.2, List.append_nil]
    cases hd : Nat.toDigits 10 n with
    | nil => exact absurd hd Nat.toDigits_ne_nil
    | cons d ds => rfl
  by_cases hn : n = 0
  · subst hn
    cases h <;> rfl
  · rw [wholeDigits, hread]
    intro c cs hzero
    cases hd : Nat.toDigits 10 n with
    | nil => exact absurd hd Nat.toDigits_ne_nil
    | cons d ds =>
      rw [hd, List.cons_append] at hzero
      obtain ⟨rfl, -⟩ := List.cons.inj hzero
      exact toDigits_ne_zero_cons (Nat.pos_of_ne_zero hn) ds hd

theorem exists_toDigits_eq_cons (n : Nat) :
    ∃ d ds, Nat.toDigits 10 n = d :: ds ∧ d.isDigit := by
  cases hd : Nat.toDigits 10 n with
  | nil => exact absurd hd Nat.toDigits_ne_nil
  | cons d ds => exact ⟨d, ds, rfl, isDigit_of_mem_toDigits n d (hd ▸ List.mem_cons_self)⟩

theorem numberText_minus (n : Nat) {rest : List Char} (h : Ends rest) :
    numberText ('-' :: (Nat.toDigits 10 n ++ rest)) =
      .ok (⟨true, Nat.toDigits 10 n, none, none⟩, rest) := by
  unfold numberText
  simp only [wholeDigits_toDigits n h]
  cases h <;> rfl

theorem numberText_toDigits (n : Nat) {rest : List Char} (h : Ends rest) :
    numberText (Nat.toDigits 10 n ++ rest) =
      .ok (⟨false, Nat.toDigits 10 n, none, none⟩, rest) := by
  obtain ⟨d, ds, hd, hdigit⟩ := exists_toDigits_eq_cons n
  have hminus : ∀ cs, Nat.toDigits 10 n ++ rest ≠ '-' :: cs := by
    rw [hd]
    rintro cs ⟨⟩
    cases hdigit
  unfold numberText
  split
  next negative cs hsign =>
    split at hsign
    · next cs hcs => exact absurd hcs (hminus cs)
    · cases hsign
      simp only [wholeDigits_toDigits n h]
      cases h <;> rfl

theorem addDigits_toDigits {n : Nat} (h : n < integerBound) :
    addDigits 0 (Nat.toDigits 10 n) = (n, (Nat.toDigits 10 n).length, 0) := by
  have hvalue : Nat.ofDigitChars 10 (Nat.toDigits 10 n) 0 = n := Nat.ofDigitChars_ten_toDigits
  have hread := addDigits_of_lt (isDigit_of_mem_toDigits n) (n := 0) (hvalue.symm ▸ h)
  rwa [hvalue] at hread

theorem value?_toDigits {n : Nat} (h : n < integerBound) :
    NumberText.value? ⟨false, Nat.toDigits 10 n, none, none⟩ = some (.int n) := by
  unfold NumberText.value?
  rw [addDigits_toDigits h]
  rfl

theorem value?_minus {n : Nat} (hpos : 0 < n) (h : n ≤ negativeBound) :
    NumberText.value? ⟨true, Nat.toDigits 10 n, none, none⟩ = some (.int (-n)) := by
  have hlt : n < integerBound := h.trans_lt (by decide)
  have hne : n ≠ 0 := Nat.ne_of_gt hpos
  unfold NumberText.value?
  rw [addDigits_toDigits hlt]
  simp [hne, h]

theorem numberChars_ofNat (n : Nat) : numberChars (.int n) = Nat.toDigits 10 n := by
  change (toString n).toList = _
  rw [Nat.toString_eq_ofList_toDigits, String.toList_ofList]

theorem numberChars_negSucc (n : Nat) :
    numberChars (.int (.negSucc n)) = '-' :: Nat.toDigits 10 (n + 1) := by
  change ("-" ++ toString (n + 1)).toList = _
  simp

theorem number_numberChars {n : Int} (hmin : -negativeBound ≤ n) (hmax : n < integerBound)
    {rest : List Char} (h : Ends rest) :
    number strict (numberChars (.int n) ++ rest) = .ok (.number (.int n), rest) := by
  unfold number
  cases n with
  | ofNat n =>
    have hlt : n < integerBound := Int.ofNat_lt.1 hmax
    simp only [Int.ofNat_eq_natCast, numberChars_ofNat, numberText_toDigits n h, bind, Except.bind,
      value?_toDigits hlt]
    rfl
  | negSucc n =>
    have hle : n + 1 ≤ negativeBound := by omega
    simp only [numberChars_negSucc, List.cons_append, numberText_minus (n + 1) h, bind, Except.bind,
      value?_minus n.succ_pos hle]
    rfl

theorem exists_numberChars_eq_cons (n : Int) :
    ∃ c cs, numberChars (.int n) = c :: cs ∧ (c = '-' ∨ c.isDigit) := by
  cases n with
  | ofNat n =>
    obtain ⟨d, ds, hd, hdigit⟩ := exists_toDigits_eq_cons n
    exact ⟨d, ds, by rw [Int.ofNat_eq_natCast, numberChars_ofNat, hd], .inr hdigit⟩
  | negSucc n => exact ⟨'-', _, numberChars_negSucc n, .inl rfl⟩

end Numbers

section Values

theorem string_quoteChars (k : String) (rest : List Char) (h : k.toList.length < limit) :
    string strict limit (k.toList.flatMap escapeChar ++ '"' :: rest) = .ok (k, rest) := by
  unfold string
  rw [stringBody_flatMap _ _ _ h]
  exact congrArg (fun s ↦ Except.ok (s, rest)) (String.ofList_toList)

theorem skipSpace_cons {c : Char} (hc : isSpace c = false) (cs : List Char) :
    skipSpace (c :: cs) = c :: cs := by
  simp only [skipSpace, List.dropWhile_cons, hc, Bool.false_eq_true, if_false]

theorem skipSpace_lineBreak {c : Char} (hc : isSpace c = false) (style : Style) (indent : Nat)
    (cs : List Char) : skipSpace (style.lineBreak indent ++ c :: cs) = c :: cs := by
  have hspaces (n : Nat) : skipSpace (List.replicate n ' ' ++ c :: cs) = c :: cs := by
    induction n with
    | zero => exact skipSpace_cons hc cs
    | succ n ih => exact ih
  cases style with
  | compact => exact skipSpace_cons hc cs
  | pretty => exact hspaces (2 * indent)

theorem skipSpace_colon {c : Char} (hc : isSpace c = false) (style : Style) (cs : List Char) :
    ∃ after, style.colon ++ c :: cs = ':' :: after ∧ skipSpace after = c :: cs := by
  cases style with
  | compact => exact ⟨c :: cs, rfl, skipSpace_cons hc cs⟩
  | pretty => exact ⟨' ' :: c :: cs, rfl, skipSpace_cons hc cs⟩

theorem ends_lineBreak (style : Style) (indent : Nat) {cs : List Char} (h : Ends cs) :
    Ends (style.lineBreak indent ++ cs) := by
  cases style with
  | compact => exact h
  | pretty => exact .newline _

def Opens (cs : List Char) : Prop := ∃ c rest, cs = c :: rest ∧ isSpace c = false ∧ c ≠ ']'

theorem opens_cons {c : Char} (hspace : isSpace c = false) (hclose : c ≠ ']') (cs : List Char) :
    Opens (c :: cs) := ⟨c, cs, rfl, hspace, hclose⟩

theorem ne_of_begins {c d : Char} (hc : c = '-' ∨ c.isDigit) (hd : d ≠ '-' ∧ d.isDigit = false) :
    c ≠ d := by
  rintro rfl
  rcases hc with rfl | hc
  · exact hd.1 rfl
  · rw [hd.2] at hc
    cases hc

theorem opens_chars {v : Json} (h : v.fits levels) (style : Style) (indent : Nat) :
    Opens (v.chars style indent) := by
  cases v with
  | null => exact opens_cons rfl (by decide) _
  | bool b => cases b <;> exact opens_cons rfl (by decide) _
  | string s => exact opens_cons rfl (by decide) _
  | number n =>
    rw [chars]
    cases n with
    | float x => simp [fits] at h
    | int n =>
      obtain ⟨c, cs, hchars, hc⟩ := exists_numberChars_eq_cons n
      rw [hchars]
      refine opens_cons ?_ (ne_of_begins hc (by decide)) cs
      simp (disch := decide) [isSpace, ne_of_begins hc]
  | array items => cases items <;> exact opens_cons rfl (by decide) _
  | object members =>
    match members with
    | [] => exact opens_cons rfl (by decide) _
    | (k, v) :: ms => exact opens_cons rfl (by decide) _

theorem Opens.append_ne_close {cs : List Char} (h : Opens cs) (rest : List Char) :
    ∀ after, cs ++ rest ≠ ']' :: after := by
  obtain ⟨c, cs, rfl, -, hne⟩ := h
  rintro after ⟨⟩
  exact hne rfl

theorem Opens.skipSpace {cs : List Char} (h : Opens cs) (rest : List Char) :
    Parser.skipSpace (cs ++ rest) = cs ++ rest := by
  obtain ⟨c, cs, rfl, hc, -⟩ := h
  exact skipSpace_cons hc _

theorem Opens.skipSpace_lineBreak {cs : List Char} (h : Opens cs) (style : Style) (indent : Nat)
    (rest : List Char) :
    Parser.skipSpace (style.lineBreak indent ++ (cs ++ rest)) = cs ++ rest := by
  obtain ⟨c, cs, rfl, hc, -⟩ := h
  exact Parser.skipSpace_lineBreak hc style indent _

theorem items_chars {item : List Char → Except JsonFault (Json × List Char)} {v : Json}
    {vs : List Json} (hopens : ∀ w ∈ vs, Opens (w.chars style (indent + 1)))
    (hitem : ∀ w ∈ v :: vs, ∀ rest, Ends rest →
      item (w.chars style (indent + 1) ++ rest) = .ok (w, rest))
    {fuel : Nat} (hf : vs.length < fuel) (rest : List Char) :
    items item fuel (v.chars style (indent + 1) ++ (itemsChars style (indent + 1) vs ++
      (style.lineBreak indent ++ ']' :: rest))) = .ok (v :: vs, rest) := by
  have hclose : Ends (style.lineBreak indent ++ ']' :: rest) := ends_lineBreak _ _ (.bracket _)
  induction vs generalizing v fuel with
  | nil =>
    obtain ⟨fuel, rfl⟩ := Nat.exists_eq_add_of_lt hf
    have hread := hitem v List.mem_cons_self _ hclose
    have hend := skipSpace_lineBreak (c := ']') rfl style indent rest
    simp only [itemsChars, List.nil_append, items, bind, Except.bind, hread, hend]
    rfl
  | cons w ws ih =>
    rw [List.forall_mem_cons] at hopens hitem
    obtain ⟨fuel, rfl⟩ := Nat.exists_eq_add_of_lt hf
    set tail := w.chars style (indent + 1) ++ (itemsChars style (indent + 1) ws ++
      (style.lineBreak indent ++ ']' :: rest)) with htail
    have htext : itemsChars style (indent + 1) (w :: ws) ++
        (style.lineBreak indent ++ ']' :: rest) =
          ',' :: (style.lineBreak (indent + 1) ++ tail) := by
      simp [itemsChars, htail]
    have hread := hitem.1 _ (.comma (style.lineBreak (indent + 1) ++ tail))
    have hskip : skipSpace (style.lineBreak (indent + 1) ++ tail) = tail :=
      hopens.1.skipSpace_lineBreak style (indent + 1) _
    have hlater : items item (ws.length + 1 + fuel) tail = .ok (w :: ws, rest) :=
      ih hopens.2 hitem.2 (by omega)
    -- a bracket behind the comma would be an error
    have hnot : ∀ cs, tail ≠ ']' :: cs := hopens.1.append_ne_close _
    rw [htext, List.length_cons, items]
    simp only [bind, Except.bind, hread, skipSpace_cons (c := ',') rfl, hskip]
    rw [hlater]
    rfl

theorem objectMembers_chars_append
    {member : String → List Char → Except JsonFault (Option Json × List Char)}
    {k : String} {v : Json} (hopens : Opens (v.chars style (indent + 1)))
    (hkey : k.toList.length < limit) {rest : List Char}
    (hmember : member k (v.chars style (indent + 1) ++ rest) = .ok (some v, rest)) (fuel : Nat) :
    objectMembers strict limit member (fuel + 1) (quoteChars k.toList ++ (style.colon ++
      (v.chars style (indent + 1) ++ rest))) =
        match skipSpace rest with
        | ',' :: cs => do
          let (ms, cs) ← objectMembers strict limit member fuel (skipSpace cs)
          return ((k, v) :: ms, cs)
        | '\x7d' :: cs => return ([(k, v)], cs)
        | cs => .error (faultAt cs) := by
  obtain ⟨c, cs, hc, hspace, -⟩ := hopens
  rw [hc, List.cons_append] at hmember ⊢
  obtain ⟨after, hcolon, hskip⟩ := skipSpace_colon hspace style (cs ++ rest)
  have hquoted : quoteChars k.toList ++ (style.colon ++ c :: (cs ++ rest)) =
      '"' :: (k.toList.flatMap escapeChar ++ '"' :: ':' :: after) := by
    rw [hcolon]
    simp [quoteChars]
  rw [hquoted, objectMembers]
  simp only [bind, Except.bind, string_quoteChars strict k _ hkey, skipSpace_cons (c := ':') rfl,
    pure, Except.pure, hskip, hmember]
  rfl

theorem objectMembers_chars
    {member : String → List Char → Except JsonFault (Option Json × List Char)}
    {m : String × Json} {ms : List (String × Json)}
    (hopens : ∀ n ∈ m :: ms, Opens (n.2.chars style (indent + 1)))
    (hkey : ∀ n ∈ m :: ms, n.1.toList.length < limit)
    (hmember : ∀ n ∈ m :: ms, ∀ rest, Ends rest →
      member n.1 (n.2.chars style (indent + 1) ++ rest) = .ok (some n.2, rest))
    {fuel : Nat} (hf : ms.length < fuel) (rest : List Char) :
    objectMembers strict limit member fuel (quoteChars m.1.toList ++ (style.colon ++
      (m.2.chars style (indent + 1) ++ (membersChars style (indent + 1) ms ++
        (style.lineBreak indent ++ '\x7d' :: rest))))) = .ok (m :: ms, rest) := by
  have hclose : Ends (style.lineBreak indent ++ '\x7d' :: rest) := ends_lineBreak _ _ (.brace _)
  induction ms generalizing m fuel with
  | nil =>
    obtain ⟨fuel, rfl⟩ := Nat.exists_eq_add_of_lt hf
    rw [List.forall_mem_singleton] at hopens hkey hmember
    have hread := objectMembers_chars_append strict hopens hkey (hmember _ hclose) fuel
    rw [skipSpace_lineBreak (c := '\x7d') rfl] at hread
    simpa [membersChars, pure, Except.pure] using hread
  | cons n ms ih =>
    obtain ⟨fuel, rfl⟩ := Nat.exists_eq_add_of_lt hf
    rw [List.forall_mem_cons] at hopens hkey hmember
    set tail := quoteChars n.1.toList ++ (style.colon ++ (n.2.chars style (indent + 1) ++
      (membersChars style (indent + 1) ms ++ (style.lineBreak indent ++ '\x7d' :: rest))))
      with htail
    have htext : membersChars style (indent + 1) (n :: ms) ++
        (style.lineBreak indent ++ '\x7d' :: rest) =
          ',' :: (style.lineBreak (indent + 1) ++ tail) := by
      simp [membersChars, htail]
    have hread := objectMembers_chars_append strict hopens.1 hkey.1
      (hmember.1 _ (.comma (style.lineBreak (indent + 1) ++ tail))) (ms.length + 1 + fuel)
    have hskip : skipSpace (style.lineBreak (indent + 1) ++ tail) = tail :=
      skipSpace_lineBreak (c := '"') rfl style (indent + 1) _
    have hlater : objectMembers strict limit member (ms.length + 1 + fuel) tail =
        .ok (n :: ms, rest) := ih hopens.2 hkey.2 hmember.2 (by omega)
    rw [htext, List.length_cons, hread, skipSpace_cons (c := ',') rfl]
    simp only [hskip, hlater]
    rfl

theorem value_of_scalar {c : Char} (hbracket : c ≠ '[') (hbrace : c ≠ '\x7b') (cs : List Char) :
    value strict limit levels (c :: cs) = scalar strict limit (c :: cs) := by
  cases levels with
  | zero => rfl
  | succ levels =>
    rw [value]
    · exact fun _ h ↦ hbracket (List.cons.inj h).1
    · exact fun _ h ↦ hbrace (List.cons.inj h).1

theorem length_quoteChars (s : List Char) : s.length < (quoteChars s).length := by
  have hle : s.length ≤ (s.flatMap escapeChar).length := by
    induction s with
    | nil => exact le_rfl
    | cons c s ih =>
      have hpos : 0 < (escapeChar c).length := by
        unfold escapeChar
        split_ifs <;> simp
      rw [List.flatMap_cons, List.length_append, List.length_cons]
      omega
  simp only [quoteChars, List.length_append, List.length_cons]
  omega

theorem value_number {n : Int} (hmin : -negativeBound ≤ n) (hmax : n < integerBound)
    {rest : List Char} (h : Ends rest) :
    value strict limit levels (numberChars (.int n) ++ rest) = .ok (.number (.int n), rest) := by
  have hread := number_numberChars strict hmin hmax h
  obtain ⟨c, cs, hchars, hc⟩ := exists_numberChars_eq_cons n
  rw [hchars, List.cons_append] at hread ⊢
  rw [value_of_scalar _ (ne_of_begins hc (by decide)) (ne_of_begins hc (by decide)), scalar]
  simp (disch := decide) only [ne_of_begins hc, if_false, hc, if_true, hread]

theorem value_string {s : String} (h : (quoteChars s.toList).length < limit) (rest : List Char) :
    value strict limit levels (quoteChars s.toList ++ rest) = .ok (.string s, rest) := by
  have hquoted : quoteChars s.toList ++ rest =
      '"' :: (s.toList.flatMap escapeChar ++ '"' :: rest) := by
    simp [quoteChars]
  have hlt := (length_quoteChars s.toList).trans h
  rw [hquoted, value_of_scalar _ (by decide) (by decide), scalar]
  simp only [if_true, string_quoteChars strict s rest hlt, bind, Except.bind]
  rfl

section Lengths

variable (style indent)

theorem length_itemsChars (vs : List Json) :
    vs.length ≤ (itemsChars style indent vs).length ∧
      ∀ v ∈ vs, (v.chars style indent).length ≤ (itemsChars style indent vs).length := by
  induction vs with
  | nil => simp
  | cons v vs ih =>
    simp only [itemsChars, List.length_append, List.length_cons, List.forall_mem_cons]
    refine ⟨by omega, by omega, fun w hw ↦ ?_⟩
    have hle := ih.2 w hw
    omega

theorem length_membersChars (ms : List (String × Json)) :
    ms.length ≤ (membersChars style indent ms).length ∧
      ∀ m ∈ ms, m.1.toList.length ≤ (membersChars style indent ms).length ∧
        (m.2.chars style indent).length ≤ (membersChars style indent ms).length := by
  induction ms with
  | nil => simp
  | cons m ms ih =>
    have hkey := length_quoteChars m.1.toList
    simp only [membersChars, List.length_append, List.length_cons, List.forall_mem_cons]
    refine ⟨by omega, ⟨by omega, by omega⟩, fun n hn ↦ ?_⟩
    have hle := ih.2 n hn
    omega

end Lengths

theorem value_array {v : Json} {vs : List Json}
    (hopens : ∀ w ∈ v :: vs, Opens (w.chars style (indent + 1)))
    (hitem : ∀ w ∈ v :: vs, ∀ rest, Ends rest →
      value strict limit levels (w.chars style (indent + 1) ++ rest) = .ok (w, rest))
    (hlimit : vs.length < limit) (rest : List Char) :
    value strict limit (levels + 1) ((array (v :: vs)).chars style indent ++ rest) =
      .ok (array (v :: vs), rest) := by
  set tail := v.chars style (indent + 1) ++ (itemsChars style (indent + 1) vs ++
    (style.lineBreak indent ++ ']' :: rest)) with htail
  have htext : (array (v :: vs)).chars style indent ++ rest =
      '[' :: (style.lineBreak (indent + 1) ++ tail) := by
    simp [chars, htail]
  have hskipped : ∀ w ∈ v :: vs, ∀ rest, Ends rest →
      value strict limit levels (skipSpace (w.chars style (indent + 1) ++ rest)) =
        .ok (w, rest) := by
    intro w hw rest hr
    rw [(hopens w hw).skipSpace]
    exact hitem w hw rest hr
  rw [List.forall_mem_cons] at hopens
  have hskip : skipSpace (style.lineBreak (indent + 1) ++ tail) = tail :=
    hopens.1.skipSpace_lineBreak style (indent + 1) _
  have hnot : ∀ cs, tail ≠ ']' :: cs := hopens.1.append_ne_close _
  have hread : items (fun cs ↦ value strict limit levels (skipSpace cs)) limit tail =
      .ok (v :: vs, rest) := items_chars hopens.2 hskipped hlimit rest
  rw [htext, value]
  simp only [hskip, hread, bind, Except.bind]
  rfl

theorem value_object {m : String × Json} {ms : List (String × Json)}
    (hopens : ∀ n ∈ m :: ms, Opens (n.2.chars style (indent + 1)))
    (hkey : ∀ n ∈ m :: ms, n.1.toList.length < limit)
    (hmember : ∀ n ∈ m :: ms, ∀ rest, Ends rest →
      value strict limit levels (n.2.chars style (indent + 1) ++ rest) = .ok (n.2, rest))
    (hlimit : ms.length < limit) (rest : List Char) :
    value strict limit (levels + 1) ((object (m :: ms)).chars style indent ++ rest) =
      .ok (object (m :: ms), rest) := by
  set tail := quoteChars m.1.toList ++ (style.colon ++ (m.2.chars style (indent + 1) ++
    (membersChars style (indent + 1) ms ++ (style.lineBreak indent ++ '\x7d' :: rest)))) with htail
  have htext : (object (m :: ms)).chars style indent ++ rest =
      '\x7b' :: (style.lineBreak (indent + 1) ++ tail) := by
    simp [chars, htail]
  have hskip : skipSpace (style.lineBreak (indent + 1) ++ tail) = tail :=
    skipSpace_lineBreak (c := '"') rfl style (indent + 1) _
  let member (_ : String) (cs : List Char) : Except JsonFault (Option Json × List Char) :=
    (value strict limit levels cs).map fun x ↦ (some x.1, x.2)
  have hsome : ∀ n ∈ m :: ms, ∀ rest, Ends rest →
      member n.1 (n.2.chars style (indent + 1) ++ rest) = .ok (some n.2, rest) := by
    intro n hn rest hr
    simp only [member, hmember n hn rest hr]
    rfl
  have hread : objectMembers strict limit member limit tail = .ok (m :: ms, rest) :=
    objectMembers_chars strict hopens hkey hsome hlimit rest
  rw [htext, value]
  simp only [hskip]
  exact congrArg (Except.map fun x ↦ (object x.1, x.2)) hread

theorem value_chars {levels indent : Nat} {v : Json} (hv : v.fits levels)
    (hl : (v.chars style indent).length < limit) {rest : List Char} (hr : Ends rest) :
    value strict limit levels (v.chars style indent ++ rest) = .ok (v, rest) := by
  -- The recursion is on the value. What stands below it is written in fewer characters, so that
  -- `limit` lasts for the items, the members and the strings of every level.
  match v, levels with
  | .null, _ =>
    rw [chars, List.cons_append, value_of_scalar _ (by decide) (by decide)]
    rfl
  | .bool true, _ =>
    rw [chars, List.cons_append, value_of_scalar _ (by decide) (by decide)]
    rfl
  | .bool false, _ =>
    rw [chars, List.cons_append, value_of_scalar _ (by decide) (by decide)]
    rfl
  | .string s, _ =>
    rw [chars] at hl ⊢
    exact value_string strict hl rest
  | .number (.float x), _ => simp [fits] at hv
  | .number (.int n), _ =>
    simp only [fits, Bool.and_eq_true, decide_eq_true_eq] at hv
    rw [chars]
    exact value_number strict hv.1 hv.2 hr
  | .array [], levels + 1 =>
    rw [chars]
    rfl
  | .array (w :: ws), levels + 1 =>
    rw [fits, fitsItems_iff] at hv
    have hlengths := length_itemsChars style (indent + 1) ws
    simp only [chars, List.length_append, List.length_cons] at hl
    refine value_array strict (fun x hx ↦ opens_chars (hv x hx) style (indent + 1))
      (fun x hx rest hr ↦ ?_) (by omega) rest
    refine value_chars (hv x hx) ?_ hr
    rcases List.mem_cons.1 hx with rfl | hx
    · omega
    · have hle := hlengths.2 x hx
      omega
  | .object [], levels + 1 =>
    rw [chars]
    rfl
  | .object (m :: ms), levels + 1 =>
    rw [fits, fitsMembers_iff] at hv
    have hlengths := length_membersChars style (indent + 1) ms
    have hkey := length_quoteChars m.1.toList
    simp only [chars, List.length_append, List.length_cons] at hl
    have hlength : ∀ n ∈ m :: ms, n.1.toList.length < limit ∧
        (n.2.chars style (indent + 1)).length < limit := by
      rw [List.forall_mem_cons]
      refine ⟨⟨by omega, by omega⟩, fun n hn ↦ ?_⟩
      have hle := hlengths.2 n hn
      exact ⟨by omega, by omega⟩
    exact value_object strict (fun n hn ↦ opens_chars (hv n hn) style (indent + 1))
      (fun n hn ↦ (hlength n hn).1)
      (fun n hn rest hr ↦ value_chars (hv n hn) (hlength n hn).2 hr) (by omega) rest

end Values

end Parser

/-- A value is read back from its text, however that is indented. -/
theorem parse_ofList_chars (style : Style) {v : Json} (hv : v.fits maxDepth) :
    parse (String.ofList (v.chars style 0)) .whole = .ok v := by
  have hopens := Parser.opens_chars hv style 0
  have hskip := hopens.skipSpace []
  have hread := Parser.value_chars true hv (Nat.lt_succ_self (v.chars style 0).length) .nil
  have hwhole (levels : Nat) (cs : List Char) (limit : Nat) :
      Parser.read limit levels .whole cs = Parser.value true limit levels cs := by
    cases levels <;> rfl
  rw [List.append_nil] at hskip hread
  simp only [parse, String.toList_ofList, String.length_ofList, hskip, hwhole, hread, bind,
    Except.bind]
  rfl

theorem parse_compress {v : Json} (hv : v.fits maxDepth) : parse v.compress .whole = .ok v :=
  parse_ofList_chars .compact hv

end PageOutline.Json
