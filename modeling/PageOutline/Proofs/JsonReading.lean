import PageOutline.Proofs.JsonLexemes
import PageOutline.Proofs.JsonNesting
import Mathlib.Data.List.DropRight

namespace PageOutline.Json

namespace Parser

variable {limit levels fuel : Nat} {cs rest after : List Char}

section Blanks

theorem skipSpace_blank (b : Blank) (cs : List Char) : skipSpace (b.chars ++ cs) = skipSpace cs :=
  List.dropWhile_append_of_pos b.isSpace

theorem skipSpace_skipSpace (cs : List Char) : skipSpace (skipSpace cs) = skipSpace cs :=
  List.dropWhile_idempotent _ _

theorem blank_of_skipSpace (cs : List Char) : ∃ b : Blank, cs = b.chars ++ skipSpace cs :=
  ⟨⟨cs.takeWhile isSpace, fun _ hc ↦ List.mem_takeWhile_imp hc⟩,
    List.takeWhile_append_dropWhile.symm⟩

theorem stops_cons {c : Char} (h : c.isDigit = false ∧ c ≠ '.' ∧ c ≠ 'e' ∧ c ≠ 'E')
    (cs : List Char) : Stops (c :: cs) := by
  rintro d ⟨⟩
  exact h

theorem Stops.blank (b : Blank) (h : Stops cs) : Stops (b.chars ++ cs) := by
  cases hb : b.chars with
  | nil => exact h
  | cons c tail =>
    have hspace : isSpace c := b.isSpace c (hb ▸ List.mem_cons_self)
    apply stops_cons
    simp only [isSpace, Bool.or_eq_true, beq_iff_eq] at hspace
    rcases hspace with ((rfl | rfl) | rfl) | rfl <;> decide

end Blanks

end Parser

theorem Numeral.exists_cons (n : Numeral) :
    ∃ c cs, n.chars = c :: cs ∧ (c = '-' ∨ c.isDigit) := by
  unfold Numeral.chars
  cases n.negative with
  | true => exact ⟨'-', _, rfl, .inl rfl⟩
  | false =>
    obtain ⟨d, ds, hds, hd⟩ := n.digits.exists_cons
    rw [hds]
    exact ⟨d, _, rfl, .inr hd⟩

namespace Written

open PageOutline.Json.Parser

variable {limit levels fuel : Nat} {cs rest after : List Char}

theorem opens_chars (w : Written) : Opens w.chars := by
  cases w with
  | null => exact opens_cons rfl (by decide) _
  | bool b => cases b <;> exact opens_cons rfl (by decide) _
  | string ls => exact opens_cons rfl (by decide) _
  | number n =>
    obtain ⟨c, cs, hchars, hc⟩ := n.exists_cons
    rw [chars, hchars]
    refine opens_cons ?_ (ne_of_begins hc (by decide)) cs
    simp (disch := decide) [isSpace, ne_of_begins hc]
  | array b items => exact opens_cons rfl (by decide) _
  | object b members => exact opens_cons rfl (by decide) _

theorem skipSpace_chars (w : Written) (b : Blank) (cs : List Char) :
    skipSpace (b.chars ++ (w.chars ++ cs)) = w.chars ++ cs := by
  rw [skipSpace_blank, w.opens_chars.skipSpace]

def itemChars (p : Padded Written) (cs : List Char) : List Char :=
  p.before.chars ++ (p.inner.chars ++ (p.after.chars ++ cs))

theorem itemsChars_singleton (p : Padded Written) (cs : List Char) :
    itemsChars [p] ++ cs = itemChars p cs := by
  simp [itemsChars, itemChars]

theorem itemsChars_cons_cons (p q : Padded Written) (ps : List (Padded Written))
    (cs : List Char) :
    itemsChars (p :: q :: ps) ++ cs = itemChars p (',' :: (itemsChars (q :: ps) ++ cs)) := by
  simp [itemsChars, itemChars]

theorem skipSpace_itemChars (p : Padded Written) (cs : List Char) :
    skipSpace (itemChars p cs) = p.inner.chars ++ (p.after.chars ++ cs) :=
  skipSpace_chars p.inner p.before _

theorem skipSpace_items_ne (p : Padded Written) (ps : List (Padded Written)) (cs : List Char) :
    ∀ tail, skipSpace (itemsChars (p :: ps) ++ cs) ≠ ']' :: tail := by
  cases ps with
  | nil =>
    rw [itemsChars_singleton, skipSpace_itemChars]
    exact p.inner.opens_chars.append_ne_close _
  | cons q ps =>
    rw [itemsChars_cons_cons, skipSpace_itemChars]
    exact p.inner.opens_chars.append_ne_close _

def memberChars (m : Member) (cs : List Char) : List Char :=
  m.1.before.chars ++ '"' :: (Letter.bodyChars m.1.inner ++ '"' :: (m.1.after.chars ++
    ':' :: (m.2.before.chars ++ (m.2.inner.chars ++ (m.2.after.chars ++ cs)))))

theorem membersChars_singleton (m : Member) (cs : List Char) :
    membersChars [m] ++ cs = memberChars m cs := by
  simp [membersChars, memberChars, Letter.quotedChars]

theorem membersChars_cons_cons (m n : Member)
    (ms : List Member) (cs : List Char) :
    membersChars (m :: n :: ms) ++ cs = memberChars m (',' :: (membersChars (n :: ms) ++ cs)) := by
  simp [membersChars, memberChars, Letter.quotedChars]

theorem skipSpace_members (m : Member)
    (ms : List Member) (cs : List Char) :
    ∃ tail, skipSpace (membersChars (m :: ms) ++ cs) = '"' :: tail := by
  cases ms with
  | nil =>
    rw [membersChars_singleton, memberChars, skipSpace_blank]
    exact ⟨_, rfl⟩
  | cons n ms =>
    rw [membersChars_cons_cons, memberChars, skipSpace_blank]
    exact ⟨_, rfl⟩

section Reading

theorem value_number {n : Numeral} {v : Json} (hrest : Stops rest)
    (h : value true limit levels (n.chars ++ rest) = .ok (v, after)) :
    (Written.number n).value? = some v ∧ after = rest := by
  have hread := numberText_chars n hrest
  obtain ⟨c, cs, hchars, hc⟩ := n.exists_cons
  rw [hchars, List.cons_append] at h hread
  rw [value_of_scalar _ (ne_of_begins hc (by decide)) (ne_of_begins hc (by decide)), scalar] at h
  simp (disch := decide) only [ne_of_begins hc, if_false, hc, if_true, Parser.number, hread, bind,
    Except.bind] at h
  rw [value?]
  cases hvalue : n.parts.value? with
  | none =>
    rw [hvalue] at h
    cases h
  | some x =>
    rw [hvalue] at h
    cases h
    exact ⟨rfl, rfl⟩

theorem value_string {ls : List Letter} {v : Json}
    (h : value true limit levels (Letter.quotedChars ls ++ rest) = .ok (v, after)) :
    (Written.string ls).value? = some v ∧ after = rest := by
  have htext : Letter.quotedChars ls ++ rest = '"' :: (Letter.bodyChars ls ++ '"' :: rest) := by
    simp [Letter.quotedChars]
  rw [htext, value_of_scalar _ (by decide) (by decide), scalar] at h
  obtain ⟨⟨s, _⟩, hread, h⟩ := bind_eq_ok.1 h
  cases h
  obtain ⟨⟨t, _⟩, hbody, h⟩ := bind_eq_ok.1 hread
  cases h
  obtain ⟨hdecode, rfl⟩ := stringBody_letters hbody
  rw [value?, Letter.text?, hdecode]
  exact ⟨rfl, rfl⟩

theorem items_itemChars {p : Padded Written} {vs : List Json} {text : List Char}
    (hvalue : ∀ v behind, value true limit levels (p.inner.chars ++ (p.after.chars ++ cs)) =
      .ok (v, behind) → p.inner.value? = some v ∧ behind = p.after.chars ++ cs)
    (htext : skipSpace text = skipSpace (itemChars p cs))
    (h : items (fun cs ↦ value true limit levels (skipSpace cs)) (fuel + 1) text =
      .ok (vs, after)) :
    ∃ v, p.inner.value? = some v ∧
      (match skipSpace cs with
        | ',' :: cs =>
          match skipSpace cs with
          | ']' :: _ => .error .malformed
          | cs => do
            let (vs, cs) ← items (fun cs ↦ value true limit levels (skipSpace cs)) fuel cs
            return (v :: vs, cs)
        | ']' :: cs => return ([v], cs)
        | cs => .error (faultAt cs)) = Except.ok (vs, after) := by
  rw [items] at h
  obtain ⟨⟨v, behind⟩, hread, h⟩ := bind_eq_ok.1 h
  rw [htext, skipSpace_itemChars] at hread
  obtain ⟨hv, rfl⟩ := hvalue v behind hread
  refine ⟨v, hv, ?_⟩
  dsimp only at h
  rw [skipSpace_blank] at h
  exact h

def wholeMember (limit levels : Nat) (_ : String) (cs : List Char) :
    Except JsonFault (Option Json × List Char) := do
  let (v, cs) ← value true limit levels cs
  return (some v, cs)

theorem objectMembers_memberChars {m : Member} {found : List (String × Json)}
    (hvalue : ∀ v behind, value true limit levels (m.2.inner.chars ++ (m.2.after.chars ++ cs)) =
      .ok (v, behind) → m.2.inner.value? = some v ∧ behind = m.2.after.chars ++ cs)
    (h : objectMembers true limit (wholeMember limit levels) (fuel + 1)
      (skipSpace (memberChars m cs)) = .ok (found, after)) :
    ∃ key v, Letter.text? m.1.inner = some key ∧ m.2.inner.value? = some v ∧
      (match skipSpace cs with
        | ',' :: cs => do
          let (ms, cs) ← objectMembers true limit (wholeMember limit levels) fuel (skipSpace cs)
          return ((key, v) :: ms, cs)
        | '\x7d' :: cs => return ([(key, v)], cs)
        | cs => .error (faultAt cs)) = Except.ok (found, after) := by
  have hquote : skipSpace (memberChars m cs) = '"' :: _ := skipSpace_blank _ _
  rw [hquote, objectMembers] at h
  obtain ⟨⟨key, _⟩, hkey, h⟩ := bind_eq_ok.1 h
  obtain ⟨⟨s, _⟩, hbody, hstring⟩ := bind_eq_ok.1 hkey
  cases hstring
  obtain ⟨hdecode, rfl⟩ := stringBody_letters hbody
  have hcolon : skipSpace (m.1.after.chars ++ ':' :: (m.2.before.chars ++
      (m.2.inner.chars ++ (m.2.after.chars ++ cs)))) = ':' :: _ := skipSpace_blank _ _
  dsimp only at h
  simp only [hcolon, pure_bind, skipSpace_chars] at h
  obtain ⟨⟨found, _⟩, hmember, h⟩ := bind_eq_ok.1 h
  obtain ⟨⟨v, _⟩, hread, hmember⟩ := bind_eq_ok.1 hmember
  cases hmember
  obtain ⟨hv, rfl⟩ := hvalue v _ hread
  refine ⟨String.ofList s, v, by rw [Letter.text?, hdecode]; rfl, hv, ?_⟩
  dsimp only at h
  rw [skipSpace_blank] at h
  exact h

mutual

-- The recursion is on what is written. Levels and fuel only say whether anything is read at all.

theorem value_chars {w : Written} {levels : Nat} {v : Json} {rest after : List Char}
    (hrest : Stops rest) (h : value true limit levels (w.chars ++ rest) = .ok (v, after)) :
    w.value? = some v ∧ after = rest := by
  match w, levels with
  | .null, _ =>
    rw [chars, List.cons_append, value_of_scalar _ (by decide) (by decide)] at h
    cases h
    exact ⟨rfl, rfl⟩
  | .bool true, _ =>
    rw [chars, List.cons_append, value_of_scalar _ (by decide) (by decide)] at h
    cases h
    exact ⟨rfl, rfl⟩
  | .bool false, _ =>
    rw [chars, List.cons_append, value_of_scalar _ (by decide) (by decide)] at h
    cases h
    exact ⟨rfl, rfl⟩
  | .string ls, _ =>
    rw [chars] at h
    exact value_string h
  | .number n, _ =>
    rw [chars] at h
    exact value_number hrest h
  | .array b items, 0 => cases h
  | .object b members, 0 => cases h
  | .array b ps, levels + 1 =>
    have htext : (array b ps).chars ++ rest =
        '[' :: (b.chars ++ (itemsChars ps ++ ']' :: rest)) := by
      simp [chars]
    rw [htext, value, skipSpace_blank] at h
    cases hps : ps with
    | nil =>
      subst hps
      cases h
      exact ⟨rfl, rfl⟩
    | cons p later =>
      rw [← hps]
      have hne : ps ≠ [] := hps ▸ nofun
      split at h
      · next tail hclose =>
        rw [hps] at hclose
        exact absurd hclose (skipSpace_items_ne p later _ tail)
      · obtain ⟨⟨vs, _⟩, hread, h⟩ := bind_eq_ok.1 h
        cases h
        obtain ⟨hvs, rfl⟩ := items_chars hne (skipSpace_skipSpace _) hread
        rw [value?, hvs]
        exact ⟨rfl, rfl⟩
  | .object b ms, levels + 1 =>
    have htext : (object b ms).chars ++ rest =
        '\x7b' :: (b.chars ++ (membersChars ms ++ '\x7d' :: rest)) := by
      simp [chars]
    rw [htext, value, skipSpace_blank] at h
    cases hms : ms with
    | nil =>
      subst hms
      cases h
      exact ⟨rfl, rfl⟩
    | cons m later =>
      rw [← hms]
      have hne : ms ≠ [] := hms ▸ nofun
      split at h
      · next heq =>
        obtain ⟨tail, htail⟩ := skipSpace_members m later ('\x7d' :: rest)
        rw [hms, htail] at heq
        cases heq
      · obtain ⟨⟨found, _⟩, hread, h⟩ := bind_eq_ok.1 h
        cases h
        obtain ⟨hfound, rfl⟩ := members_chars hne hread
        rw [value?, hfound]
        exact ⟨rfl, rfl⟩

theorem items_chars {ps : List (Padded Written)} {levels fuel : Nat} {vs : List Json}
    {cs rest after : List Char} (hps : ps ≠ [])
    (hcs : skipSpace cs = skipSpace (itemsChars ps ++ ']' :: rest))
    (h : items (fun cs ↦ value true limit levels (skipSpace cs)) fuel cs = .ok (vs, after)) :
    itemValues? ps = some vs ∧ after = rest := by
  match ps, fuel with
  | _, 0 => cases h
  | [⟨b, w, a⟩], fuel + 1 =>
    have hstops : Stops (']' :: rest) := stops_cons (by decide) rest
    rw [itemsChars_singleton] at hcs
    obtain ⟨v, hv, h⟩ := items_itemChars (fun v behind ↦ value_chars (hstops.blank a)) hcs h
    cases h
    rw [itemValues?, hv]
    exact ⟨rfl, rfl⟩
  | ⟨b, w, a⟩ :: q :: qs, fuel + 1 =>
    have hstops := stops_cons (c := ',') (by decide) (itemsChars (q :: qs) ++ ']' :: rest)
    rw [itemsChars_cons_cons] at hcs
    obtain ⟨v, hv, h⟩ := items_itemChars (fun v behind ↦ value_chars (hstops.blank a)) hcs h
    have hcomma : skipSpace (',' :: (itemsChars (q :: qs) ++ ']' :: rest)) = ',' :: _ :=
      skipSpace_cons rfl _
    simp only [hcomma] at h
    split at h
    · cases h
    · obtain ⟨⟨later, _⟩, hlater, h⟩ := bind_eq_ok.1 h
      cases h
      obtain ⟨hfound, rfl⟩ := items_chars (List.cons_ne_nil q qs) (skipSpace_skipSpace _) hlater
      rw [itemValues?, hv, hfound]
      exact ⟨rfl, rfl⟩

theorem members_chars {ms : List Member} {levels fuel : Nat} {found : List (String × Json)}
    {rest after : List Char} (hms : ms ≠ [])
    (h : objectMembers true limit (wholeMember limit levels) fuel
      (skipSpace (membersChars ms ++ '\x7d' :: rest)) = .ok (found, after)) :
    memberValues? ms = some found ∧ after = rest := by
  match ms, fuel with
  | _, 0 => cases h
  | [(k, ⟨b, w, a⟩)], fuel + 1 =>
    have hstops : Stops ('\x7d' :: rest) := stops_cons (by decide) rest
    rw [membersChars_singleton] at h
    obtain ⟨key, v, hkey, hv, h⟩ := objectMembers_memberChars
      (fun v behind ↦ value_chars (hstops.blank a)) h
    cases h
    rw [memberValues?, hkey, hv]
    exact ⟨rfl, rfl⟩
  | (k, ⟨b, w, a⟩) :: n :: ms, fuel + 1 =>
    have hstops := stops_cons (c := ',') (by decide) (membersChars (n :: ms) ++ '\x7d' :: rest)
    rw [membersChars_cons_cons] at h
    obtain ⟨key, v, hkey, hv, h⟩ := objectMembers_memberChars
      (fun v behind ↦ value_chars (hstops.blank a)) h
    obtain ⟨⟨later, _⟩, hlater, h⟩ := bind_eq_ok.1 h
    cases h
    obtain ⟨hfound, rfl⟩ := members_chars (List.cons_ne_nil n ms) hlater
    rw [memberValues?, hkey, hv, hfound]
    exact ⟨rfl, rfl⟩

end

end Reading

section Accepted

theorem word_eq_ok {ws : List Char} (h : word ws cs = .ok rest) : cs = ws ++ rest := by
  induction ws generalizing cs with
  | nil =>
    cases h
    rfl
  | cons w ws ih =>
    cases cs with
    | nil => cases h
    | cons c cs =>
      rw [word] at h
      split_ifs at h with hc
      rw [hc, ih h, List.cons_append]

theorem exists_of_scalar {v : Json} (h : scalar true limit cs = .ok (v, rest)) :
    ∃ w : Written, cs = w.chars ++ rest := by
  unfold scalar at h
  split at h
  · cases h
  · next c cs =>
    split_ifs at h with hnull htrue hfalse hquote hnumber
    · obtain ⟨_, hword, h⟩ := bind_eq_ok.1 h
      cases h
      exact ⟨.null, by rw [hnull, word_eq_ok hword]; rfl⟩
    · obtain ⟨_, hword, h⟩ := bind_eq_ok.1 h
      cases h
      exact ⟨.bool true, by rw [htrue, word_eq_ok hword]; rfl⟩
    · obtain ⟨_, hword, h⟩ := bind_eq_ok.1 h
      cases h
      exact ⟨.bool false, by rw [hfalse, word_eq_ok hword]; rfl⟩
    · obtain ⟨⟨s, _⟩, hstring, h⟩ := bind_eq_ok.1 h
      cases h
      obtain ⟨⟨t, _⟩, hbody, hstring⟩ := bind_eq_ok.1 hstring
      cases hstring
      obtain ⟨ls, rfl⟩ := letters_of_stringBody hbody
      exact ⟨.string ls, by simp [hquote, chars, Letter.quotedChars]⟩
    · obtain ⟨⟨text, behind⟩, htext, h⟩ := bind_eq_ok.1 h
      obtain ⟨n, hn⟩ := numeral_of_numberText htext
      have hrest : behind = rest := by
        dsimp only at h
        split at h
        · cases h
          rfl
        · cases h
      exact ⟨.number n, by rw [hn, hrest, chars]⟩

theorem blank_itemsChars (b : Blank) (p : Padded Written) (ps : List (Padded Written)) :
    ∃ q, b.chars ++ itemsChars (p :: ps) = itemsChars (q :: ps) := by
  refine ⟨{ p with before := b.append p.before }, ?_⟩
  cases ps <;> simp [itemsChars, Blank.append]

theorem blank_membersChars (b : Blank) (m : Member)
    (ms : List Member) :
    ∃ n, b.chars ++ membersChars (m :: ms) = membersChars (n :: ms) := by
  refine ⟨({ m.1 with before := b.append m.1.before }, m.2), ?_⟩
  cases ms <;> simp [membersChars, Blank.append]

theorem exists_of_items {item : List Char → Except JsonFault (Json × List Char)}
    (hitem : ∀ cs v rest, item cs = .ok (v, rest) →
      ∃ (b : Blank) (w : Written), cs = b.chars ++ (w.chars ++ rest))
    {vs : List Json} (h : items item fuel cs = .ok (vs, rest)) :
    ∃ p ps, cs = itemsChars (p :: ps) ++ ']' :: rest := by
  induction fuel generalizing cs vs with
  | zero => cases h
  | succ fuel ih =>
    rw [items] at h
    obtain ⟨⟨v, behind⟩, hread, hnext⟩ := bind_eq_ok.1 h
    obtain ⟨b, w, rfl⟩ := hitem _ _ _ hread
    obtain ⟨a, ha⟩ := blank_of_skipSpace behind
    dsimp only at hnext
    split at hnext
    · next later hcomma =>
      rw [hcomma] at ha
      split at hnext
      · cases hnext
      · obtain ⟨⟨found, _⟩, hlater, hnext⟩ := bind_eq_ok.1 hnext
        cases hnext
        obtain ⟨q, qs, hq⟩ := ih hlater
        obtain ⟨c, hc⟩ := blank_of_skipSpace later
        obtain ⟨r, hr⟩ := blank_itemsChars c q qs
        rw [hq, ← List.append_assoc, hr] at hc
        exact ⟨⟨b, w, a⟩, r :: qs, by rw [ha, hc]; simp [itemsChars]⟩
    · next hclose =>
      cases hnext
      rw [hclose] at ha
      exact ⟨⟨b, w, a⟩, [], by rw [ha]; simp [itemsChars]⟩
    · cases hnext

theorem exists_of_objectMembers
    (hvalue : ∀ cs v rest, value true limit levels cs = .ok (v, rest) →
      ∃ w : Written, cs = w.chars ++ rest)
    {found : List (String × Json)}
    (h : objectMembers true limit (wholeMember limit levels) fuel cs = .ok (found, rest)) :
    ∃ m ms, cs = membersChars (m :: ms) ++ '\x7d' :: rest := by
  induction fuel generalizing cs found with
  | zero => cases h
  | succ fuel ih =>
    unfold objectMembers at h
    split at h
    · next body =>
      obtain ⟨⟨key, behind⟩, hkey, hcolon⟩ := bind_eq_ok.1 h
      obtain ⟨⟨s, _⟩, hbody, hkey⟩ := bind_eq_ok.1 hkey
      cases hkey
      obtain ⟨ls, rfl⟩ := letters_of_stringBody hbody
      obtain ⟨a, ha⟩ := blank_of_skipSpace behind
      dsimp only at hcolon
      split at hcolon
      · next tail htail =>
        rw [htail] at ha
        simp only [pure_bind] at hcolon
        obtain ⟨⟨v, after⟩, hmember, hnext⟩ := bind_eq_ok.1 hcolon
        obtain ⟨⟨v, _⟩, hv, hmember⟩ := bind_eq_ok.1 hmember
        cases hmember
        obtain ⟨w, hw⟩ := hvalue _ _ _ hv
        obtain ⟨b, hb⟩ := blank_of_skipSpace tail
        obtain ⟨c, hc⟩ := blank_of_skipSpace after
        rw [hw] at hb
        dsimp only at hnext
        split at hnext
        · next later hcomma =>
          rw [hcomma] at hc
          obtain ⟨⟨found, _⟩, hlater, hnext⟩ := bind_eq_ok.1 hnext
          cases hnext
          obtain ⟨n, ns, hn⟩ := ih hlater
          obtain ⟨e, he⟩ := blank_of_skipSpace later
          obtain ⟨r, hr⟩ := blank_membersChars e n ns
          rw [hn, ← List.append_assoc, hr] at he
          refine ⟨(⟨.empty, ls, a⟩, ⟨b, w, c⟩), r :: ns, ?_⟩
          rw [ha, hb, hc, he]
          simp [membersChars, Letter.quotedChars, Blank.empty]
        · next hclose =>
          cases hnext
          rw [hclose] at hc
          refine ⟨(⟨.empty, ls, a⟩, ⟨b, w, c⟩), [], ?_⟩
          rw [ha, hb, hc]
          simp [membersChars, Letter.quotedChars, Blank.empty]
        · cases hnext
      · cases hcolon
    · cases h

theorem exists_of_value {v : Json} (h : value true limit levels cs = .ok (v, rest)) :
    ∃ w : Written, cs = w.chars ++ rest := by
  induction levels generalizing cs v rest with
  | zero => exact exists_of_scalar h
  | succ levels ih =>
    unfold value at h
    split at h
    · next cs =>
      obtain ⟨b, hb⟩ := blank_of_skipSpace cs
      split at h
      · next hclose =>
        cases h
        rw [hclose] at hb
        exact ⟨.array b [], by rw [hb]; simp [chars, itemsChars]⟩
      · obtain ⟨⟨vs, _⟩, hread, h⟩ := bind_eq_ok.1 h
        cases h
        have hitem : ∀ cs v rest, value true limit levels (skipSpace cs) = .ok (v, rest) →
            ∃ (b : Blank) (w : Written), cs = b.chars ++ (w.chars ++ rest) := by
          intro cs v rest hv
          obtain ⟨w, hw⟩ := ih hv
          obtain ⟨b, hb⟩ := blank_of_skipSpace cs
          exact ⟨b, w, by rw [← hw]; exact hb⟩
        obtain ⟨p, ps, hps⟩ := exists_of_items hitem hread
        rw [hps] at hb
        exact ⟨.array b (p :: ps), by rw [hb]; simp [chars]⟩
    · next cs =>
      obtain ⟨b, hb⟩ := blank_of_skipSpace cs
      split at h
      · next hclose =>
        cases h
        rw [hclose] at hb
        exact ⟨.object b [], by rw [hb]; simp [chars, membersChars]⟩
      · obtain ⟨⟨found, _⟩, hread, h⟩ := bind_eq_ok.1 h
        cases h
        obtain ⟨m, ms, hms⟩ := exists_of_objectMembers (fun cs v rest ↦ ih) hread
        rw [hms] at hb
        exact ⟨.object b (m :: ms), by rw [hb]; simp [chars]⟩
    · exact exists_of_scalar h

end Accepted

end Written

/-- What is read of a text is the value that is written there. -/
theorem value?_of_parse {t : Padded Written} {v : Json} (h : parse t.text .whole = .ok v) :
    t.inner.value? = some v := by
  have hstops : Parser.Stops t.after.chars := by
    have hblank : Parser.Stops (t.after.chars ++ []) := .blank t.after nofun
    rwa [List.append_nil] at hblank
  rw [parse, Padded.text, String.toList_ofList, Written.skipSpace_chars, Parser.read_whole] at h
  obtain ⟨⟨w, _⟩, hread, h⟩ := bind_eq_ok.1 h
  obtain ⟨hw, rfl⟩ := Written.value_chars hstops hread
  dsimp only at h
  split at h
  · cases h
    exact hw
  · cases h

/-- A text that is read is JSON. -/
theorem exists_text_of_parse {text : String} {v : Json} (h : parse text .whole = .ok v) :
    ∃ t : Padded Written, t.text = text := by
  obtain ⟨⟨w, behind⟩, hread, h⟩ := bind_eq_ok.1 h
  rw [Parser.read_whole] at hread
  obtain ⟨w, hw⟩ := Written.exists_of_value hread
  obtain ⟨b, hb⟩ := Parser.blank_of_skipSpace text.toList
  obtain ⟨a, ha⟩ := Parser.blank_of_skipSpace behind
  dsimp only at h
  split at h
  · next hend =>
    rw [hend, List.append_nil] at ha
    refine ⟨⟨b, w, a⟩, ?_⟩
    rw [Padded.text, ← ha, ← hw, ← hb, String.ofList_toList]
  · cases h

end PageOutline.Json
