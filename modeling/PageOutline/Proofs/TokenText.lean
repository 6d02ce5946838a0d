import PageOutline.Css.Lexer
import Mathlib.Data.List.TakeWhile

namespace PageOutline.Css.Lexer

theorem length_dropNewline_le (cs : List Char) : (dropNewline cs).length ≤ cs.length := by
  unfold dropNewline
  split <;> simp only [List.length_cons, List.length_nil] <;> omega

theorem length_escape_le (cs : List Char) : (escape cs).2.length ≤ cs.length := by
  cases cs with
  | nil => exact le_rfl
  | cons c cs =>
    rw [escape]
    split
    · have hdrop (n : Nat) : ((c :: cs).drop n).length ≤ (c :: cs).length := by simp
      dsimp only
      split
      · exact (length_dropNewline_le _).trans (hdrop _)
      · exact hdrop _
    · simp

theorem length_name_le (fuel : Nat) (cs : List Char) : (name fuel cs).2.length ≤ cs.length := by
  induction fuel generalizing cs with
  | zero => exact le_rfl
  | succ fuel ih =>
    cases cs with
    | nil => exact le_rfl
    | cons c cs =>
      have hescape := (ih (escape cs).2).trans (length_escape_le cs)
      have hplain := ih cs
      rw [name]
      split_ifs <;> simp only [List.length_cons] <;> omega

theorem length_nameOf_le (cs : List Char) : (nameOf cs).2.length ≤ cs.length :=
  length_name_le cs.length cs

theorem of_startsIdent {c : Char} {cs : List Char} (h : startsIdent (c :: cs)) :
    c = '\\' ∧ escapes cs ∨ c ≠ '\\' ∧ isNameChar c := by
  by_cases hslash : c = '\\'
  · subst hslash
    exact .inl ⟨rfl, by cases cs <;> exact h⟩
  by_cases hdash : c = '-'
  · subst hdash
    exact .inr ⟨hslash, rfl⟩
  rw [startsIdent] at h
  · exact .inr ⟨hslash, by simp [isNameChar, h]⟩
  · exact fun _ _ hd ↦ absurd hd hdash
  · exact hslash

theorem length_nameOf_le_of_startsIdent {c : Char} {cs : List Char} (h : startsIdent (c :: cs)) :
    (nameOf (c :: cs)).2.length ≤ cs.length := by
  have hescape := (length_name_le cs.length (escape cs).2).trans (length_escape_le cs)
  have hplain := length_name_le cs.length cs
  unfold nameOf
  rw [List.length_cons, name]
  rcases of_startsIdent h with ⟨rfl, hescapes⟩ | ⟨hslash, hname⟩
  · simpa [hescapes] using hescape
  · simpa [hslash, hname] using hplain

theorem length_stringBody_le (quote : Char) (fuel : Nat) (cs : List Char) :
    (stringBody quote fuel cs).2.length ≤ cs.length := by
  induction fuel generalizing cs with
  | zero => exact le_rfl
  | succ fuel ih =>
    cases cs with
    | nil => exact le_rfl
    | cons c cs =>
      have hescape := (ih (escape cs).2).trans (length_escape_le cs)
      have hnewline := (ih (dropNewline cs)).trans (length_dropNewline_le cs)
      have hplain := ih cs
      rw [stringBody.eq_def]
      dsimp only
      split_ifs
      · simp
      · simp
      · split
        · simp
        · split_ifs <;> simp only [List.length_cons] at * <;> omega
      all_goals
        simp only [List.length_cons]
        omega

theorem length_string_le (quote : Char) (cs : List Char) :
    (string quote cs).2.length ≤ cs.length := by
  have hbody := length_stringBody_le quote (cs.length + 1) cs
  unfold string
  split <;> next heq => rwa [heq] at hbody

theorem length_badUrl_le (cs : List Char) : (badUrl cs).2.length ≤ cs.length := by
  fun_induction badUrl cs <;> simp only [List.length_cons, List.length_nil] <;> omega

theorem length_url_le (fuel : Nat) (cs : List Char) : (url fuel cs).2.length ≤ cs.length := by
  induction fuel generalizing cs with
  | zero => exact le_rfl
  | succ fuel ih =>
    cases cs with
    | nil => exact le_rfl
    | cons c cs =>
      have hescape := (ih (escape cs).2).trans (length_escape_le cs)
      have hplain := ih cs
      have hbad := length_badUrl_le cs
      have hblanks := List.length_dropWhile_le isBlank cs
      rw [url]
      split_ifs
      · simp
      · split
        · simp
        · next heq =>
          rw [heq, List.length_cons] at hblanks
          simp only [List.length_cons]
          omega
        · next d ds _ heq =>
          have hbad' := length_badUrl_le ds
          rw [heq, List.length_cons] at hblanks
          rw [List.length_cons]
          omega
      all_goals
        rw [List.length_cons]
        omega

theorem length_identLike_le (cs : List Char) :
    (identLike cs).2.length ≤ (nameOf cs).2.length := by
  unfold identLike
  split
  · next n after heq =>
    rw [heq, List.length_cons]
    split
    · split
      · simp
      · simp
      · have hurl := length_url_le ((after.dropWhile isBlank).length + 1) (after.dropWhile isBlank)
        have hblanks := List.length_dropWhile_le isBlank after
        omega
    · simp
  · next heq => rw [heq]

def fraction (whole : Option Int) (cs : List Char) : Option Int × List Char :=
  match cs with
  | '.' :: d :: more =>
    if d.isDigit then (none, more.dropWhile Char.isDigit) else (whole, cs)
  | _ => (whole, cs)

def exponent (whole : Option Int) (cs : List Char) : Option Int × List Char :=
  match cs with
  | e :: d :: more =>
    if e == 'e' || e == 'E' then
      if d.isDigit then (none, more.dropWhile Char.isDigit)
      else if (d == '+' || d == '-') && more.head?.any Char.isDigit then
        (none, more.dropWhile Char.isDigit)
      else (whole, cs)
    else (whole, cs)
  | _ => (whole, cs)

def measure (n : Numeric) (cs : List Char) : Token × List Char :=
  match cs with
  | '%' :: rest => (.percentage, rest)
  | rest =>
    if startsIdent rest then (.dimension n (nameOf rest).1, (nameOf rest).2)
    else (.number n, rest)

def wholeOf (sign : Option Char) (cs : List Char) : Int :=
  let n : Int := Text.ofDigits 10 (cs.takeWhile Char.isDigit)
  clamp (if sign = some '-' then -n else n)

theorem numericAfterSign_eq (sign : Option Char) (cs : List Char) :
    numericAfterSign sign cs =
      let r := fraction (some (wholeOf sign cs)) (cs.dropWhile Char.isDigit)
      let r := exponent r.1 r.2
      measure ⟨sign.isSome, r.1⟩ r.2 := rfl

theorem length_fraction_le (whole : Option Int) (cs : List Char) :
    (fraction whole cs).2.length ≤ cs.length := by
  unfold fraction
  split
  · next more =>
    have hdigits := List.length_dropWhile_le Char.isDigit more
    split <;> simp only [List.length_cons] <;> omega
  · exact le_rfl

theorem length_exponent_le (whole : Option Int) (cs : List Char) :
    (exponent whole cs).2.length ≤ cs.length := by
  unfold exponent
  split
  · next more =>
    have hdigits := List.length_dropWhile_le Char.isDigit more
    split_ifs <;> simp only [List.length_cons] <;> omega
  · exact le_rfl

theorem length_measure_le (n : Numeric) (cs : List Char) :
    (measure n cs).2.length ≤ cs.length := by
  unfold measure
  split
  · simp
  · split
    · exact length_nameOf_le _
    · exact le_rfl

theorem length_numericAfterSign_le (sign : Option Char) (cs : List Char) :
    (numericAfterSign sign cs).2.length ≤
      (fraction (some (wholeOf sign cs)) (cs.dropWhile Char.isDigit)).2.length := by
  rw [numericAfterSign_eq]
  exact (length_measure_le ..).trans (length_exponent_le ..)

theorem length_numericAfterSign_le_of_sign (sign : Option Char) (cs : List Char) :
    (numericAfterSign sign cs).2.length ≤ cs.length :=
  (length_numericAfterSign_le sign cs).trans
    ((length_fraction_le ..).trans (List.length_dropWhile_le ..))

theorem length_numericAfterSign_le_of_startsNumber {c : Char} {cs : List Char}
    (h : startsNumber (c :: cs)) :
    (numericAfterSign none (c :: cs)).2.length ≤ cs.length := by
  refine (length_numericAfterSign_le none (c :: cs)).trans ?_
  by_cases hdigit : c.isDigit
  · rw [List.dropWhile_cons_of_pos hdigit]
    exact (length_fraction_le ..).trans (List.length_dropWhile_le ..)
  · rw [List.dropWhile_cons_of_neg hdigit]
    unfold startsNumber at h
    split at h
    · next d more heq =>
      obtain ⟨rfl, rfl⟩ := List.cons.inj heq
      have hdigits := List.length_dropWhile_le Char.isDigit more
      simp only [fraction, h, if_true, List.length_cons]
      omega
    · next heq =>
      obtain ⟨rfl, rfl⟩ := List.cons.inj heq
      exact absurd h hdigit
    · next heq => cases heq

theorem length_hash_le (cs : List Char) : (hash cs).2.length ≤ cs.length := by
  have hname := length_nameOf_le cs
  unfold hash
  split_ifs
  · exact hname
  · exact hname
  · exact le_rfl

theorem length_beforeEquals_le (c : Char) (matcher : Token) (cs : List Char) :
    (beforeEquals c matcher cs).2.length ≤ cs.length := by
  unfold beforeEquals
  split <;> simp

theorem length_afterComment_le (cs : List Char) : (afterComment cs).length ≤ cs.length := by
  fun_induction afterComment cs <;> simp only [List.length_cons, List.length_nil] <;> omega

theorem length_identLike_le_of_startsIdent {c : Char} {cs : List Char}
    (h : startsIdent (c :: cs)) : (identLike (c :: cs)).2.length ≤ cs.length :=
  (length_identLike_le _).trans (length_nameOf_le_of_startsIdent h)

theorem length_ite_le {p : Prop} [Decidable p] {x y : Option Token × List Char} {n : Nat}
    (hx : p → x.2.length ≤ n) (hy : ¬p → y.2.length ≤ n) :
    (if p then x else y).2.length ≤ n := by
  split
  · next hp => exact hx hp
  · next hp => exact hy hp

theorem length_token_le (c : Char) (cs : List Char) : (token c cs).2.length ≤ cs.length := by
  unfold token
  refine length_ite_le (fun _ ↦ List.length_dropWhile_le ..) fun _ ↦ ?_
  refine length_ite_le (fun _ ↦ length_string_le ..) fun _ ↦ ?_
  refine length_ite_le (fun _ ↦ length_hash_le _) fun _ ↦ ?_
  refine length_ite_le (fun _ ↦ length_beforeEquals_le ..) fun _ ↦ ?_
  refine length_ite_le (fun _ ↦ length_beforeEquals_le ..) fun _ ↦ ?_
  refine length_ite_le (fun _ ↦ length_beforeEquals_le ..) fun _ ↦ ?_
  refine length_ite_le (fun _ ↦ length_beforeEquals_le ..) fun _ ↦ ?_
  refine length_ite_le (fun _ ↦ length_beforeEquals_le ..) fun _ ↦ ?_
  iterate 9 refine length_ite_le (fun _ ↦ le_rfl) fun _ ↦ ?_
  refine length_ite_le (fun _ ↦ ?_) fun _ ↦ ?_
  · exact length_ite_le (fun _ ↦ length_numericAfterSign_le_of_sign ..) fun _ ↦ le_rfl
  refine length_ite_le (fun hdash ↦ ?_) fun _ ↦ ?_
  · refine length_ite_le (fun _ ↦ length_numericAfterSign_le_of_sign ..) fun _ ↦ ?_
    split
    · simp only [List.length_cons]
      omega
    · exact length_ite_le length_identLike_le_of_startsIdent fun _ ↦ le_rfl
  refine length_ite_le length_numericAfterSign_le_of_startsNumber fun _ ↦ ?_
  refine length_ite_le (fun _ ↦ ?_) fun _ ↦ ?_
  · split
    · next rest _ =>
      have hcomment := length_afterComment_le rest
      simp only [List.length_cons]
      omega
    · exact le_rfl
  refine length_ite_le (fun _ ↦ ?_) fun _ ↦ ?_
  · split
    · simp only [List.length_cons]
      omega
    · exact le_rfl
  refine length_ite_le (fun _ ↦ ?_) fun _ ↦ ?_
  · exact length_ite_le (fun _ ↦ length_nameOf_le cs) fun _ ↦ le_rfl
  exact length_ite_le length_identLike_le_of_startsIdent fun _ ↦ le_rfl

end PageOutline.Css.Lexer

namespace PageOutline.Css

open Lexer

theorem tokensFrom_nil (fuel : Nat) : tokensFrom fuel [] = [] := by
  cases fuel <;> rfl

theorem tokensFrom_cons (fuel : Nat) (c : Char) (cs : List Char) :
    tokensFrom (fuel + 1) (c :: cs) = (token c cs).1.toList ++ tokensFrom fuel (token c cs).2 :=
  rfl

theorem tokensFrom_eq_of_le {fuel fuel' : Nat} {cs : List Char} (h : cs.length ≤ fuel)
    (h' : cs.length ≤ fuel') : tokensFrom fuel cs = tokensFrom fuel' cs := by
  induction fuel generalizing fuel' cs with
  | zero =>
    obtain rfl := List.eq_nil_of_length_eq_zero (Nat.le_zero.1 h)
    rw [tokensFrom_nil, tokensFrom_nil]
  | succ fuel ih =>
    cases cs with
    | nil => rw [tokensFrom_nil, tokensFrom_nil]
    | cons c cs =>
      rw [List.length_cons] at h h'
      have hle := length_token_le c cs
      cases fuel' with
      | zero => omega
      | succ fuel' =>
        have hrest : tokensFrom fuel (token c cs).2 = tokensFrom fuel' (token c cs).2 :=
          ih (by omega) (by omega)
        rw [tokensFrom_cons, tokensFrom_cons, hrest]

def tokensOf (cs : List Char) : List Token := tokensFrom cs.length cs

theorem tokens_eq (s : String) : tokens s = tokensOf s.toList := rfl

theorem tokensOf_cons (c : Char) (cs : List Char) :
    tokensOf (c :: cs) = (token c cs).1.toList ++ tokensOf (token c cs).2 := by
  unfold tokensOf
  rw [List.length_cons, tokensFrom_cons, tokensFrom_eq_of_le (length_token_le c cs) le_rfl]

theorem length_tokensFrom_le (fuel : Nat) (cs : List Char) :
    (tokensFrom fuel cs).length ≤ fuel := by
  induction fuel generalizing cs with
  | zero => exact le_rfl
  | succ fuel ih =>
    cases cs with
    | nil => simp [tokensFrom_nil]
    | cons c cs =>
      have hrest := ih (token c cs).2
      have hone : (token c cs).1.toList.length ≤ 1 := by cases (token c cs).1 <;> simp
      rw [tokensFrom_cons, List.length_append]
      omega

end PageOutline.Css
