import PageOutline.Proofs.InStep
import PageOutline.Page.Guarded
import Mathlib.Data.List.DropRight

namespace PageOutline

section Path

def slashes (k : Nat) : String := String.ofList (List.replicate k '/')

/-- The location is the path without the slashes at its end, unless the path is one slash. -/
def StripsTo (path location : String) : Prop :=
  if path = "/" then location = "/"
  else (∀ s, location ≠ s ++ "/") ∧ ∃ k, path = location ++ slashes k

theorem toList_normalizePath {path : String} (h : path ≠ "/") :
    (normalizePath path).toList = path.toList.rdropWhile (· == '/') := by
  rw [normalizePath, if_neg h, String.toList_ofList, List.rdropWhile]

theorem rdropWhile_append_slashes (cs : List Char) (k : Nat) :
    (cs ++ List.replicate k '/').rdropWhile (· == '/') = cs.rdropWhile (· == '/') := by
  induction k with
  | zero => rw [List.replicate_zero, List.append_nil]
  | succ k ih =>
    rw [List.replicate_succ', ← List.append_assoc, List.rdropWhile_concat_pos _ _ _ (by rfl), ih]

theorem stripsTo_iff {path location : String} :
    StripsTo path location ↔ location = normalizePath path := by
  unfold StripsTo
  split
  · next h => rw [normalizePath, if_pos h, h]
  · next h =>
    rw [← String.toList_inj, toList_normalizePath h]
    constructor
    · rintro ⟨hlast, k, rfl⟩
      rw [String.toList_append, slashes, String.toList_ofList, rdropWhile_append_slashes, eq_comm,
        List.rdropWhile_eq_self_iff]
      intro hne hslash
      apply hlast (String.ofList location.toList.dropLast)
      apply String.toList_injective
      have hconcat := List.dropLast_append_getLast hne
      rw [eq_of_beq hslash] at hconcat
      rw [String.toList_append, String.toList_ofList]
      exact hconcat.symm
    · intro hlist
      constructor
      · rintro s rfl
        have hlast := List.rdropWhile_last_not (· == '/') path.toList
        rw [← hlist, String.toList_append] at hlast
        simp at hlast
      · refine ⟨(path.toList.rtakeWhile (· == '/')).length, ?_⟩
        have hall : path.toList.rtakeWhile (· == '/') =
            List.replicate (path.toList.rtakeWhile (· == '/')).length '/' := by
          rw [List.eq_replicate_iff]
          exact ⟨rfl, fun c hc ↦ by simpa using List.mem_rtakeWhile_imp hc⟩
        apply String.toList_injective
        rw [String.toList_append, hlist, slashes, String.toList_ofList, ← hall,
          List.rdropWhile_append_rtakeWhile]

theorem normalizePath_append_slashes {path : String} (h : ∃ c ∈ path.toList, c ≠ '/') (k : Nat) :
    normalizePath (path ++ slashes k) = normalizePath path := by
  obtain ⟨c, hc, hne⟩ := h
  have hroot {s : String} (hs : c ∈ s.toList) : s ≠ "/" := by
    rintro rfl
    exact hne (List.mem_singleton.1 hs)
  apply String.toList_injective
  rw [toList_normalizePath (hroot (by simp [hc])), toList_normalizePath (hroot hc),
    String.toList_append, slashes, String.toList_ofList, rdropWhile_append_slashes]

theorem StripsTo.ne_append_slash {path location s : String} (h : StripsTo path location)
    (hs : s ≠ "") : location ≠ s ++ "/" := by
  unfold StripsTo at h
  split at h
  · rintro rfl
    have hlength := congrArg String.length h
    rw [String.length_append] at hlength
    have hzero : s.length = 0 := Nat.add_right_cancel hlength
    exact hs (by simpa using hzero)
  · exact h.1 s

theorem hasRefSuffix_iff {path location : String} : hasRefSuffix path location = true ↔
    ∃ rest, location = path ++ "/ref=" ++ rest ∨ location = path ++ "ref=" ++ rest := by
  have hprefix (s : String) :
      s.toList.isPrefixOf location.toList = true ↔ ∃ rest, location = s ++ rest := by
    rw [List.isPrefixOf_iff_prefix]
    constructor
    · rintro ⟨cs, hcs⟩
      refine ⟨String.ofList cs, String.toList_injective ?_⟩
      rw [String.toList_append, String.toList_ofList, hcs]
    · rintro ⟨rest, rfl⟩
      rw [String.toList_append]
      exact List.prefix_append ..
  rw [hasRefSuffix, Bool.or_eq_true, hprefix, hprefix, ← exists_or]

end Path

/-- Every question has one answer, however often and in whatever order the page is asked. -/
def LivePage.Steady {σ : Type} [LivePage σ] (page : σ) : Prop :=
  ∃ S : σ → Prop, S page ∧ ∀ p, S p → ∀ q : Question,
    (LivePage.answer q p).1 = (LivePage.answer q page).1 ∧ S (LivePage.answer q p).2

theorem LivePage.steady_of_unchanged {σ : Type} [LivePage σ] {page : σ}
    (h : ∀ q : Question, (LivePage.answer q page).2 = page) : Steady page := by
  refine ⟨(· = page), rfl, ?_⟩
  rintro _ rfl q
  exact ⟨rfl, h q⟩

namespace PageRule

variable {σ : Type} [LivePage σ]

theorem holds_path (expected : String) (allowRef : Bool) (location : String) (page : σ) :
    (PageRule.path expected allowRef).holds location page =
      (.ok (location = expected || (allowRef && hasRefSuffix expected location)), page) := rfl

/-- Whether a rule can be evaluated and holds. -/
def fits (rule : PageRule) (location : String) (page : σ) : Bool :=
  (rule.holds location page).1 matches .ok true

theorem fits_iff {rule : PageRule} {location : String} {page : σ} :
    rule.fits location page = true ↔ (rule.holds location page).1 = .ok true := by
  unfold fits
  rcases (rule.holds location page).1 with _ | _ | _ <;> simp

theorem holds_of_steady {S : σ → Prop} {page : σ}
    (h : ∀ p, S p → ∀ q : Question,
      (LivePage.answer q p).1 = (LivePage.answer q page).1 ∧ S (LivePage.answer q p).2)
    (hpage : S page) (rule : PageRule) (location : String) {p : σ} (hp : S p) :
    (rule.holds location p).1 = (rule.holds location page).1 ∧
      S (rule.holds location p).2 := by
  let both (s t : Session σ) : Prop := S s.page ∧ S t.page
  have hask (q : Question) : Pass.Parallel both (Pass.onPage (LivePage.answer q))
      (Pass.onPage (LivePage.answer q)) := by
    intro s t hst
    obtain ⟨hs, hs'⟩ := h s.page hst.1 q
    obtain ⟨ht, ht'⟩ := h t.page hst.2 q
    exact ⟨hs.trans ht.symm, hs', ht'⟩
  obtain ⟨hsame, hkept, -⟩ :=
    rule.holds_parallel location (fun q _ ↦ hask q) ⟨p, ∅⟩ ⟨page, ∅⟩ ⟨hp, hpage⟩
  exact ⟨hsame, hkept⟩

end PageRule

namespace Catalog

variable {σ : Type} [LivePage σ] {location : String}

/-- The rules of the entries are evaluated in turn and none of them holds. The second page is what
that leaves of the first one. -/
inductive Skips (location : String) : List CatalogEntry → σ → σ → Prop
  | nil (page : σ) : Skips location [] page page
  | cons {entry : CatalogEntry} {entries : List CatalogEntry} {page after : σ}
      (h : ¬entry.rule.fits location page)
      (later : Skips location entries (entry.rule.holds location page).2 after) :
      Skips location (entry :: entries) page after

theorem selectAmong_cons (entry : CatalogEntry) (entries : List CatalogEntry) (page : σ) :
    selectAmong location (entry :: entries) page =
      if entry.rule.fits location page then
        (.ok entry.recipe, (entry.rule.holds location page).2)
      else selectAmong location entries (entry.rule.holds location page).2 := by
  have hattempt : attempt (entry.rule.holds location) page =
      (.ok (entry.rule.holds location page).1, (entry.rule.holds location page).2) := rfl
  rw [selectAmong, Access.bind_of_ok hattempt, PageRule.fits]
  rcases (entry.rule.holds location page).1 with _ | _ | _ <;> rfl

/-- What is selected is the recipe of an entry whose rule holds, behind entries that are skipped. -/
theorem selectAmong_eq_ok_iff {entries : List CatalogEntry} {page after : σ} {recipe : Recipe} :
    selectAmong location entries page = (.ok recipe, after) ↔
      ∃ before entry later p, entries = before ++ entry :: later ∧ Skips location before page p ∧
        entry.rule.holds location p = (.ok true, after) ∧ entry.recipe = recipe := by
  constructor
  · intro h
    induction entries generalizing page with
    | nil => cases h
    | cons entry entries ih =>
      rw [selectAmong_cons] at h
      split at h
      · next hfits =>
        cases h
        exact ⟨[], entry, entries, page, rfl, .nil page, Prod.ext (PageRule.fits_iff.1 hfits) rfl,
          rfl⟩
      · next hfits =>
        obtain ⟨before, found, later, p, rfl, hskips, hholds, hrecipe⟩ := ih h
        exact ⟨entry :: before, found, later, p, rfl, .cons hfits hskips, hholds, hrecipe⟩
  · rintro ⟨before, entry, later, p, rfl, hskips, hholds, rfl⟩
    induction hskips with
    | nil page =>
      have hfits : entry.rule.fits location page := PageRule.fits_iff.2 (congrArg Prod.fst hholds)
      rw [List.nil_append, selectAmong_cons, if_pos hfits, hholds]
    | cons hfits _ ih => rw [List.cons_append, selectAmong_cons, if_neg hfits, ih hholds]

theorem selectAmong_eq_error_iff {entries : List CatalogEntry} {page after : σ}
    {failure : Failure} : selectAmong location entries page = (.error failure, after) ↔
      Skips location entries page after ∧ failure = .noMatchingRecipe location := by
  constructor
  · intro h
    induction entries generalizing page with
    | nil =>
      cases h
      exact ⟨.nil _, rfl⟩
    | cons entry entries ih =>
      rw [selectAmong_cons] at h
      split at h
      · cases h
      · next hfits =>
        obtain ⟨hskips, hfailure⟩ := ih h
        exact ⟨.cons hfits hskips, hfailure⟩
  · rintro ⟨hskips, rfl⟩
    induction hskips with
    | nil page => rfl
    | cons hfits _ ih => rw [selectAmong_cons, if_neg hfits, ih]

theorem selectAmong_append {entries : List CatalogEntry} {page after : σ} {recipe : Recipe}
    (h : selectAmong location entries page = (.ok recipe, after)) (more : List CatalogEntry) :
    selectAmong location (entries ++ more) page = (.ok recipe, after) := by
  obtain ⟨before, entry, later, p, rfl, hskips, hholds, hrecipe⟩ := selectAmong_eq_ok_iff.1 h
  rw [selectAmong_eq_ok_iff]
  exact ⟨before, entry, later ++ more, p, by simp, hskips, hholds, hrecipe⟩

theorem selectAmong_of_steady {page : σ} (h : LivePage.Steady page)
    (entries : List CatalogEntry) : (selectAmong location entries page).1 =
      match entries.find? (·.rule.fits location page) with
      | some entry => .ok entry.recipe
      | none => .error (.noMatchingRecipe location) := by
  obtain ⟨S, hpage, hsteady⟩ := h
  have hfrom (p : σ) (hp : S p) : (selectAmong location entries p).1 =
      match entries.find? (·.rule.fits location page) with
      | some entry => .ok entry.recipe
      | none => .error (.noMatchingRecipe location) := by
    induction entries generalizing p with
    | nil => rfl
    | cons entry entries ih =>
      obtain ⟨hsame, hkept⟩ := PageRule.holds_of_steady hsteady hpage entry.rule location hp
      have hfits : entry.rule.fits location p = entry.rule.fits location page := by
        rw [PageRule.fits, PageRule.fits, hsame]
      rw [selectAmong_cons, hfits, List.find?_cons]
      cases entry.rule.fits location page with
      | true => rfl
      | false => exact ih _ hkept
  exact hfrom page hpage

/-- The recipe for a page is that of the first entry whose rule holds at the location that its path
strips to. -/
theorem select_first (c : Catalog) (page : σ) (path : String) :
    ∃ location, StripsTo path location ∧
      (∀ recipe after, c.select path page = (.ok recipe, after) ↔
        ∃ before entry later p, c.entries = before ++ entry :: later ∧
          Skips location before page p ∧ entry.rule.holds location p = (.ok true, after) ∧
            entry.recipe = recipe) ∧
      (∀ failure after, c.select path page = (.error failure, after) ↔
        Skips location c.entries page after ∧ failure = .noMatchingRecipe location) ∧
      (LivePage.Steady page →
        ((c.select path page).1 =
          match c.entries.find? (·.rule.fits location page) with
          | some entry => .ok entry.recipe
          | none => .error (.noMatchingRecipe location)) ∧
        ∀ c' : Catalog, c'.entries.filter (·.rule.fits location page) =
          c.entries.filter (·.rule.fits location page) →
            (c'.select path page).1 = (c.select path page).1) ∧
      (∀ recipe after more, c.select path page = (.ok recipe, after) →
        (Catalog.mk (c.entries ++ more)).select path page = (.ok recipe, after)) ∧
      ((∃ ch ∈ path.toList, ch ≠ '/') → ∀ k, c.select (path ++ slashes k) page =
        c.select path page) ∧
      (∀ expected allowRef, ∃ b, (PageRule.path expected allowRef).holds location page =
          (.ok b, page) ∧
        (b = true ↔ location = expected ∨ allowRef = true ∧ ∃ rest,
          location = expected ++ "/ref=" ++ rest ∨ location = expected ++ "ref=" ++ rest)) ∧
      ∀ s, s ≠ "" → (PageRule.path (s ++ "/") false).holds location page = (.ok false, page) := by
  have hstrips : StripsTo path (normalizePath path) := stripsTo_iff.2 rfl
  refine ⟨normalizePath path, hstrips, fun recipe after ↦ selectAmong_eq_ok_iff,
    fun failure after ↦ selectAmong_eq_error_iff, fun hsteady ↦ ⟨selectAmong_of_steady hsteady _,
      fun c' hc' ↦ ?_⟩, fun recipe after more h ↦ selectAmong_append h more, fun h k ↦ ?_,
    fun expected allowRef ↦ ⟨_, PageRule.holds_path .., ?_⟩, fun s hs ↦ ?_⟩
  · unfold select
    rw [selectAmong_of_steady hsteady, selectAmong_of_steady hsteady, ← List.head?_filter,
      ← List.head?_filter, hc']
  · unfold select
    rw [normalizePath_append_slashes h]
  · rw [Bool.or_eq_true, Bool.and_eq_true, decide_eq_true_eq, hasRefSuffix_iff]
  · rw [PageRule.holds_path, decide_eq_false (hstrips.ne_append_slash hs), Bool.false_and,
      Bool.or_false]

def mutePage : Guarded :=
  { Guarded.ofDocument ((Document.new "body").appendElement 0 "h1") with mute := [1] }

def cartCatalog : Catalog where
  entries :=
    [⟨.text "h1" (some "Cart"), .ofSelector "#titled"⟩,
      ⟨.path "/cart/" false, .ofSelector "#never"⟩, ⟨.path "/cart" false, .ofSelector "#cart"⟩]

theorem select_first_cartCatalog :
    LivePage.Steady mutePage ∧ StripsTo "/cart" "/cart" ∧
    cartCatalog.entries.map (·.rule.fits "/cart" mutePage) = [false, false, true] ∧
    (cartCatalog.select "/cart" mutePage).1 = .ok (.ofSelector "#cart") ∧
    cartCatalog.select ("/cart" ++ slashes 2) mutePage = cartCatalog.select "/cart" mutePage ∧
    ((Catalog.mk (cartCatalog.entries.drop 2)).select "/cart" mutePage).1 =
      (cartCatalog.select "/cart" mutePage).1 := by
  have hsteady : LivePage.Steady mutePage := LivePage.steady_of_unchanged fun _ ↦ rfl
  have hfits : cartCatalog.entries.map (·.rule.fits "/cart" mutePage) = [false, false, true] := by
    decide +kernel
  obtain ⟨htitled, hnever, hcart⟩ : _ ∧ _ ∧ _ := by simpa [cartCatalog] using hfits
  obtain ⟨location, hstrips, -, -, hfirst, -, hslashes, -⟩ :=
    select_first cartCatalog mutePage "/cart"
  obtain rfl : location = "/cart" := stripsTo_iff.1 hstrips
  obtain ⟨hselect, hedit⟩ := hfirst hsteady
  refine ⟨hsteady, hstrips, hfits, hselect.trans ?_, hslashes ⟨'c', by decide, by decide⟩ 2,
    hedit _ ?_⟩
  · simp [cartCatalog, htitled, hnever, hcart]
  · simp [cartCatalog, htitled, hnever]

end Catalog

end PageOutline
