import PageOutline.Proofs.Endings
import PageOutline.Proofs.Lowering
import PageOutline.Proofs.Words

namespace PageOutline

open Text

section Slugs

theorem isWordChar_of_mem_replaceRuns {cs : List Char} {c : Char}
    (h : c ∈ replaceRuns (fun c ↦ !isWordChar c) '_' cs) : isWordChar c = true := by
  rcases of_mem_replaceRuns h with rfl | ⟨hword, -⟩
  · decide
  · simpa using hword

theorem dot_notMem_slugify (text : String) : '.' ∉ (slugify text).toList := by
  intro h
  rw [slugify, String.toList_ofList] at h
  have hword := isWordChar_of_mem_replaceRuns h
  revert hword
  decide

theorem slugify_eq_empty_iff {text : String} : slugify text = "" ↔ text = "" := by
  rw [← String.toList_inj, slugify, String.toList_ofList, String.toList_empty,
    replaceRuns_eq_nil_iff, lowercase, String.toList_ofList, lowerAfter_eq_nil_iff,
    String.toList_eq_nil_iff]

theorem dot_notMem_toString (index : Nat) : '.' ∉ (toString index).toList := by
  intro h
  rw [toList_toString] at h
  have hdigit := Nat.isDigit_of_mem_toDigits (by decide) (by decide) h
  revert hdigit
  decide

theorem toString_inj {i j : Nat} : toString i = toString j ↔ i = j := by
  constructor
  · intro h
    have hdigits : Nat.toDigits 10 i = Nat.toDigits 10 j := by
      rw [← toList_toString, h, toList_toString]
    rw [← @Nat.ofDigitChars_ten_toDigits i, hdigits, Nat.ofDigitChars_ten_toDigits]
  · rintro rfl
    rfl

end Slugs

section Segments

/-- The segments joined by dots, from the first one that is not empty. -/
def joinSegments (segments : List String) : String :=
  ".".intercalate (segments.dropWhile String.isEmpty)

/-- Segments that can be told apart in a name. -/
def Dotless (segments : List String) : Prop :=
  ∀ s ∈ segments, s ≠ "" ∧ '.' ∉ s.toList

theorem joinSegments_nil : joinSegments [] = "" := by
  simp [joinSegments]

theorem joinSegments_concat (segments : List String) (s : String) :
    joinSegments (segments ++ [s]) = joinName (joinSegments segments) s := by
  unfold joinSegments
  rw [List.dropWhile_append]
  rcases hkept : segments.dropWhile String.isEmpty with _ | ⟨first, more⟩
  · by_cases hs : s = ""
    · simp [joinName, hs]
    · simp [joinName, hs]
  · have hfirst : first ≠ "" := by
      have hnot := List.head_dropWhile_not String.isEmpty (l := segments) (by simp [hkept])
      simpa [hkept] using hnot
    have hne : ".".intercalate (first :: more) ≠ "" := by
      cases more <;> simp [hfirst]
    rw [List.isEmpty_cons, if_neg Bool.false_ne_true,
      String.intercalate_append_of_ne_nil (by simp) (by simp), String.intercalate_singleton,
      joinName, if_neg (by simpa using hne)]

theorem joinName_inj {parent s s' : String} :
    joinName parent s = joinName parent s' ↔ s = s' := by
  unfold joinName
  split
  · rfl
  · simp only [← String.toList_inj, String.toList_append, List.append_right_inj]

variable {segments segments' : List String}

theorem Dotless.joinSegments_eq (h : Dotless segments) :
    joinSegments segments = ".".intercalate segments := by
  cases segments with
  | nil => rfl
  | cons s more =>
    obtain ⟨hs, -⟩ := h s List.mem_cons_self
    rw [joinSegments, List.dropWhile_cons_of_neg (by simpa using hs)]

theorem Dotless.splitOn_joinSegments (h : Dotless segments) (hne : segments ≠ []) :
    (joinSegments segments).toList.splitOn '.' = segments.map String.toList := by
  rw [h.joinSegments_eq, String.toList_intercalate]
  refine List.splitOn_intercalate '.' ?_ (by simpa using hne)
  intro l hl
  obtain ⟨s, hs, rfl⟩ := List.mem_map.1 hl
  exact (h s hs).2

theorem Dotless.joinSegments_eq_empty_iff (h : Dotless segments) :
    joinSegments segments = "" ↔ segments = [] := by
  constructor
  · intro hempty
    by_contra hne
    have hsplit := h.splitOn_joinSegments hne
    rw [hempty, String.toList_empty, List.splitOn_nil] at hsplit
    obtain ⟨s, rfl, hs⟩ := List.map_eq_singleton_iff.1 hsplit.symm
    exact (h s List.mem_cons_self).1 (String.toList_eq_nil_iff.1 hs)
  · rintro rfl
    exact joinSegments_nil

theorem Dotless.joinSegments_inj (h : Dotless segments) (h' : Dotless segments') :
    joinSegments segments = joinSegments segments' ↔ segments = segments' := by
  constructor
  · intro hjoin
    by_cases hempty : joinSegments segments = ""
    · rw [h.joinSegments_eq_empty_iff.1 hempty, h'.joinSegments_eq_empty_iff.1 (hjoin ▸ hempty)]
    · have hsplit := h.splitOn_joinSegments (mt h.joinSegments_eq_empty_iff.2 hempty)
      have hsplit' := h'.splitOn_joinSegments
        (mt h'.joinSegments_eq_empty_iff.2 (hjoin ▸ hempty))
      rw [hjoin, hsplit'] at hsplit
      exact List.map_injective_iff.2 (fun _ _ ↦ String.toList_injective) hsplit.symm
  · rintro rfl
    rfl

end Segments

/-- What the name of a node depends on below its parent's name. -/
structure NameStep where
  mode : NameMode
  text : String
  index : Nat

def NameMode.Dotless : NameMode → Prop
  | .literal name => name ≠ "" ∧ '.' ∉ name.toList
  | .none | .fromText | .fromPosition => True

namespace NameStep

variable {step : NameStep} {steps steps' : List NameStep}

def resolve (step : NameStep) (parent : String) : Naming :=
  step.mode.resolve parent step.text step.index

/-- The node has the empty name, and the names below it start afresh. -/
def cuts (step : NameStep) : Bool :=
  step.mode = .fromText && step.text.isEmpty

def segment? (step : NameStep) : Option String :=
  match step.mode with
  | .none => none
  | .literal name => some name
  | .fromText => some (slugify step.text)
  | .fromPosition => some (toString step.index)

def segments (steps : List NameStep) : List String :=
  (steps.rtakeWhile fun step ↦ !step.cuts).filterMap segment?

/-- The parent of the names below a chain of nodes, each of which is named below the one before. -/
def prefixBelow (steps : List NameStep) : String :=
  steps.foldl (fun parent step ↦ (step.resolve parent).childPrefix) ""

theorem segments_concat_of_cuts (h : step.cuts = true) : segments (steps ++ [step]) = [] := by
  rw [segments, List.rtakeWhile_concat_neg _ _ _ (by simpa using h), List.filterMap_nil]

theorem segments_concat (h : step.cuts = false) :
    segments (steps ++ [step]) = segments steps ++ step.segment?.toList := by
  rw [segments, List.rtakeWhile_concat_pos _ _ _ (by simpa using h), List.filterMap_append,
    segments]
  cases hsegment : step.segment? <;> simp [hsegment]

theorem resolve_joinSegments (steps : List NameStep) (step : NameStep) :
    step.resolve (joinSegments (segments steps)) =
      ⟨if step.mode = .none then none else some (joinSegments (segments (steps ++ [step]))),
        joinSegments (segments (steps ++ [step]))⟩ := by
  obtain ⟨mode, text, index⟩ := step
  by_cases hcuts : (NameStep.mk mode text index).cuts = true
  · obtain ⟨rfl, rfl⟩ : mode = .fromText ∧ text = "" := by simpa [cuts] using hcuts
    rw [segments_concat_of_cuts hcuts, joinSegments_nil]
    rfl
  · rw [Bool.not_eq_true] at hcuts
    rw [segments_concat hcuts]
    cases mode with
    | none => simp [resolve, NameMode.resolve, segment?]
    | literal name => simp [resolve, NameMode.resolve, segment?, Naming.named, joinSegments_concat]
    | fromText =>
      have htext : text ≠ "" := by simpa [cuts] using hcuts
      simp [resolve, NameMode.resolve, segment?, Naming.named, joinSegments_concat, htext]
    | fromPosition =>
      simp [resolve, NameMode.resolve, segment?, Naming.named, joinSegments_concat]

theorem prefixBelow_eq (steps : List NameStep) :
    prefixBelow steps = joinSegments (segments steps) := by
  induction steps using List.reverseRecOn with
  | nil => exact joinSegments_nil.symm
  | append_singleton steps step ih =>
    have hfold : prefixBelow (steps ++ [step]) = (step.resolve (prefixBelow steps)).childPrefix :=
      List.foldl_concat ..
    rw [hfold, ih, resolve_joinSegments]

theorem dotless_segments (h : ∀ step ∈ steps, step.mode.Dotless) : Dotless (segments steps) := by
  intro s hs
  obtain ⟨step, hstep, hsegment⟩ := List.mem_filterMap.1 hs
  have hmode := h step ((List.rtakeWhile_suffix _ _).subset hstep)
  have hcuts := List.mem_rtakeWhile_imp hstep
  obtain ⟨mode, text, index⟩ := step
  cases mode with
  | none => cases hsegment
  | literal name =>
    obtain rfl : name = s := Option.some.inj hsegment
    exact hmode
  | fromText =>
    obtain rfl : slugify text = s := Option.some.inj hsegment
    have htext : text ≠ "" := by simpa [cuts] using hcuts
    exact ⟨mt slugify_eq_empty_iff.1 htext, dot_notMem_slugify text⟩
  | fromPosition =>
    obtain rfl : toString index = s := Option.some.inj hsegment
    exact ⟨toString_ne_empty index, dot_notMem_toString index⟩

end NameStep

namespace Pass.Stop

open LivePage NameStep

variable {σ : Type} [LivePage σ] {settings : Settings} {v w x : Stop σ} {steps : List NameStep}

def TellsText (w : Stop σ) (text : String) : Prop :=
  ∃ liveTag s t, onPage (tag w.node) w.session = (.ok liveTag, s) ∧
    resolveText w.recipe.directive w.node s = (.ok text, t)

def nameStep (w : Stop σ) (text : String) : NameStep := ⟨w.recipe.directive.name, text, w.index⟩

/-- The walk comes from one stop to another by way of these nodes, without the last one. -/
inductive NamedAlong (settings : Settings) (v : Stop σ) : List NameStep → Stop σ → Prop
  | refl : NamedAlong settings v [] v
  | tail {steps : List NameStep} {w x : Stop σ} {text : String}
      (earlier : NamedAlong settings v steps w) (told : w.TellsText text)
      (next : Next settings w x) : NamedAlong settings v (steps ++ [w.nameStep text]) x

theorem TellsText.unique {text text' : String} (h : w.TellsText text) (h' : w.TellsText text') :
    text = text' := by
  obtain ⟨liveTag, s, t, htag, htext⟩ := h
  obtain ⟨liveTag', s', t', htag', htext'⟩ := h'
  cases htag.symm.trans htag'
  cases htext.symm.trans htext'
  rfl

theorem Next.parent (h : Next settings w x) :
    ∃ text, w.TellsText text ∧ x.parent = ((w.nameStep text).resolve w.parent).childPrefix := by
  obtain ⟨⟨-, hentered, -⟩, -, -⟩ := h
  rw [Stop.enter, enter_eq, bind_eq_ok] at hentered
  obtain ⟨liveTag, s, htag, hentered⟩ := hentered
  obtain ⟨text, t, htext, hentered⟩ := bind_eq_ok.1 hentered
  obtain ⟨_, u, -, hentered⟩ := bind_eq_ok.1 hentered
  obtain ⟨_, u', -, hentered⟩ := bind_eq_ok.1 hentered
  obtain ⟨composed, y, -, hentered⟩ := bind_eq_ok.1 hentered
  obtain ⟨full, z, -, ⟨⟩⟩ := bind_eq_ok.1 hentered
  exact ⟨text, ⟨liveTag, s, t, htag, htext⟩, rfl⟩

theorem Reaches.namedAlong (h : Reaches settings v w) : ∃ steps, NamedAlong settings v steps w := by
  induction h with
  | refl => exact ⟨[], .refl⟩
  | tail _ hnext ih =>
    obtain ⟨steps, hsteps⟩ := ih
    obtain ⟨text, htold, -⟩ := hnext.parent
    exact ⟨_, hsteps.tail htold hnext⟩

theorem NamedAlong.parent (h : NamedAlong settings v steps w) (hv : v.parent = "") :
    w.parent = prefixBelow steps := by
  induction h with
  | refl => exact hv
  | tail _ htold hnext ih =>
    obtain ⟨text, htext, hparent⟩ := hnext.parent
    rw [hparent, ih, htold.unique htext, prefixBelow, prefixBelow, List.foldl_concat]

end Pass.Stop

namespace NameStep

open Pass

/-- The names below a chain of nodes have the path of the segments after its last cut as their
parent, in a walk as well, and the path can be split again where no fixed name has dots. -/
theorem prefixBelow_dotted :
    (∀ steps, prefixBelow steps = joinSegments (segments steps)) ∧
    (∀ steps (step : NameStep), step.resolve (prefixBelow steps) =
      ⟨if step.mode = .none then none else some (joinSegments (segments (steps ++ [step]))),
        joinSegments (segments (steps ++ [step]))⟩) ∧
    (∀ (step : NameStep) parent, step.cuts = true → step.resolve parent = ⟨some "", ""⟩) ∧
    (∀ {σ : Type} [LivePage σ] (settings : Settings) (v w : Stop σ), v.parent = "" →
      Stop.Reaches settings v w → (∃ steps, Stop.NamedAlong settings v steps w) ∧
        ∀ steps, Stop.NamedAlong settings v steps w →
          w.parent = joinSegments (segments steps)) ∧
    (∀ steps, (∀ step ∈ steps, step.mode.Dotless) → prefixBelow steps ≠ "" →
      ((prefixBelow steps).toList.splitOn '.').map String.ofList = segments steps) ∧
    (∀ steps steps', (∀ step ∈ steps, step.mode.Dotless) → (∀ step ∈ steps', step.mode.Dotless) →
      (prefixBelow steps = prefixBelow steps' ↔ segments steps = segments steps')) ∧
    ∀ parent text text' i j,
      (NameMode.fromPosition.resolve parent text i).name =
        (NameMode.fromPosition.resolve parent text' j).name ↔ i = j := by
  refine ⟨prefixBelow_eq, fun steps step ↦ ?_, fun step parent hcuts ↦ ?_,
    fun settings v w hv hw ↦ ?_, fun steps hsteps hne ↦ ?_, fun steps steps' hsteps hsteps' ↦ ?_,
    fun parent text text' i j ↦ ?_⟩
  · rw [prefixBelow_eq, resolve_joinSegments]
  · obtain ⟨mode, text, index⟩ := step
    obtain ⟨rfl, rfl⟩ : mode = .fromText ∧ text = "" := by simpa [cuts] using hcuts
    rfl
  · refine ⟨hw.namedAlong, fun steps hsteps ↦ ?_⟩
    rw [hsteps.parent hv, prefixBelow_eq]
  · have hdotless := dotless_segments hsteps
    rw [prefixBelow_eq] at hne ⊢
    rw [hdotless.splitOn_joinSegments (mt hdotless.joinSegments_eq_empty_iff.2 hne), List.map_map]
    simp
  · rw [prefixBelow_eq, prefixBelow_eq]
    exact (dotless_segments hsteps).joinSegments_inj (dotless_segments hsteps')
  · have hnames : (NameMode.fromPosition.resolve parent text i).name =
        (NameMode.fromPosition.resolve parent text' j).name ↔
          joinName parent (toString i) = joinName parent (toString j) := Option.some_inj
    rw [hnames, joinName_inj, toString_inj]

def cartSteps : List NameStep :=
  [⟨.literal "shop", "", 0⟩, ⟨.fromText, "", 1⟩, ⟨.none, "Cart", 2⟩,
    ⟨.fromText, "Add. to Cart!", 3⟩, ⟨.fromPosition, "", 12⟩]

theorem prefixBelow_dotted_cartSteps :
    (∀ step ∈ cartSteps, step.mode.Dotless) ∧ prefixBelow cartSteps = "add_to_cart_.12" ∧
    ((prefixBelow cartSteps).toList.splitOn '.').map String.ofList = ["add_to_cart_", "12"] := by
  have hmodes : ∀ step ∈ cartSteps, step.mode.Dotless := by
    simp [cartSteps, NameMode.Dotless]
  have hjoined : prefixBelow cartSteps = "add_to_cart_.12" := by decide +kernel
  have hsegments : segments cartSteps = ["add_to_cart_", "12"] := by decide +kernel
  obtain ⟨-, -, -, -, hsplit, -⟩ := prefixBelow_dotted
  exact ⟨hmodes, hjoined, (hsplit _ hmodes (by simp [hjoined])).trans hsegments⟩

end NameStep

end PageOutline
