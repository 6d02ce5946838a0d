import Mathlib.Data.List.DropRight
import Mathlib.Data.List.SplitBy
import PageOutline.Text.Blank

namespace PageOutline.Text

variable {p : Char → Bool} {mark : Char} {cs ds r rest : List Char}

/-- The maximal runs of a text, each of characters in `p` or of characters outside it. -/
def runs (p : Char → Bool) (cs : List Char) : List (List Char) := cs.splitBy fun c d ↦ p c == p d

section Runs

theorem runs_append_of_border (h : ∀ c ∈ cs.getLast?, ∀ d ∈ ds.head?, p c ≠ p d) :
    runs p (cs ++ ds) = runs p cs ++ runs p ds :=
  List.splitBy_append fun c hc d hd ↦ by simpa using h c hc d hd

theorem runs_of_uniform {b : Bool} (hne : r ≠ []) (h : ∀ c ∈ r, p c = b) : runs p r = [r] := by
  refine List.splitBy_of_isChain hne (List.Pairwise.isChain ?_)
  refine List.pairwise_of_forall_mem_list fun c hc d hd ↦ ?_
  simp [h c hc, h d hd]

theorem runs_append {b : Bool} (hne : r ≠ []) (h : ∀ c ∈ r, p c = b)
    (hrest : ∀ c ∈ rest.head?, p c = !b) : runs p (r ++ rest) = r :: runs p rest := by
  have hborder : ∀ c ∈ r.getLast?, ∀ d ∈ rest.head?, p c ≠ p d := by
    intro c hc d hd
    rw [h c (List.mem_of_mem_getLast? hc), hrest d hd]
    cases b <;> decide
  rw [runs_append_of_border hborder, runs_of_uniform hne h, List.singleton_append]

theorem exists_run (hne : cs ≠ []) :
    ∃ b r rest, cs = r ++ rest ∧ r ≠ [] ∧ (∀ c ∈ r, p c = b) ∧ ∀ c ∈ rest.head?, p c = !b := by
  obtain ⟨c, more, rfl⟩ := List.exists_cons_of_ne_nil hne
  refine ⟨p c, c :: more.takeWhile (p · == p c), more.dropWhile (p · == p c), ?_, ?_, ?_, ?_⟩
  · rw [List.cons_append, List.takeWhile_append_dropWhile]
  · simp
  · intro d hd
    rcases List.mem_cons.1 hd with rfl | hd
    · rfl
    · simpa using List.mem_takeWhile_imp hd
  · intro d hd
    have hnot := List.head?_dropWhile_not (p · == p c) more
    rw [Option.mem_def.1 hd] at hnot
    simpa [Bool.eq_not] using hnot

/-- Induction on a text run by run. -/
@[elab_as_elim]
theorem run_induction {motive : List Char → Prop} (nil : motive [])
    (gap : ∀ r rest, r ≠ [] → (∀ c ∈ r, p c = true) → (∀ c ∈ rest.head?, p c = false) →
      motive rest → motive (r ++ rest))
    (word : ∀ r rest, r ≠ [] → (∀ c ∈ r, p c = false) → (∀ c ∈ rest.head?, p c = true) →
      motive rest → motive (r ++ rest)) (cs : List Char) : motive cs := by
  by_cases hne : cs = []
  · exact hne ▸ nil
  · obtain ⟨b, r, rest, rfl, hr, hin, hrest⟩ := exists_run (p := p) hne
    have hshorter : rest.length < (r ++ rest).length := by
      have hpos := List.length_pos_of_ne_nil hr
      rw [List.length_append]
      omega
    have ih := run_induction nil gap word rest
    cases b with
    | true => exact gap r rest hr hin hrest ih
    | false => exact word r rest hr hin hrest ih
termination_by cs.length

end Runs

section Words

theorem words_nil : words p [] = [] := rfl

theorem words_cons_of_pos {c : Char} (h : p c = true) : words p (c :: cs) = words p cs := by
  simp [words, splitWord, h]

theorem words_gap (h : ∀ c ∈ r, p c = true) : words p (r ++ rest) = words p rest := by
  induction r with
  | nil => rfl
  | cons c r ih =>
    rw [List.forall_mem_cons] at h
    rw [List.cons_append, words_cons_of_pos h.1, ih h.2]

theorem words_eq_nil (h : ∀ c ∈ cs, p c = true) : words p cs = [] := by
  have hgap : words p (cs ++ []) = words p [] := words_gap h
  rwa [List.append_nil] at hgap

theorem splitWord_of_head (h : ∀ c ∈ rest.head?, p c = true) :
    splitWord p rest = ([], words p rest) := by
  cases rest with
  | nil => rfl
  | cons c rest =>
    have hc : p c = true := h c rfl
    simp [words, splitWord, hc]

theorem splitWord_append (h : ∀ c ∈ r, p c = false) (hrest : ∀ c ∈ rest.head?, p c = true) :
    splitWord p (r ++ rest) = (r, words p rest) := by
  induction r with
  | nil => exact splitWord_of_head hrest
  | cons c r ih =>
    rw [List.forall_mem_cons] at h
    simp [splitWord, ih h.2, h.1]

theorem words_word (hne : r ≠ []) (h : ∀ c ∈ r, p c = false)
    (hrest : ∀ c ∈ rest.head?, p c = true) : words p (r ++ rest) = r :: words p rest := by
  rw [words, splitWord_append h hrest]
  simp [hne]

theorem words_eq_runs (cs : List Char) :
    words p cs = (runs p cs).filter fun r ↦ r.all fun c ↦ !p c := by
  induction cs using run_induction (p := p) with
  | nil => rfl
  | gap r rest hne h hrest ih =>
    obtain ⟨c, hc⟩ := List.exists_mem_of_ne_nil r hne
    have hgap : (r.all fun c ↦ !p c) = false := by
      simpa using ⟨c, hc, h c hc⟩
    rw [words_gap h, runs_append hne h hrest, List.filter_cons, hgap, ih]
    rfl
  | word r rest hne h hrest ih =>
    have hword : (r.all fun c ↦ !p c) = true := by
      simpa using h
    rw [words_word hne h hrest, runs_append hne h hrest, List.filter_cons, hword, ih]
    rfl

theorem flatten_words (cs : List Char) : (words p cs).flatten = cs.filter fun c ↦ !p c := by
  induction cs using run_induction (p := p) with
  | nil => rfl
  | gap r rest hne h hrest ih =>
    have hnone : r.filter (fun c ↦ !p c) = [] := by
      simpa using h
    rw [words_gap h, ih, List.filter_append, hnone, List.nil_append]
  | word r rest hne h hrest ih =>
    have hall : r.filter (fun c ↦ !p c) = r := by
      simpa using h
    rw [words_word hne h hrest, List.flatten_cons, ih, List.filter_append, hall]

theorem words_eq_nil_iff : words p cs = [] ↔ ∀ c ∈ cs, p c = true := by
  refine ⟨fun h ↦ ?_, words_eq_nil⟩
  have hnone := flatten_words (p := p) cs
  rw [h, List.flatten_nil, eq_comm, List.filter_eq_nil_iff] at hnone
  simpa using hnone

theorem words_append_of_starts (h : ∀ c ∈ ds.head?, p c = true) (cs : List Char) :
    words p (cs ++ ds) = words p cs ++ words p ds := by
  induction cs using run_induction (p := p) with
  | nil => rfl
  | gap r rest hne hr hrest ih => rw [List.append_assoc, words_gap hr, words_gap hr, ih]
  | word r rest hne hr hrest ih =>
    have hstarts : ∀ c ∈ (rest ++ ds).head?, p c = true := by
      cases rest with
      | nil => exact h
      | cons c rest => exact hrest
    rw [List.append_assoc, words_word hne hr hstarts, words_word hne hr hrest, ih,
      List.cons_append]

theorem words_append (h : (∀ c ∈ cs.getLast?, p c = true) ∨ ∀ c ∈ ds.head?, p c = true) :
    words p (cs ++ ds) = words p cs ++ words p ds := by
  rcases h with h | h
  · rcases List.eq_nil_or_concat cs with rfl | ⟨before, c, rfl⟩
    · rfl
    · -- The blank at the end of the first text can as well stand in front of the second one.
      rw [List.concat_eq_append] at h ⊢
      have hc : p c = true := h c (by simp)
      have hstarts (more : List Char) : ∀ d ∈ (c :: more).head?, p d = true := by
        simpa using hc
      have hlast : words p (before ++ [c]) = words p before := by
        rw [words_append_of_starts (hstarts []), words_cons_of_pos hc]
        exact List.append_nil _
      rw [hlast, List.append_assoc, List.singleton_append, words_append_of_starts (hstarts ds),
        words_cons_of_pos hc]
  · exact words_append_of_starts h cs

end Words

section Replacing

theorem replaceRuns_gap (hne : r ≠ []) (h : ∀ c ∈ r, p c = true)
    (hrest : ∀ c ∈ rest.head?, p c = false) :
    replaceRuns p mark (r ++ rest) = mark :: replaceRuns p mark rest := by
  induction r with
  | nil => exact absurd rfl hne
  | cons c r ih =>
    rw [List.forall_mem_cons] at h
    rw [List.cons_append, replaceRuns, if_pos h.1]
    cases r with
    | nil =>
      have hlast : ¬([] ++ rest).head?.any p = true := by
        cases rest with
        | nil => simp
        | cons d rest => simpa using hrest d rfl
      rw [if_neg hlast, List.nil_append]
    | cons d r =>
      have hmore : ((d :: r) ++ rest).head?.any p = true := h.2 d List.mem_cons_self
      rw [if_pos hmore, ih (List.cons_ne_nil d r) h.2]

theorem replaceRuns_word (h : ∀ c ∈ r, p c = false) (rest : List Char) :
    replaceRuns p mark (r ++ rest) = r ++ replaceRuns p mark rest := by
  induction r with
  | nil => rfl
  | cons c r ih =>
    rw [List.forall_mem_cons] at h
    rw [List.cons_append, replaceRuns, if_neg (by simp [h.1]), ih h.2, List.cons_append]

theorem replaceRuns_eq_runs (cs : List Char) :
    replaceRuns p mark cs = (runs p cs).flatMap fun r ↦ if r.all p then [mark] else r := by
  induction cs using run_induction (p := p) with
  | nil => rfl
  | gap r rest hne h hrest ih =>
    have hgap : r.all p = true := List.all_eq_true.2 h
    rw [replaceRuns_gap hne h hrest, runs_append hne h hrest, List.flatMap_cons, if_pos hgap, ih,
      List.singleton_append]
  | word r rest hne h hrest ih =>
    obtain ⟨c, hc⟩ := List.exists_mem_of_ne_nil r hne
    have hword : ¬r.all p = true := by
      simpa using ⟨c, hc, h c hc⟩
    rw [replaceRuns_word h, runs_append hne h hrest, List.flatMap_cons, if_neg hword, ih]

theorem replaceRuns_of_none (h : ∀ c ∈ cs, p c = false) : replaceRuns p mark cs = cs := by
  have hword : replaceRuns p mark (cs ++ []) = cs ++ replaceRuns p mark [] :=
    replaceRuns_word h []
  rwa [replaceRuns_nil, List.append_nil] at hword

theorem of_mem_replaceRuns {c : Char} (h : c ∈ replaceRuns p mark cs) :
    c = mark ∨ p c = false ∧ c ∈ cs := by
  induction cs using run_induction (p := p) with
  | nil => cases h
  | gap r rest hne hr hrest ih =>
    rw [replaceRuns_gap hne hr hrest] at h
    rcases List.mem_cons.1 h with h | h
    · exact .inl h
    · exact (ih h).imp_right (And.imp_right (List.mem_append_right r))
  | word r rest hne hr hrest ih =>
    rw [replaceRuns_word hr] at h
    rcases List.mem_append.1 h with h | h
    · exact .inr ⟨hr c h, List.mem_append_left rest h⟩
    · exact (ih h).imp_right (And.imp_right (List.mem_append_right r))

theorem head?_replaceRuns (cs : List Char) :
    (replaceRuns p mark cs).head? = cs.head?.map fun c ↦ if p c then mark else c := by
  induction cs using run_induction (p := p) with
  | nil => rfl
  | gap r rest hne h hrest ih =>
    obtain ⟨c, r, rfl⟩ := List.exists_cons_of_ne_nil hne
    rw [replaceRuns_gap hne h hrest]
    simp [h c List.mem_cons_self]
  | word r rest hne h hrest ih =>
    obtain ⟨c, r, rfl⟩ := List.exists_cons_of_ne_nil hne
    rw [replaceRuns_word h]
    simp [h c List.mem_cons_self]

theorem words_replaceRuns (hmark : p mark = true) (cs : List Char) :
    words p (replaceRuns p mark cs) = words p cs := by
  induction cs using run_induction (p := p) with
  | nil => rfl
  | gap r rest hne h hrest ih =>
    rw [replaceRuns_gap hne h hrest, words_cons_of_pos hmark, words_gap h, ih]
  | word r rest hne h hrest ih =>
    have hstarts : ∀ c ∈ (replaceRuns p mark rest).head?, p c = true := by
      rw [head?_replaceRuns]
      intro c hc
      obtain ⟨d, hd, rfl⟩ := Option.map_eq_some_iff.1 hc
      rw [if_pos (hrest d hd), hmark]
    rw [replaceRuns_word h, words_word hne h hstarts, words_word hne h hrest, ih]

theorem isChain_replaceRuns (cs : List Char) :
    (replaceRuns p mark cs).IsChain fun c d ↦ p c = true → p d = false := by
  induction cs using run_induction (p := p) with
  | nil => exact .nil
  | gap r rest hne h hrest ih =>
    rw [replaceRuns_gap hne h hrest, List.isChain_cons]
    refine ⟨fun c hc _ ↦ ?_, ih⟩
    rw [head?_replaceRuns] at hc
    obtain ⟨d, hd, rfl⟩ := Option.map_eq_some_iff.1 hc
    rw [if_neg (by simp [hrest d hd]), hrest d hd]
  | word r rest hne h hrest ih =>
    have hpairs : r.Pairwise fun c d ↦ p c = true → p d = false :=
      List.pairwise_of_forall_mem_list fun _ _ d hd _ ↦ h d hd
    rw [replaceRuns_word h, List.isChain_append]
    refine ⟨hpairs.isChain, ih, fun c hc d hd hblank ↦ ?_⟩
    rw [h c (List.mem_of_mem_getLast? hc)] at hblank
    cases hblank

end Replacing

section Trimming

theorem trim_eq (cs : List Char) : trim p cs = (cs.dropWhile p).rdropWhile p := rfl

theorem trim_isInfix (cs : List Char) : trim p cs <:+: cs :=
  (List.rdropWhile_prefix p _).isInfix.trans (List.dropWhile_suffix p).isInfix

theorem words_trim (cs : List Char) : words p (trim p cs) = words p cs := by
  have hright (ds : List Char) : words p ds = words p (ds.rdropWhile p) := by
    have hgap : ∀ c ∈ ds.rtakeWhile p, p c = true := fun c hc ↦ List.mem_rtakeWhile_imp hc
    conv_lhs => rw [← List.rdropWhile_append_rtakeWhile (p := p) (l := ds)]
    rw [words_append_of_starts fun c hc ↦ hgap c (List.mem_of_mem_head? hc), words_eq_nil hgap,
      List.append_nil]
  have hleft : words p cs = words p (cs.dropWhile p) := by
    conv_lhs => rw [← List.takeWhile_append_dropWhile (p := p) (l := cs)]
    exact words_gap fun c hc ↦ List.mem_takeWhile_imp hc
  rw [trim_eq, ← hright, ← hleft]

theorem head_trim (cs : List Char) : ∀ c ∈ (trim p cs).head?, p c = false := by
  intro c hc
  obtain ⟨after, hafter⟩ := List.rdropWhile_prefix p (cs.dropWhile p)
  have hhead : (cs.dropWhile p).head? = some c := by
    rw [← hafter, List.head?_append, ← trim_eq, Option.mem_def.1 hc]
    rfl
  have hnot := List.head?_dropWhile_not p cs
  rwa [hhead] at hnot

theorem getLast_trim (cs : List Char) : ∀ c ∈ (trim p cs).getLast?, p c = false := by
  intro c hc
  obtain ⟨hne, rfl⟩ := List.mem_getLast?_eq_getLast hc
  exact Bool.not_eq_true _ ▸ List.rdropWhile_last_not p (cs.dropWhile p) hne

end Trimming

/-- Only the mark is in `p`, and it stands neither next to another one nor at the end. -/
structure HasSingleMarks (p : Char → Bool) (mark : Char) (cs : List Char) : Prop where
  marks : ∀ c ∈ cs, p c = true → c = mark
  single : cs.IsChain fun c d ↦ p c = true → p d = false
  last : ∀ c ∈ cs.getLast?, p c = false

/-- Words with one mark between each two of them, and none in front or at the end. -/
structure IsSpaced (p : Char → Bool) (mark : Char) (cs : List Char) : Prop
    extends HasSingleMarks p mark cs where
  head : ∀ c ∈ cs.head?, p c = false

theorem isSpaced_trim_replaceRuns (cs : List Char) :
    IsSpaced p mark (trim p (replaceRuns p mark cs)) where
  marks c hc hblank := by
    rcases of_mem_replaceRuns ((trim_isInfix _).subset hc) with hmark | ⟨hout, -⟩
    · exact hmark
    · rw [hblank] at hout
      cases hout
  single := List.IsChain.infix (isChain_replaceRuns cs) (trim_isInfix _)
  last := getLast_trim _
  head := head_trim _

theorem takeWhile_of_head (h : ∀ c ∈ cs.head?, p c = false) : cs.takeWhile p = [] := by
  cases cs with
  | nil => rfl
  | cons c cs => exact List.takeWhile_cons_of_neg (by simp [h c rfl])

namespace HasSingleMarks

theorem of_append (h : HasSingleMarks p mark (r ++ rest)) : HasSingleMarks p mark rest where
  marks c hc := h.marks c (List.mem_append_right r hc)
  single := h.single.right_of_append
  last c hc := h.last c (List.mem_getLast?_append_of_mem_getLast? hc)

theorem takeWhile_eq (h : HasSingleMarks p mark cs) (hne : cs ≠ [])
    (hstarts : ∀ c ∈ cs.head?, p c = true) : cs.takeWhile p = [mark] := by
  obtain ⟨c, cs, rfl⟩ := List.exists_cons_of_ne_nil hne
  have hc : p c = true := hstarts c rfl
  have hnext : ∀ d ∈ cs.head?, p d = false := fun d hd ↦ (List.isChain_cons.1 h.single).1 d hd hc
  rw [List.takeWhile_cons_of_pos hc, takeWhile_of_head hnext, h.marks c List.mem_cons_self hc]

theorem words_ne_nil (h : HasSingleMarks p mark cs) (hne : cs ≠ []) : words p cs ≠ [] := by
  intro hnil
  have hin := words_eq_nil_iff.1 hnil _ (List.getLast_mem hne)
  rw [h.last _ (List.getLast?_eq_some_getLast hne)] at hin
  cases hin

theorem takeWhile_append_intercalate_words (h : HasSingleMarks p mark cs) :
    cs.takeWhile p ++ [mark].intercalate (words p cs) = cs := by
  induction cs using run_induction (p := p) with
  | nil => rfl
  | gap r rest hne hr hrest ih =>
    replace ih := ih h.of_append
    rw [takeWhile_of_head hrest, List.nil_append] at ih
    rw [List.takeWhile_append_of_pos hr, takeWhile_of_head hrest, List.append_nil, words_gap hr,
      ih]
  | word r rest hne hr hrest ih =>
    replace ih := ih h.of_append
    have hhead : ∀ c ∈ (r ++ rest).head?, p c = false := by
      obtain ⟨c, r, rfl⟩ := List.exists_cons_of_ne_nil hne
      simpa using hr c List.mem_cons_self
    rw [takeWhile_of_head hhead, List.nil_append, words_word hne hr hrest]
    by_cases hmore : rest = []
    · rw [hmore, words_nil, List.intercalate_singleton, List.append_nil]
    · -- What follows starts with one mark, and has a word behind it to which the mark leads.
      rw [h.of_append.takeWhile_eq hmore hrest] at ih
      rw [List.intercalate_cons_of_ne_nil (h.of_append.words_ne_nil hmore), List.append_assoc, ih]

end HasSingleMarks

theorem IsSpaced.intercalate_words (h : IsSpaced p mark cs) :
    [mark].intercalate (words p cs) = cs := by
  have hcs := h.takeWhile_append_intercalate_words
  rwa [takeWhile_of_head h.head, List.nil_append] at hcs

section Collapsing

theorem words_collapseBlanks (s : String) :
    words isBlank (collapseBlanks s).toList = words isBlank s.toList := by
  rw [collapseBlanks, String.toList_ofList, words_trim, words_replaceRuns (by decide)]

theorem isSpaced_collapseBlanks (s : String) : IsSpaced isBlank ' ' (collapseBlanks s).toList := by
  rw [collapseBlanks, String.toList_ofList]
  exact isSpaced_trim_replaceRuns _

theorem collapseBlanks_eq (s : String) :
    collapseBlanks s = " ".intercalate ((words isBlank s.toList).map String.ofList) := by
  have hjoined := (isSpaced_collapseBlanks s).intercalate_words
  rw [words_collapseBlanks] at hjoined
  rw [← String.toList_inj, String.toList_intercalate, List.map_map, ← hjoined]
  simp

theorem collapseBlanks_inj {s t : String} :
    collapseBlanks s = collapseBlanks t ↔ words isBlank s.toList = words isBlank t.toList := by
  constructor
  · intro h
    rw [← words_collapseBlanks, h, words_collapseBlanks]
  · intro h
    rw [collapseBlanks_eq, h, ← collapseBlanks_eq]

theorem collapseBlanks_eq_empty_iff {s : String} :
    collapseBlanks s = "" ↔ ∀ c ∈ s.toList, isBlank c = true := by
  rw [← words_eq_nil_iff, ← words_nil, ← String.toList_empty, ← collapseBlanks_inj]
  rfl

theorem collapseBlanks_eq_self_iff {s : String} :
    collapseBlanks s = s ↔ IsSpaced isBlank ' ' s.toList := by
  constructor
  · intro h
    exact h ▸ isSpaced_collapseBlanks s
  · intro h
    have hjoined := h.intercalate_words
    rw [← words_collapseBlanks, (isSpaced_collapseBlanks s).intercalate_words] at hjoined
    exact String.toList_inj.1 hjoined

theorem collapseBlanks_append {u v : String} (h : (∀ c ∈ u.toList.getLast?, isBlank c = true) ∨
    ∀ c ∈ v.toList.head?, isBlank c = true) :
    collapseBlanks (u ++ v) = collapseBlanks (collapseBlanks u ++ " " ++ collapseBlanks v) := by
  have hspace : ∀ c ∈ (' ' :: (collapseBlanks v).toList).head?, isBlank c = true := by
    simp [isBlank]
  rw [collapseBlanks_inj, String.append_assoc]
  simp only [String.toList_append]
  calc words isBlank (u.toList ++ v.toList)
      = words isBlank u.toList ++ words isBlank v.toList := words_append h
    _ = words isBlank (collapseBlanks u).toList ++ words isBlank (collapseBlanks v).toList := by
        rw [words_collapseBlanks, words_collapseBlanks]
    _ = words isBlank ((collapseBlanks u).toList ++ ' ' :: (collapseBlanks v).toList) := by
        rw [words_append_of_starts hspace, words_cons_of_pos (by decide)]

/-- A collapsed text is made of the words of the text, the runs without blanks, with one space
between each two of them. -/
theorem collapseBlanks_joined :
    (∀ t : String,
      words isBlank t.toList =
        (runs isBlank t.toList).filter (fun r ↦ r.all fun c ↦ !isBlank c) ∧
      collapseBlanks t = " ".intercalate ((words isBlank t.toList).map String.ofList) ∧
      IsSpaced isBlank ' ' (collapseBlanks t).toList ∧
      (collapseBlanks t).toList.filter (fun c ↦ !isBlank c) =
        t.toList.filter (fun c ↦ !isBlank c) ∧
      (collapseBlanks t = "" ↔ ∀ c ∈ t.toList, isBlank c = true) ∧
      collapseBlanks (collapseBlanks t) = collapseBlanks t) ∧
    ∀ u v : String, ((∀ c ∈ u.toList.getLast?, isBlank c = true) ∨
        ∀ c ∈ v.toList.head?, isBlank c = true) →
      collapseBlanks (u ++ v) = collapseBlanks (collapseBlanks u ++ " " ++ collapseBlanks v) := by
  refine ⟨fun t ↦ ⟨words_eq_runs _, collapseBlanks_eq t, isSpaced_collapseBlanks t, ?_,
    collapseBlanks_eq_empty_iff, ?_⟩, fun u v h ↦ collapseBlanks_append h⟩
  · rw [← flatten_words, words_collapseBlanks, flatten_words]
  · exact collapseBlanks_eq_self_iff.2 (isSpaced_collapseBlanks t)

theorem collapseBlanks_joined_splitPrice :
    let u := "\u3000was\u00a0 9\t"
    let v := "\u2028now\r\n8 "
    ((∀ c ∈ u.toList.getLast?, isBlank c = true) ∨ ∀ c ∈ v.toList.head?, isBlank c = true) ∧
    collapseBlanks u = "was 9" ∧ collapseBlanks v = "now 8" ∧
    collapseBlanks (u ++ v) = "was 9 now 8" := by
  intro u v
  have hlast : u.toList.getLast? = some '\t' := by decide
  have hends : (∀ c ∈ u.toList.getLast?, isBlank c = true) ∨
      ∀ c ∈ v.toList.head?, isBlank c = true := by
    refine .inl fun c hc ↦ ?_
    rw [hlast] at hc
    obtain rfl := Option.some.inj hc
    decide
  have hu : collapseBlanks u = "was 9" := by decide +kernel
  have hv : collapseBlanks v = "now 8" := by decide +kernel
  refine ⟨hends, hu, hv, ?_⟩
  rw [collapseBlanks_joined.2 u v hends, hu, hv]
  decide +kernel

end Collapsing

end PageOutline.Text
