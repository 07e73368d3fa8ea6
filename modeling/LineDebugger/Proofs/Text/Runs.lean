import LineDebugger.Proofs.Text.Words

/-!
# What the runs of a text are

The runs of a text are found by cutting at every separator and throwing away what is empty. What
they are can be said without cutting. A text consists of its runs, none of them empty and none of
them with a separator in it, and of separators before, between and behind them. Between two of them
there has to be a separator, or else they would be one run; that is what makes a run maximal.

A text can be taken apart in this way, and in one way only. That it can is seen character by
character from the end: a separator joins the separators before the first run, and any other
character lengthens the first run if it stands right before it, and is a new run by itself if it
does not. That there is one way only is because cutting finds the runs, whichever they are.

## Main definitions

* `Text.IsRun` — a text that is a run as a whole
* `Text.HasRuns` — a text consists of these runs, and of separators around them

## Main results

* `Text.runs_eq_iff` — the runs of a text are the ones of which it consists
* `Text.hasRuns_intercalate` — runs with a separator between them are found again
-/

namespace LineDebugger.Text

variable {cut : Char → Bool} {text more : String} {cs : List Char} {found : List String}

/-- The text has something in it, and no separator. -/
structure IsRun (cut : Char → Bool) (text : String) : Prop where
  ne_empty : text ≠ ""
  not_cut : ∀ c ∈ text.toList, cut c = false

instance (cut : Char → Bool) (text : String) : Decidable (IsRun cut text) :=
  decidable_of_iff (text ≠ "" ∧ text.toList.all (!cut ·))
    ⟨fun h => ⟨h.1, by simpa using h.2⟩, fun h => ⟨h.ne_empty, by simpa using h.not_cut⟩⟩

/-- The characters consist of these runs, in this order, with separators before them, between any
two of them, and behind them. -/
inductive HasRuns (cut : Char → Bool) : List Char → List String → Prop
  /-- There are separators only. -/
  | nil {cs : List Char} (hcs : ∀ c ∈ cs, cut c) : HasRuns cut cs []
  /-- Behind some separators there is a run, and what follows it starts with a separator. -/
  | cons {before rest : List Char} {run : String} {found : List String}
      (hbefore : ∀ c ∈ before, cut c) (hrun : IsRun cut run) (hrest : rest.head?.all cut)
      (hfound : HasRuns cut rest found) :
      HasRuns cut (before ++ (run.toList ++ rest)) (run :: found)

/-- Separators before a text add no run to it. -/
theorem runs_append_left_of_cut (h : ∀ c ∈ text.toList, cut c) :
    runs cut (text ++ more) = runs cut more := by
  rw [runs, runs, String.toList_append]
  generalize text.toList = cs at h ⊢
  induction cs with
  | nil => rfl
  | cons c cs ih =>
    rw [List.forall_mem_cons] at h
    rw [List.cons_append, List.splitOnP_cons_eq_if_modifyHead, if_pos h.1]
    exact ih h.2

/-- A run has one run, itself. -/
theorem IsRun.runs_eq (h : IsRun cut text) : runs cut text = [text] := by
  rw [runs, List.splitOnP_eq_singleton h.not_cut]
  simp [h.ne_empty]

/-- Cutting finds the runs, whichever they are. -/
theorem HasRuns.runs_eq (h : HasRuns cut cs found) : runs cut (String.ofList cs) = found := by
  induction h with
  | nil hcs => exact runs_eq_nil_iff.2 (by simpa using hcs)
  | cons hbefore hrun hrest _ ih =>
    rw [String.ofList_append, runs_append_left_of_cut (by simpa using hbefore),
      String.ofList_append, runs_append (by simpa using hrest), String.ofList_toList, hrun.runs_eq,
      ih]
    rfl

theorem IsRun.singleton {c : Char} (hc : cut c = false) : IsRun cut (String.ofList [c]) where
  ne_empty := by simp
  not_cut := by simpa using hc

theorem IsRun.cons {c : Char} (hc : cut c = false) (h : IsRun cut text) :
    IsRun cut (String.ofList (c :: text.toList)) where
  ne_empty := by simp
  not_cut := by
    rw [String.toList_ofList, List.forall_mem_cons]
    exact ⟨hc, h.not_cut⟩

/-- One more separator before the characters is none of the runs. -/
theorem HasRuns.cons_cut {c : Char} (hc : cut c) (h : HasRuns cut cs found) :
    HasRuns cut (c :: cs) found := by
  cases h with
  | nil hcs => exact .nil (List.forall_mem_cons.2 ⟨hc, hcs⟩)
  | cons hbefore hrun hrest hfound =>
    exact .cons (List.forall_mem_cons.2 ⟨hc, hbefore⟩) hrun hrest hfound

/-- A run at the front, if it does not touch what follows it. -/
theorem HasRuns.cons_run (h : HasRuns cut cs found) (hrun : IsRun cut text)
    (hhead : cs.head?.all cut) : HasRuns cut (text.toList ++ cs) (text :: found) :=
  .cons (fun _ hc => absurd hc List.not_mem_nil) hrun hhead h

/-- All characters consist of some runs. -/
theorem exists_hasRuns (cut : Char → Bool) (cs : List Char) : ∃ found, HasRuns cut cs found := by
  induction cs with
  | nil => exact ⟨[], .nil fun c hc => absurd hc List.not_mem_nil⟩
  | cons c cs ih =>
    obtain ⟨found, h⟩ := ih
    cases hc : cut c with
    | true => exact ⟨found, h.cons_cut hc⟩
    | false =>
      have halone (hhead : cs.head?.all cut) : ∃ found, HasRuns cut (c :: cs) found := by
        have hnew := h.cons_run (.singleton hc) hhead
        rw [String.toList_ofList] at hnew
        exact ⟨_, hnew⟩
      cases h with
      | nil hcs => exact halone (by cases cs <;> simp_all)
      | @cons before rest run found hbefore hrun hrest hfound =>
        cases before with
        | nil =>
          have hlonger := hfound.cons_run (hrun.cons hc) hrest
          rw [String.toList_ofList] at hlonger
          exact ⟨_, hlonger⟩
        | cons d before => exact halone (hbefore d (by simp))

/-- **The runs of a text** are the ones of which it consists. -/
theorem runs_eq_iff : runs cut text = found ↔ HasRuns cut text.toList found := by
  have hruns : ∀ {found}, HasRuns cut text.toList found → runs cut text = found := by
    intro found h
    rw [← h.runs_eq, String.ofList_toList]
  constructor
  · rintro rfl
    obtain ⟨found, h⟩ := exists_hasRuns cut text.toList
    rwa [hruns h]
  · exact hruns

/-- Runs with a separator between them are the runs of the text that they make. -/
theorem hasRuns_intercalate {sep : Char} (hsep : cut sep) (h : ∀ run ∈ found, IsRun cut run) :
    HasRuns cut ([sep].intercalate (found.map String.toList)) found := by
  induction found with
  | nil => exact .nil fun _ hc => absurd hc List.not_mem_nil
  | cons run others ih =>
    obtain ⟨hrun, hothers⟩ := List.forall_mem_cons.1 h
    cases others with
    | nil =>
      have halone := (HasRuns.nil (fun _ hc => absurd hc List.not_mem_nil)).cons_run hrun rfl
      simpa using halone
    | cons second others =>
      have hrest := ((ih hothers).cons_cut hsep).cons_run hrun hsep
      simpa [List.intercalate_cons_cons] using hrest

/-- What a text consists of are runs. -/
theorem HasRuns.isRun {run : String} (h : HasRuns cut cs found) (hrun : run ∈ found) :
    IsRun cut run := by
  induction h with
  | nil => cases hrun
  | cons _ hfirst _ _ ih =>
    rcases List.mem_cons.1 hrun with rfl | hmore
    · exact hfirst
    · exact ih hmore

theorem isRun_of_mem_runs {run : String} (h : run ∈ runs cut text) : IsRun cut run :=
  (runs_eq_iff.1 rfl).isRun h

/-- Of the characters of a text, the runs have all that are no separators, in their order. -/
theorem HasRuns.flatMap_toList (h : HasRuns cut cs found) :
    found.flatMap String.toList = cs.filter (!cut ·) := by
  induction h with
  | nil hcs => simpa using hcs
  | @cons before rest run found hbefore hrun _ _ ih =>
    have hnone : before.filter (!cut ·) = [] := List.filter_eq_nil_iff.2 (by simpa using hbefore)
    have hall : run.toList.filter (!cut ·) = run.toList :=
      List.filter_eq_self.2 (by simpa using hrun.not_cut)
    rw [List.flatMap_cons, ih, List.filter_append, List.filter_append, hnone, hall, List.nil_append]

end LineDebugger.Text
