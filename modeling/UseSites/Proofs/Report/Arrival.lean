import UseSites.Proofs.Report.Order
/-!
# Reports and the order of arrival

A report is made of what was searched, in the order in which it arrived. `result_ofSearched_of_perm` says
that this order leaves no trace in the report apart from `finished`. It needs that what was searched is
`Coherent`: files with the same text are the same file and fared alike, and references to the same line in
the same role are the same reference.
-/

namespace UseSites

/-! ### Taking results one by one -/

namespace Progress

theorem next_ok (announced : List Searched) (searched : Searched) :
    next ⟨announced, none⟩ (.ok searched) = ⟨announced ++ [searched], none⟩ := rfl

theorem foldl_next_ok (announced searched : List Searched) :
    (searched.map Except.ok).foldl next ⟨announced, none⟩ = ⟨announced ++ searched, none⟩ := by
  induction searched generalizing announced with
  | nil => rw [List.append_nil, List.map_nil, List.foldl_nil]
  | cons first rest ih =>
    rw [List.map_cons, List.foldl_cons, next_ok, ih, List.append_assoc, List.singleton_append]

theorem after_ok (searched : List Searched) :
    after (searched.map Except.ok) = ⟨searched, none⟩ :=
  foldl_next_ok [] searched

theorem foldl_next_stopped (announced : List Searched) (abort : Abort) (results : List (Except Abort Searched)) :
    results.foldl next ⟨announced, some abort⟩ = ⟨announced, some abort⟩ := by
  induction results with
  | nil => rfl
  | cons result rest ih =>
    rw [List.foldl_cons]
    exact ih

/-- Either every result is announced, or the first error stops the search and what came before it is announced. -/
theorem after_cases (results : List (Except Abort Searched)) :
    (∃ searched : List Searched, results = searched.map Except.ok)
      ∨ ∃ (before : List Searched) (abort : Abort) (rest : List (Except Abort Searched)),
        results = before.map Except.ok ++ .error abort :: rest ∧ after results = ⟨before, some abort⟩ := by
  induction results with
  | nil => exact Or.inl ⟨[], rfl⟩
  | cons result rest ih =>
    cases result with
    | error abort =>
      refine Or.inr ⟨[], abort, rest, rfl, ?_⟩
      exact foldl_next_stopped [] abort rest
    | ok searched =>
      rcases ih with ⟨others, rfl⟩ | ⟨before, abort, later, rfl, -⟩
      · exact Or.inl ⟨searched :: others, rfl⟩
      · refine Or.inr ⟨searched :: before, abort, later, rfl, ?_⟩
        have hbefore := foldl_next_ok [] (searched :: before)
        rw [after, ← List.cons_append, ← List.map_cons, List.foldl_append, hbefore, List.foldl_cons]
        exact foldl_next_stopped (searched :: before) abort later

end Progress

/-! ### Permutations of what was searched -/

structure Coherent (searched : List Searched) : Prop where
  /-- The text of its path says what became of a file. -/
  alike : ∀ a ∈ searched, ∀ b ∈ searched, a.file.toString = b.file.toString → a = b
  file : ∀ a ∈ searched, ∀ reference ∈ a.references, reference.file = a.file.toString
  /-- The line and the role say what a reference in a file is. -/
  reference : ∀ a ∈ searched, ∀ first ∈ a.references, ∀ second ∈ a.references,
    first.line = second.line → first.role = second.role → first = second

theorem Searched.failure?_eq_some {searched : Searched} {failure : Failure} (h : searched.failure? = some failure) :
    failure.path = searched.file.toString := by
  obtain ⟨file, outcome⟩ := searched
  cases outcome with
  | failed flaw =>
    cases h
    rfl
  | outOfScope | found references => cases h

namespace Report

variable {searched others : List Searched}

theorem references_of_perm (hperm : searched.Perm others) (hcoherent : Coherent searched) :
    Reference.sorted (searched.flatMap Searched.references) = Reference.sorted (others.flatMap Searched.references) := by
  refine Reference.sorted_of_perm (hperm.flatMap_right _) fun first hfirst second hsecond hfile hline hrole => ?_
  obtain ⟨a, ha, hfirst⟩ := List.mem_flatMap.1 hfirst
  obtain ⟨b, hb, hsecond⟩ := List.mem_flatMap.1 hsecond
  rw [hcoherent.file a ha first hfirst, hcoherent.file b hb second hsecond] at hfile
  obtain rfl := hcoherent.alike a ha b hb hfile
  exact hcoherent.reference a ha first hfirst second hsecond hline hrole

theorem failures_of_perm (hperm : searched.Perm others) (hcoherent : Coherent searched) :
    sortedFailures (searched.filterMap Searched.failure?) = sortedFailures (others.filterMap Searched.failure?) := by
  refine sortedFailures_of_perm (hperm.filterMap _) fun first hfirst second hsecond hpath => ?_
  obtain ⟨a, ha, hfirst⟩ := List.mem_filterMap.1 hfirst
  obtain ⟨b, hb, hsecond⟩ := List.mem_filterMap.1 hsecond
  rw [Searched.failure?_eq_some hfirst, Searched.failure?_eq_some hsecond] at hpath
  rw [hcoherent.alike a ha b hb hpath, hsecond] at hfirst
  exact (Option.some.inj hfirst).symm

theorem outOfScope_of_perm (hperm : searched.Perm others) (hcoherent : Coherent searched) :
    sortedPaths ((searched.filter Searched.isOutOfScope).map Searched.file)
      = sortedPaths ((others.filter Searched.isOutOfScope).map Searched.file) := by
  refine sortedPaths_of_perm ((hperm.filter _).map _) fun first hfirst second hsecond htext => ?_
  obtain ⟨a, ha, rfl⟩ := List.mem_map.1 hfirst
  obtain ⟨b, hb, rfl⟩ := List.mem_map.1 hsecond
  rw [hcoherent.alike a (List.mem_filter.1 ha).1 b (List.mem_filter.1 hb).1 htext]

theorem result_ofSearched_of_perm (files : List Path) (hperm : searched.Perm others) (hcoherent : Coherent searched) :
    (ofSearched files searched).map result = (ofSearched files others).map result := by
  have hscope := (hperm.filter (!·.isOutOfScope)).length_eq
  have hfailed := (hperm.filterMap Searched.failure?).length_eq
  simp only [ofSearched]
  rw [hscope, hfailed, references_of_perm hperm hcoherent, failures_of_perm hperm hcoherent,
    outOfScope_of_perm hperm hcoherent]
  split <;> rfl

/-- A report on files that have all been searched is refused for one reason only. -/
theorem allFailed_of_ofSearched {files : List Path} {abort : Abort} (h : ofSearched files searched = .error abort) :
    ∃ count, abort = .allFailed count := by
  simp only [ofSearched] at h
  split at h
  · cases h
    exact ⟨_, rfl⟩
  · cases h

end Report

/-- Two outcomes of a search from which nobody can tell the order in which the files were finished. -/
structure SameOutcome (outcome other : Except Abort Report) : Prop where
  result : outcome.map Report.result = other.map Report.result
  summary : outcome.map Report.summary = other.map Report.summary
  text : outcome.map Report.text = other.map Report.text
  textWithSummary : outcome.map Report.textWithSummary = other.map Report.textWithSummary

/-- Whatever ignores `finished` is the same for reports that are the same without it. -/
theorem map_eq_of_map_result_eq {β : Type} {outcome other : Except Abort Report} (f : Report → β)
    (hf : ∀ report, f report.result = f report) (h : outcome.map Report.result = other.map Report.result) :
    outcome.map f = other.map f := by
  have hmap : ∀ outcome : Except Abort Report, (outcome.map Report.result).map f = outcome.map f := by
    intro outcome
    cases outcome with
    | error abort => rfl
    | ok report => exact congrArg Except.ok (hf report)
  rw [← hmap outcome, h, hmap other]

theorem sameOutcome_of_map_result_eq {outcome other : Except Abort Report}
    (h : outcome.map Report.result = other.map Report.result) : SameOutcome outcome other where
  result := h
  summary := map_eq_of_map_result_eq Report.summary (fun _ => rfl) h
  text := map_eq_of_map_result_eq Report.text (fun _ => rfl) h
  textWithSummary := map_eq_of_map_result_eq Report.textWithSummary (fun _ => rfl) h

theorem Report.ofFinished_ok (files : List Path) (searched : List Searched) :
    ofFinished files (searched.map Except.ok) = ofSearched files searched := by
  simp only [ofFinished, Progress.after_ok]

/-- A search that is not stopped reports on all results; otherwise its outcome is the first error among them. -/
theorem Report.ofFinished_cases (files : List Path) (results : List (Except Abort Searched)) :
    (∃ searched : List Searched, results = searched.map Except.ok
        ∧ ofFinished files results = ofSearched files searched)
      ∨ ∃ (before : List Searched) (abort : Abort) (rest : List (Except Abort Searched)),
        results = before.map Except.ok ++ .error abort :: rest ∧ ofFinished files results = .error abort := by
  rcases Progress.after_cases results with ⟨searched, rfl⟩ | ⟨before, abort, rest, hresults, hafter⟩
  · exact Or.inl ⟨searched, rfl, ofFinished_ok files searched⟩
  · refine Or.inr ⟨before, abort, rest, hresults, ?_⟩
    simp only [ofFinished, hafter]

end UseSites
