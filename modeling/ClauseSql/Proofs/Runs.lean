import ClauseSql.Json.Text
import ClauseSql.Text.Words

/-!
# Maximal runs

A text that is split at delimiters falls into its maximal runs: stretches of characters that are no
delimiters, each as long as it can be.  Which delimiters stand between two runs, and how many of them,
makes no difference.

## What is here

* `Text.IsRuns` and `Text.RunsOf` — the maximal runs, said apart from how they are found.
* `Text.runsOf_iff` — `Text.runs` finds them, and nothing else is the list of runs of a text.
* `Text.runsOf_joined` — runs that are joined with one delimiter between them are found again.
-/

set_option autoImplicit false

namespace ClauseSql
namespace Text

variable {delimiter : Char → Bool}

/-! ## Characters -/

/-- The maximal runs of characters that are no delimiters, in order.  A run ends before a delimiter or
with the text, and the next one comes after that delimiter, so that no run can be made longer. -/
inductive IsRuns (delimiter : Char → Bool) : List Char → List (List Char) → Prop
  | nil : IsRuns delimiter [] []
  | skip {c : Char} {rest : List Char} {runs : List (List Char)} (hc : delimiter c = true)
      (h : IsRuns delimiter rest runs) : IsRuns delimiter (c :: rest) runs
  | run {run rest : List Char} {runs : List (List Char)} (hne : run ≠ [])
      (hfree : ∀ c ∈ run, delimiter c = false) (hend : ∀ c ∈ rest.head?, delimiter c = true)
      (h : IsRuns delimiter rest runs) : IsRuns delimiter (run ++ rest) (run :: runs)

theorem IsRuns.of_mem {chars : List Char} {runs : List (List Char)} (h : IsRuns delimiter chars runs) :
    ∀ run ∈ runs, run ≠ [] ∧ ∀ c ∈ run, delimiter c = false := by
  induction h with
  | nil => exact List.forall_mem_nil _
  | skip _ _ ih => exact ih
  | run hne hfree _ _ ih => exact List.forall_mem_cons.2 ⟨⟨hne, hfree⟩, ih⟩

theorem runsFrom_append {run : List Char} (hfree : ∀ c ∈ run, delimiter c = false) :
    ∀ (before rest : List Char), runsFrom delimiter before (run ++ rest) =
      runsFrom delimiter (run.reverse ++ before) rest := by
  induction run with
  | nil => intro before rest; rfl
  | cons c run ih =>
    intro before rest
    obtain ⟨hc, hrun⟩ := List.forall_mem_cons.1 hfree
    rw [List.cons_append, runsFrom, hc, if_neg Bool.false_ne_true, ih hrun, List.reverse_cons,
      List.append_assoc, List.singleton_append]

/-- A run under way ends where a delimiter or nothing comes next. -/
theorem runsFrom_of_ends {before rest : List Char} (hne : before ≠ [])
    (hend : ∀ c ∈ rest.head?, delimiter c = true) :
    runsFrom delimiter before rest = before.reverse :: runsFrom delimiter [] rest := by
  have hempty : before.isEmpty = false := Bool.eq_false_iff.2 fun h => hne (List.isEmpty_iff.1 h)
  cases rest with
  | nil => rw [runsFrom, hempty, if_neg Bool.false_ne_true]; rfl
  | cons c rest =>
    have hc : delimiter c = true := hend c rfl
    rw [runsFrom, runsFrom, if_pos hc, if_pos hc, hempty, if_neg Bool.false_ne_true]
    rfl

theorem IsRuns.runsFrom_eq {chars : List Char} {runs : List (List Char)}
    (h : IsRuns delimiter chars runs) : runsFrom delimiter [] chars = runs := by
  induction h with
  | nil => rfl
  | skip hc _ ih => rw [runsFrom, if_pos hc, ← ih]; rfl
  | run hne hfree hend _ ih =>
    have hreverse := List.reverse_ne_nil_iff.2 hne
    rw [runsFrom_append hfree, List.append_nil, runsFrom_of_ends hreverse hend, ih,
      List.reverse_reverse]

/-- What is found is maximal, together with the run under way. -/
theorem isRuns_runsFrom : ∀ (chars before : List Char), (∀ c ∈ before, delimiter c = false) →
    IsRuns delimiter (before.reverse ++ chars) (runsFrom delimiter before chars)
  | [], [], _ => .nil
  | [], first :: before, hfree =>
    .run (List.reverse_ne_nil_iff.2 (List.cons_ne_nil first before))
      (fun c hc => hfree c (List.mem_reverse.1 hc))
      (fun _ hc => absurd hc (Option.not_mem_none _)) .nil
  | c :: chars, before, hfree => by
    cases hc : delimiter c with
    | false =>
      have hmore := isRuns_runsFrom chars (c :: before) (List.forall_mem_cons.2 ⟨hc, hfree⟩)
      rw [List.reverse_cons, List.append_assoc, List.singleton_append] at hmore
      rwa [runsFrom, hc, if_neg Bool.false_ne_true]
    | true =>
      have hrest : IsRuns delimiter (c :: chars) (runsFrom delimiter [] chars) :=
        .skip hc (isRuns_runsFrom chars [] (List.forall_mem_nil _))
      rw [runsFrom, if_pos hc]
      cases before with
      | nil => exact hrest
      | cons first before =>
        have hend : ∀ d ∈ (c :: chars).head?, delimiter d = true := by
          intro d hd
          cases hd
          exact hc
        exact .run (List.reverse_ne_nil_iff.2 (List.cons_ne_nil first before))
          (fun d hd => hfree d (List.mem_reverse.1 hd)) hend hrest

/-- The maximal runs are those that are found. -/
theorem isRuns_iff {chars : List Char} {runs : List (List Char)} :
    IsRuns delimiter chars runs ↔ runsFrom delimiter [] chars = runs := by
  refine ⟨IsRuns.runsFrom_eq, ?_⟩
  rintro rfl
  exact isRuns_runsFrom chars [] (List.forall_mem_nil _)

/-- A text without runs is one of delimiters. -/
theorem isRuns_nil_iff {chars : List Char} :
    IsRuns delimiter chars [] ↔ ∀ c ∈ chars, delimiter c = true := by
  constructor
  · generalize hnone : ([] : List (List Char)) = runs
    intro h
    induction h with
    | nil => exact List.forall_mem_nil _
    | skip hc _ ih => exact List.forall_mem_cons.2 ⟨hc, ih hnone⟩
    | run => cases hnone
  · intro h
    induction chars with
    | nil => exact .nil
    | cons c rest ih =>
      obtain ⟨hc, hrest⟩ := List.forall_mem_cons.1 h
      exact .skip hc (ih hrest)

/-! ## Texts -/

/-- The maximal runs of a text. -/
def RunsOf (delimiter : Char → Bool) (text : String) (runs : List String) : Prop :=
  IsRuns delimiter text.toList (runs.map String.toList)

/-- **Splitting finds the maximal runs.** -/
theorem runsOf_iff {text : String} {runs : List String} :
    RunsOf delimiter text runs ↔ Text.runs delimiter text = runs := by
  rw [RunsOf, isRuns_iff, Text.runs]
  constructor
  · intro h
    have hback : String.ofList ∘ String.toList = id := funext fun _ => String.ofList_toList
    rw [h, List.map_map, hback, List.map_id]
  · rintro rfl
    have hback : String.toList ∘ String.ofList = id := funext fun _ => String.toList_ofList
    rw [List.map_map, hback, List.map_id]

theorem RunsOf.of_mem {text : String} {runs : List String} (h : RunsOf delimiter text runs) :
    ∀ run ∈ runs, run.toList ≠ [] ∧ ∀ c ∈ run.toList, delimiter c = false :=
  List.forall_mem_map.1 (IsRuns.of_mem h)

/-- Joined runs are found again. -/
theorem runsOf_joined {separator : String} {c : Char} (hs : separator.toList = [c])
    (hc : delimiter c = true) : ∀ {runs : List String},
    (∀ run ∈ runs, run.toList ≠ [] ∧ ∀ c ∈ run.toList, delimiter c = false) →
    RunsOf delimiter (joined separator runs) runs
  | [], _ => .nil
  | [last], h => by
    obtain ⟨hne, hfree⟩ := h last List.mem_cons_self
    have hlast : IsRuns delimiter (last.toList ++ []) [last.toList] :=
      .run hne hfree (fun _ hc => absurd hc (Option.not_mem_none _)) .nil
    rwa [List.append_nil] at hlast
  | first :: second :: rest, h => by
    obtain ⟨⟨hne, hfree⟩, hrest⟩ := List.forall_mem_cons.1 h
    have hend : ∀ d ∈ (c :: (joined separator (second :: rest)).toList).head?,
        delimiter d = true := by
      intro d hd
      cases hd
      exact hc
    have hjoined := runsOf_joined hs hc hrest
    rw [RunsOf, joined, String.toList_append, String.toList_append, hs, List.append_assoc]
    exact .run hne hfree hend (.skip hc hjoined)

end Text
end ClauseSql
