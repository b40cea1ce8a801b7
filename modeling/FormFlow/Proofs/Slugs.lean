import FormFlow.Project
import Mathlib.Data.List.Basic

/-!
# The canonical slug

The characters that a slug keeps stand in runs, with gaps of other characters between and around
them. The slug of a name is its runs in lower case, joined by underscores. Every list of runs has
one such text, whatever the gaps are made of; so a slug is its own slug, and two names have the same
slug exactly if their runs in lower case are the same.
-/

namespace FormFlow.Text

/-- The runs of kept characters in a name. -/
def runs (name : List Char) : List (List Char) :=
  (name.splitOnP fun c => !isSlugChar c).filter fun run => !run.isEmpty

def lowered (run : List Char) : List Char :=
  run.map Char.toLower

/-- Runs joined by underscores. -/
def joined (runs : List (List Char)) : List Char :=
  ['_'].intercalate runs

/-- None of the characters is kept. -/
def IsGap (gap : List Char) : Prop :=
  ∀ c ∈ gap, isSlugChar c = false

/-- There are characters, and all of them are kept. -/
structure IsRun (run : List Char) : Prop where
  ne_nil : run ≠ []
  kept : ∀ c ∈ run, isSlugChar c = true

/-- No kept character stands in front. -/
def StartsNoRun (rest : List Char) : Prop :=
  ∀ c, rest.head? = some c → isSlugChar c = false

/-- A name is made of these runs and the gaps between and around them. A run could not be longer:
what follows it is nothing or begins with a gap. -/
inductive HasRuns : List Char → List (List Char) → Prop
  | gap {gap : List Char} (isGap : IsGap gap) : HasRuns gap []
  | run {gap run rest : List Char} {later : List (List Char)} (isGap : IsGap gap)
      (isRun : IsRun run) (hends : StartsNoRun rest) (hasLater : HasRuns rest later) :
      HasRuns (gap ++ run ++ rest) (run :: later)

variable {name gap run rest : List Char} {found : List (List Char)}

theorem IsGap.startsNoRun (isGap : IsGap gap) : StartsNoRun gap :=
  fun c h => isGap c (List.mem_of_head? h)

theorem StartsNoRun.cons {c : Char} (hskipped : isSlugChar c = false) (rest : List Char) :
    StartsNoRun (c :: rest) := by
  intro first h
  cases h
  exact hskipped

/-! ## The runs of a name -/

/-- A run may stand at the very beginning. -/
theorem HasRuns.first (isRun : IsRun run) (hends : StartsNoRun rest) (h : HasRuns rest found) :
    HasRuns (run ++ rest) (run :: found) := by
  have hnone : IsGap [] := nofun
  exact .run hnone isRun hends h

/-- A character that is not kept widens the gap in front. -/
theorem HasRuns.widened {c : Char} (h : HasRuns name found) (hskipped : isSlugChar c = false) :
    HasRuns (c :: name) found := by
  cases h with
  | gap isGap => exact .gap (List.forall_mem_cons.mpr ⟨hskipped, isGap⟩)
  | @run gap run rest later isGap isRun hends hlater =>
      have hwider : IsGap (c :: gap) := List.forall_mem_cons.mpr ⟨hskipped, isGap⟩
      exact .run hwider isRun hends hlater

/-- A character that is kept is a run by itself if no run follows it at once. -/
theorem HasRuns.alone {c : Char} (h : HasRuns name found) (hkept : isSlugChar c = true)
    (hends : StartsNoRun name) : HasRuns (c :: name) ([c] :: found) := by
  have isRun : IsRun [c] := ⟨List.cons_ne_nil _ _, List.forall_mem_singleton.mpr hkept⟩
  exact .first isRun hends h

theorem exists_hasRuns (name : List Char) : ∃ found, HasRuns name found := by
  induction name with
  | nil => exact ⟨[], .gap nofun⟩
  | cons c rest ih =>
      obtain ⟨found, h⟩ := ih
      cases hkept : isSlugChar c with
      | false => exact ⟨found, h.widened hkept⟩
      | true =>
          cases h with
          | gap isGap => exact ⟨_, HasRuns.alone (.gap isGap) hkept isGap.startsNoRun⟩
          | @run gap run rest later isGap isRun hends hlater =>
              have h := HasRuns.run isGap isRun hends hlater
              -- The character lengthens a run that follows at once, and is a run before a gap.
              cases gap with
              | nil =>
                  have hlonger : IsRun (c :: run) :=
                    ⟨List.cons_ne_nil _ _, List.forall_mem_cons.mpr ⟨hkept, isRun.kept⟩⟩
                  exact ⟨_, .first hlonger hends hlater⟩
              | cons first gap =>
                  have hskipped : isSlugChar first = false := isGap first List.mem_cons_self
                  exact ⟨_, h.alone hkept (.cons hskipped _)⟩

theorem runs_cons_of_skipped {c : Char} (hskipped : isSlugChar c = false) (rest : List Char) :
    runs (c :: rest) = runs rest := by
  rw [runs, List.splitOnP_cons_eq_if_modifyHead, if_pos (by simp [hskipped])]
  rfl

theorem runs_gap_append (isGap : IsGap gap) (rest : List Char) :
    runs (gap ++ rest) = runs rest := by
  induction gap with
  | nil => rfl
  | cons c gap ih =>
      obtain ⟨hskipped, hothers⟩ := List.forall_mem_cons.mp isGap
      rw [List.cons_append, runs_cons_of_skipped hskipped, ih hothers]

theorem runs_run_append (isRun : IsRun run) (hends : StartsNoRun rest) :
    runs (run ++ rest) = run :: runs rest := by
  have hnonempty : (!run.isEmpty) = true := by simp [isRun.ne_nil]
  have hkept : ∀ c ∈ run, (!isSlugChar c) = false := fun c hmem => by simp [isRun.kept c hmem]
  cases rest with
  | nil =>
      rw [List.append_nil, runs, List.splitOnP_eq_singleton hkept, List.filter_cons,
        if_pos hnonempty]
      rfl
  | cons c rest =>
      have hskipped : isSlugChar c = false := hends c rfl
      rw [runs_cons_of_skipped hskipped, runs,
        List.splitOnP_append_cons_of_forall_mem hkept c (by simp [hskipped]), List.filter_cons,
        if_pos hnonempty]
      rfl

/-- A name has no other runs than those that are computed. -/
theorem HasRuns.runs_eq (h : HasRuns name found) : runs name = found := by
  induction h with
  | @gap gap isGap =>
      have hnone := runs_gap_append isGap []
      rwa [List.append_nil] at hnone
  | run isGap isRun hends _ ih =>
      rw [List.append_assoc, runs_gap_append isGap, runs_run_append isRun hends, ih]

theorem hasRuns_iff : HasRuns name found ↔ runs name = found := by
  constructor
  · exact HasRuns.runs_eq
  · rintro rfl
    obtain ⟨found, h⟩ := exists_hasRuns name
    exact h.runs_eq ▸ h

theorem HasRuns.isRun (h : HasRuns name found) : ∀ run ∈ found, IsRun run := by
  induction h with
  | gap => nofun
  | run _ isRun _ _ ih => exact List.forall_mem_cons.mpr ⟨isRun, ih⟩

/-! ## The slug is made of them -/

theorem slugFrom_gap_append (started pending : Bool) (isGap : IsGap gap) (rest : List Char) :
    slugFrom started pending (gap ++ rest) = slugFrom started (pending || !gap.isEmpty) rest := by
  induction gap generalizing pending with
  | nil => simp
  | cons c gap ih =>
      obtain ⟨hskipped, hothers⟩ := List.forall_mem_cons.mp isGap
      rw [List.cons_append, slugFrom, if_neg (by simp [hskipped]), ih true hothers]
      simp

theorem slugFrom_kept_append (hkept : ∀ c ∈ run, isSlugChar c = true) (rest : List Char) :
    slugFrom true false (run ++ rest) = lowered run ++ slugFrom true false rest := by
  induction run with
  | nil => rfl
  | cons c run ih =>
      obtain ⟨hhere, hothers⟩ := List.forall_mem_cons.mp hkept
      rw [List.cons_append, slugFrom, if_pos hhere, if_neg (by simp), ih hothers]
      rfl

/-- A run is written behind an underscore if one has been written before and a gap has been skipped
since. -/
theorem slugFrom_run_append (started pending : Bool) (isRun : IsRun run) (rest : List Char) :
    slugFrom started pending (run ++ rest) =
      (if started && pending then ['_'] else []) ++ lowered run ++ slugFrom true false rest := by
  obtain ⟨c, run, rfl⟩ := List.exists_cons_of_ne_nil isRun.ne_nil
  obtain ⟨hhere, hothers⟩ := List.forall_mem_cons.mp isRun.kept
  rw [List.cons_append, slugFrom, if_pos hhere, slugFrom_kept_append hothers]
  split <;> rfl

/-- Once a run has been written, each of the others is written behind an underscore. -/
theorem HasRuns.slugFrom_started {pending : Bool} (h : HasRuns name found)
    (hapart : pending = true ∨ StartsNoRun name) :
    slugFrom true pending name = found.flatMap fun run => '_' :: lowered run := by
  induction h generalizing pending with
  | @gap gap isGap =>
      have hall := slugFrom_gap_append true pending isGap []
      rwa [List.append_nil] at hall
  | @run gap run rest later isGap isRun hends _ ih =>
      have hskipped : (pending || !gap.isEmpty) = true := by
        cases gap with
        | cons => simp
        | nil =>
            obtain ⟨c, run, rfl⟩ := List.exists_cons_of_ne_nil isRun.ne_nil
            have hkept : isSlugChar c = true := isRun.kept c List.mem_cons_self
            rcases hapart with rfl | starts
            · rfl
            · exact absurd (hkept.symm.trans (starts c rfl)) (by decide)
      rw [List.append_assoc, slugFrom_gap_append _ _ isGap, hskipped, slugFrom_run_append _ _ isRun,
        ih (.inr hends)]
      rfl

theorem joined_cons_cons (run next : List Char) (later : List (List Char)) :
    joined (run :: next :: later) = run ++ '_' :: joined (next :: later) := by
  simp [joined, List.intercalate_cons_cons]

theorem joined_cons (run : List Char) (later : List (List Char)) :
    joined (run :: later) = run ++ later.flatMap ('_' :: ·) := by
  induction later generalizing run with
  | nil => simp [joined]
  | cons next later ih => rw [joined_cons_cons, ih, List.flatMap_cons, List.cons_append]

/-- The slug of a name is its runs in lower case, joined by underscores. -/
theorem HasRuns.slug_eq (h : HasRuns name found) : slug name = joined (found.map lowered) := by
  cases h with
  | gap isGap =>
      have hall := slugFrom_gap_append false false isGap []
      rwa [List.append_nil] at hall
  | @run gap run rest later isGap isRun hends hlater =>
      rw [slug, List.append_assoc, slugFrom_gap_append _ _ isGap, slugFrom_run_append _ _ isRun,
        hlater.slugFrom_started (.inr hends), List.map_cons, joined_cons, List.flatMap_map]
      rfl

/-! ## The runs of a slug -/

/-- What has been joined by underscores has these runs, which the underscores keep apart. -/
theorem hasRuns_joined (hruns : ∀ run ∈ found, IsRun run) : HasRuns (joined found) found := by
  induction found with
  | nil => exact .gap nofun
  | cons run later ih =>
      obtain ⟨isRun, hothers⟩ := List.forall_mem_cons.mp hruns
      cases later with
      | nil =>
          have hlast : HasRuns (run ++ []) [run] := .first isRun nofun (.gap nofun)
          simpa [joined] using hlast
      | cons next later =>
          have hskipped : isSlugChar '_' = false := by decide
          have hwider := (ih hothers).widened hskipped
          rw [joined_cons_cons]
          exact .first isRun (.cons hskipped _) hwider

theorem isRun_lowered (isRun : IsRun run) : IsRun (lowered run) := by
  refine ⟨by simpa [lowered] using isRun.ne_nil, ?_⟩
  intro c hmem
  obtain ⟨origin, hthere, rfl⟩ := List.mem_map.mp hmem
  have hall : ∀ n : Fin 128, isSlugChar (Char.ofNat n) = true →
      isSlugChar (Char.ofNat n).toLower = true := by decide
  exact of_isSlugChar (P := fun c => isSlugChar c.toLower = true) hall (isRun.kept origin hthere)

theorem lowered_lowered (isRun : IsRun run) : lowered (lowered run) = lowered run := by
  rw [lowered, lowered, List.map_map]
  apply List.map_congr_left
  intro c hmem
  have hall : ∀ n : Fin 128, isSlugChar (Char.ofNat n) = true →
      (Char.ofNat n).toLower.toLower = (Char.ofNat n).toLower := by decide
  exact of_isSlugChar (P := fun c => c.toLower.toLower = c.toLower) hall (isRun.kept c hmem)

theorem isRun_of_mem_runs (hmem : run ∈ runs name) : IsRun run :=
  (hasRuns_iff.mpr rfl : HasRuns name (runs name)).isRun run hmem

theorem slug_eq_joined (name : List Char) : slug name = joined ((runs name).map lowered) :=
  (hasRuns_iff.mpr rfl : HasRuns name (runs name)).slug_eq

theorem forall_isRun_lowered (name : List Char) :
    ∀ run ∈ (runs name).map lowered, IsRun run :=
  List.forall_mem_map.mpr fun _ hmem => isRun_lowered (isRun_of_mem_runs hmem)

/-- A slug has the runs of the name, in lower case. -/
theorem runs_slug (name : List Char) : runs (slug name) = (runs name).map lowered := by
  rw [slug_eq_joined]
  exact (hasRuns_joined (forall_isRun_lowered name)).runs_eq

theorem slug_slug (name : List Char) : slug (slug name) = slug name := by
  have hsame : ((runs name).map lowered).map lowered = (runs name).map lowered := by
    rw [List.map_map]
    exact List.map_congr_left fun run hmem => lowered_lowered (isRun_of_mem_runs hmem)
  rw [slug_eq_joined (slug name), runs_slug, hsame, ← slug_eq_joined]

theorem slug_eq_slug_iff (name other : List Char) :
    slug name = slug other ↔ (runs name).map lowered = (runs other).map lowered := by
  constructor
  · intro hsame
    rw [← runs_slug, ← runs_slug, hsame]
  · intro hsame
    rw [slug_eq_joined, slug_eq_joined, hsame]

theorem slug_eq_nil_iff (name : List Char) : slug name = [] ↔ runs name = [] := by
  constructor
  · intro hempty
    have hnone : runs (slug name) = [] := by
      rw [hempty]
      rfl
    rwa [runs_slug, List.map_eq_nil_iff] at hnone
  · intro hnone
    rw [slug_eq_joined, hnone]
    rfl

/-- On both sides of an underscore the slug is cut into pieces of which none is empty. -/
theorem pieces_beside_underscore {front rest : List Char} (h : slug name = front ++ '_' :: rest) :
    [] ∉ front.splitOn '_' ∧ [] ∉ rest.splitOn '_' := by
  have hruns := forall_isRun_lowered name
  have hplain : ∀ run ∈ (runs name).map lowered, '_' ∉ run := by
    intro run hmem hunderscore
    exact absurd ((hruns run hmem).kept '_' hunderscore) (by decide)
  have hsome : (runs name).map lowered ≠ [] := by
    intro hnone
    rw [List.map_eq_nil_iff, ← slug_eq_nil_iff, h] at hnone
    simp at hnone
  have hpieces : front.splitOn '_' ++ rest.splitOn '_' = (runs name).map lowered := by
    rw [← List.splitOn_append_cons_self, ← h, slug_eq_joined, joined,
      List.splitOn_intercalate '_' hplain hsome]
  rw [← not_or, ← List.mem_append, hpieces]
  exact fun hmem => (hruns [] hmem).ne_nil rfl

end FormFlow.Text

namespace FormFlow

open Text

/-- The slug of a name is its runs of ASCII letters and digits in lower case, joined by single
underscores, and it is empty if there are none. So it neither begins nor ends with an underscore,
nor are there two in a row; it is its own slug; and two names have the same slug exactly if their
runs in lower case, joined by underscores, are the same, for which the runs in lower case must be
the same one by one. What the gaps between and around the runs are made of does not matter: a name
has the runs that it is made of, whatever stands between them. The same goes for the keys that
validators get from their names. -/
theorem slug_is_canonical (name : List Char) :
    (∀ found, HasRuns name found ↔ found = runs name) ∧
    slug name = joined ((runs name).map lowered) ∧
    (slug name = [] ↔ runs name = []) ∧
    (slug name).head? ≠ some '_' ∧ (slug name).getLast? ≠ some '_' ∧
    ¬ ['_', '_'] <:+: slug name ∧
    slug (slug name) = slug name ∧
    (∀ other, slug name = slug other ↔
      joined ((runs name).map lowered) = joined ((runs other).map lowered)) ∧
    (∀ other, slug name = slug other ↔ (runs name).map lowered = (runs other).map lowered) ∧
    ∀ other : String, Validator.keyFor none (String.ofList name) = Validator.keyFor none other ↔
      (runs name).map lowered = (runs other.toList).map lowered := by
  refine ⟨fun found => hasRuns_iff.trans eq_comm, slug_eq_joined name, slug_eq_nil_iff name,
    ?_, ?_, ?_, slug_slug name, ?_, slug_eq_slug_iff name, ?_⟩
  · intro hfirst
    obtain ⟨rest, h⟩ := List.head?_eq_some_iff.mp hfirst
    have hcut : slug name = [] ++ '_' :: rest := h
    exact (pieces_beside_underscore hcut).1 (by simp)
  · intro hlast
    obtain ⟨front, h⟩ := List.getLast?_eq_some_iff.mp hlast
    exact (pieces_beside_underscore h).2 (by simp)
  · rintro ⟨front, rest, h⟩
    have htwice : slug name = front ++ '_' :: '_' :: rest := by
      rw [← h, List.append_assoc]
      rfl
    apply (pieces_beside_underscore htwice).2
    simp [List.splitOn_cons_eq_if_modifyHead]
  · intro other
    rw [slug_eq_joined name, slug_eq_joined other]
  · intro other
    rw [← slug_eq_slug_iff]
    simp [Validator.keyFor, String.ofList_inj]

/-- Whatever stands between the words of a name, its slug is made of the words. -/
example : slug "  Manager -- only!! ".toList = "manager_only".toList := by decide

end FormFlow
