import Mathlib
import WebOfThings.Proofs.Topic

/-!
# What a filter matches

A filter matches topics level by level, and its levels are the segments between its slashes
(`levels_eq_splitOn`), empty ones included. A wildcard of one level stands for any level, and every
other level for itself (`StandsFor`). Where a wildcard of many levels comes first, matching ends:

* `levelsMatch_of_notMem`: a filter without one matches the topics with as many levels, each of
  which its own level stands for;
* `levelsMatch_append_hash`: a filter with one matches nothing unless that is its last level, and
  then it matches the topics that begin with levels which the levels before it stand for.

`matches_iff` puts the two together for the texts of filters and topics.
-/

namespace WebOfThings.Topic

/-- A level of a filter stands for a level of a topic: it is the wildcard of one level, or the same
    level. -/
def StandsFor (expected level : List Char) : Prop := expected = ['+'] ∨ expected = level

instance (expected level : List Char) : Decidable (StandsFor expected level) :=
  inferInstanceAs (Decidable (_ ∨ _))

/-! ## Segments -/

/-- The levels of a text are the segments between its slashes. -/
theorem levels_eq_splitOn (text : List Char) : levels text = text.splitOn '/' := by
  rw [List.splitOn_eq_splitOnP]
  induction text with
  | nil => rfl
  | cons c text ih =>
    rw [levels, List.splitOnP_cons_eq_if_modifyHead, ih]
    by_cases hslash : c = '/'
    · simp [hslash]
    · obtain ⟨level, more, hmore⟩ :=
        List.exists_cons_of_ne_nil (List.splitOnP_ne_nil (· == '/') text)
      simp [hslash, hmore]

/-- One more slash begins one more level. -/
theorem levels_append_slash (front rest : List Char) :
    levels (front ++ '/' :: rest) = levels front ++ levels rest := by
  simp only [levels_eq_splitOn, List.splitOn_eq_splitOnP]
  exact List.splitOnP_append_cons front rest rfl

/-! ## Matching level by level -/

variable {filter front topic : List (List Char)}

/-- A filter without a wildcard of many levels matches level by level. -/
theorem levelsMatch_of_notMem (plain : ['#'] ∉ filter) :
    levelsMatch filter topic = true ↔ List.Forall₂ StandsFor filter topic := by
  induction filter generalizing topic with
  | nil => cases topic <;> simp [levelsMatch]
  | cons expected filter ih =>
    obtain ⟨hne, hplain⟩ := not_or.1 (mt List.mem_cons.2 plain)
    cases topic with
    | nil => simp [levelsMatch, Ne.symm hne]
    | cons level topic =>
      rw [levelsMatch_cons (Ne.symm hne), Bool.and_eq_true, ih hplain, List.forall₂_cons]
      simp [StandsFor]

/-- The first wildcard of many levels in a filter must be the last level. Then a topic is matched if
    it begins with levels that those before the wildcard stand for. -/
theorem levelsMatch_append_hash (plain : ['#'] ∉ front) (rest : List (List Char)) :
    levelsMatch (front ++ ['#'] :: rest) topic = true ↔
      rest = [] ∧ ∃ above below, topic = above ++ below ∧ List.Forall₂ StandsFor front above := by
  induction front generalizing topic with
  | nil =>
    -- nothing is left to compare, whether or not there are levels left in the topic
    have hall : levelsMatch (['#'] :: rest) topic = rest.isEmpty := by
      cases topic <;> simp [levelsMatch]
    rw [List.nil_append, hall, List.isEmpty_iff]
    exact ⟨fun h => ⟨h, [], topic, rfl, .nil⟩, And.left⟩
  | cons expected front ih =>
    obtain ⟨hne, hplain⟩ := not_or.1 (mt List.mem_cons.2 plain)
    cases topic with
    | nil =>
      refine iff_of_false (by simp [levelsMatch, Ne.symm hne]) ?_
      rintro ⟨-, above, below, htopic, hfront⟩
      obtain ⟨rfl, -⟩ := List.append_eq_nil_iff.1 htopic.symm
      cases hfront
    | cons level topic =>
      rw [List.cons_append, levelsMatch_cons (Ne.symm hne), Bool.and_eq_true, ih hplain]
      constructor
      · rintro ⟨hlevel, hrest, above, below, rfl, hfront⟩
        exact ⟨hrest, level :: above, below, rfl, .cons (by simpa [StandsFor] using hlevel) hfront⟩
      · rintro ⟨hrest, above, below, htopic, hfront⟩
        cases hfront with
        | @cons _ other _ above hlevel hfront =>
          obtain ⟨rfl, rfl⟩ := List.cons.inj htopic
          exact ⟨by simpa [StandsFor] using hlevel, hrest, above, below, rfl, hfront⟩

/-! ## Filters and topics -/

/-- A filter has no wildcard of many levels, or a first one. -/
theorem notMem_or_exists_append (filter : List (List Char)) :
    ['#'] ∉ filter ∨ ∃ front rest, filter = front ++ ['#'] :: rest ∧ ['#'] ∉ front := by
  by_cases hmem : ['#'] ∈ filter
  · exact .inr (List.eq_append_cons_of_mem hmem)
  · exact .inl hmem

/-- A filter matches a topic if and only if it has no wildcard of many levels, and its levels stand
    for those of the topic one for one; or its last level is the only such wildcard, and the topic
    begins with levels that those before it stand for. So the wildcard matches the level above it
    too, and anywhere but at the end it matches nothing. -/
theorem matches_iff (filter topic : String) :
    («matches» filter topic = true ↔
      (['#'] ∉ filter.toList.splitOn '/' ∧
        List.Forall₂ StandsFor (filter.toList.splitOn '/') (topic.toList.splitOn '/')) ∨
      ∃ front above below, filter.toList.splitOn '/' = front ++ [['#']] ∧ ['#'] ∉ front ∧
        topic.toList.splitOn '/' = above ++ below ∧ List.Forall₂ StandsFor front above) ∧
    (['#'] ∉ filter.toList.splitOn '/' → «matches» filter topic = true →
      «matches» (filter ++ "/#") topic = true) ∧
    (['#'] ∈ (filter.toList.splitOn '/').dropLast → «matches» filter topic = false) := by
  simp only [← levels_eq_splitOn, «matches»]
  refine ⟨⟨fun hmatches => ?_, ?_⟩, fun plain hmatches => ?_, fun hmem => ?_⟩
  · obtain hplain | ⟨front, rest, hfilter, hplain⟩ := notMem_or_exists_append (levels filter.toList)
    · exact .inl ⟨hplain, (levelsMatch_of_notMem hplain).1 hmatches⟩
    · rw [hfilter] at hmatches
      obtain ⟨rfl, above, below, htopic, hfront⟩ := (levelsMatch_append_hash hplain rest).1 hmatches
      exact .inr ⟨front, above, below, hfilter, hplain, htopic, hfront⟩
  · rintro (⟨hplain, hlevels⟩ | ⟨front, above, below, hfilter, hplain, htopic, hfront⟩)
    · exact (levelsMatch_of_notMem hplain).2 hlevels
    · rw [hfilter]
      exact (levelsMatch_append_hash hplain []).2 ⟨rfl, above, below, htopic, hfront⟩
  · have htext : (filter ++ "/#").toList = filter.toList ++ '/' :: ['#'] := by simp
    rw [htext, levels_append_slash]
    exact (levelsMatch_append_hash plain []).2
      ⟨rfl, _, [], (List.append_nil _).symm, (levelsMatch_of_notMem plain).1 hmatches⟩
  · obtain hplain | ⟨front, rest, hfilter, hplain⟩ := notMem_or_exists_append (levels filter.toList)
    · exact absurd (List.mem_of_mem_dropLast hmem) hplain
    · rw [hfilter] at hmem ⊢
      refine Bool.eq_false_iff.2 fun hmatches => ?_
      obtain ⟨rfl, -⟩ := (levelsMatch_append_hash hplain rest).1 hmatches
      rw [List.dropLast_concat] at hmem
      exact hplain hmem

/-- A filter of all things matches the lamp, and so does one of all that is below them. A wildcard
    of many levels in the middle matches nothing. -/
theorem matches_iff_lamp :
    «matches» "things/+" "things/lamp" = true ∧ «matches» "things/+/#" "things/lamp" = true ∧
      «matches» "things/#/td" "things/lamp/td" = false := by
  obtain ⟨hiff, hparent, -⟩ := matches_iff "things/+" "things/lamp"
  obtain ⟨-, -, hnothing⟩ := matches_iff "things/#/td" "things/lamp/td"
  have hmatches := hiff.2 (.inl ⟨by decide, by decide⟩)
  exact ⟨hmatches, hparent (by decide) hmatches, hnothing (by decide)⟩

end WebOfThings.Topic
