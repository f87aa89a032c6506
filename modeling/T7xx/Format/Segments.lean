import Mathlib.Data.List.Induction

namespace Segments

variable {α : Type*} (ends : α → Bool)

/-- A list cut behind each element that ends a segment: the whole segments, and what is left over. -/
def cut (l : List α) : List (List α) × List α :=
  l.foldl (fun parts a =>
    if ends a then (parts.1 ++ [parts.2 ++ [a]], []) else (parts.1, parts.2 ++ [a])) ([], [])

variable {ends}

theorem cut_append (l : List α) (a : α) :
    cut ends (l ++ [a]) =
      if ends a then ((cut ends l).1 ++ [(cut ends l).2 ++ [a]], [])
      else ((cut ends l).1, (cut ends l).2 ++ [a]) := by
  unfold cut
  rw [List.foldl_append]
  rfl

theorem cut_append_end {l : List α} {a : α} (last : ends a = true) :
    cut ends (l ++ [a]) = ((cut ends l).1 ++ [(cut ends l).2 ++ [a]], []) :=
  (cut_append l a).trans (if_pos last)

theorem cut_append_more {l : List α} {a : α} (more : ends a = false) :
    cut ends (l ++ [a]) = ((cut ends l).1, (cut ends l).2 ++ [a]) :=
  (cut_append l a).trans (if_neg (Bool.eq_false_iff.mp more))

/-- What follows only adds whole segments. -/
theorem cut_isPrefix (first second : List α) : (cut ends first).1 <+: (cut ends (first ++ second)).1 := by
  induction second using List.reverseRecOn with
  | nil => simp only [List.append_nil, List.prefix_refl]
  | append_singleton second a ih =>
    rw [← List.append_assoc, cut_append]
    split
    · exact ih.trans (List.prefix_append _ _)
    · exact ih

theorem cut_append_run {l run : List α} (goes : ∀ a ∈ run, ends a = false) :
    cut ends (l ++ run) = ((cut ends l).1, (cut ends l).2 ++ run) := by
  induction run using List.reverseRecOn with
  | nil =>
    rw [List.append_nil, List.append_nil]
  | append_singleton run a ih =>
    have before := ih fun b member => goes b (List.mem_append_left _ member)
    rw [← List.append_assoc, cut_append_more (goes a (by simp)), before]
    simp

/-- Behind whole segments one more is cut off as it was put there. -/
theorem cut_append_segment {l run : List α} {a : α} (whole : (cut ends l).2 = [])
    (goes : ∀ b ∈ run, ends b = false) (last : ends a = true) :
    cut ends (l ++ (run ++ [a])) = ((cut ends l).1 ++ [run ++ [a]], []) := by
  rw [← List.append_assoc, cut_append_end last, cut_append_run goes, whole, List.nil_append]

end Segments
