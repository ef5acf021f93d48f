import Mathlib.Data.List.Basic
import Mathlib.Data.List.Nodup
import Mathlib.Tactic.Common
import Switchboard.Registry.Snapshot

/-!
# One descriptor for each handler instance

A handler may stand behind many descriptors.  The first of each instance lead the
list: every descriptor is led by exactly one of them, and what they name is the list
of the handlers without repetitions.
-/

namespace Switchboard

/-- Some descriptors hold, for each handler instance of a list of descriptors, the
first one of the instance, in the order of the list. -/
structure Descriptor.Leads (leaders descriptors : List Descriptor) : Prop where
  ordered : leaders.Sublist descriptors
  distinct : (leaders.map Descriptor.handler).Nodup
  first : ∀ descriptor ∈ descriptors, ∃ leader ∈ leaders,
    descriptors.find? (fun other => decide (other.handler = descriptor.handler)) = some leader

theorem Descriptor.Leads.cons
    {leaders descriptors : List Descriptor} (h : Leads leaders descriptors)
    (descriptor : Descriptor) :
    Leads (descriptor :: leaders.filter fun other => other.handler ≠ descriptor.handler)
      (descriptor :: descriptors) := by
  refine ⟨?_, ?_, ?_⟩
  · exact (List.filter_sublist.trans h.ordered).cons_cons descriptor
  · rw [List.map_cons, List.nodup_cons]
    constructor
    · intro hmem
      obtain ⟨other, hother, hsame⟩ := List.mem_map.mp hmem
      have hne : other.handler ≠ descriptor.handler := by
        simpa using (List.mem_filter.mp hother).2
      exact hne hsame
    · exact (List.filter_sublist.map Descriptor.handler).nodup h.distinct
  · intro other hother
    by_cases hsame : descriptor.handler = other.handler
    · refine ⟨descriptor, List.mem_cons_self, ?_⟩
      rw [List.find?_cons_of_pos (by simpa using hsame)]
    · have hrest : other ∈ descriptors := by
        rcases List.mem_cons.mp hother with rfl | hrest
        · exact absurd rfl hsame
        · exact hrest
      obtain ⟨leader, hleader, hfind⟩ := h.first other hrest
      have hhandler : leader.handler = other.handler := by
        simpa using List.find?_some hfind
      have hkept : leader.handler ≠ descriptor.handler := fun heq =>
        hsame (heq.symm.trans hhandler)
      refine ⟨leader, List.mem_cons_of_mem _ (List.mem_filter.mpr ⟨hleader, ?_⟩), ?_⟩
      · simpa using hkept
      · rw [List.find?_cons_of_neg (by simpa using hsame)]
        exact hfind

namespace Snapshot

theorem leads_onePerHandler (descriptors : List Descriptor) :
    Descriptor.Leads (onePerHandler descriptors) descriptors := by
  induction descriptors with
  | nil => exact ⟨List.Sublist.refl _, List.nodup_nil, by simp⟩
  | cons descriptor rest ih => exact ih.cons descriptor

theorem mem_of_mem_onePerHandler {descriptors : List Descriptor} {descriptor : Descriptor}
    (h : descriptor ∈ onePerHandler descriptors) : descriptor ∈ descriptors :=
  (leads_onePerHandler descriptors).ordered.subset h

/-- Every handler keeps one of its descriptors. -/
theorem exists_mem_onePerHandler {descriptors : List Descriptor} {descriptor : Descriptor}
    (h : descriptor ∈ descriptors) :
    ∃ kept ∈ onePerHandler descriptors, kept.handler = descriptor.handler := by
  obtain ⟨leader, hleader, hfind⟩ := (leads_onePerHandler descriptors).first descriptor h
  exact ⟨leader, hleader, by simpa using List.find?_some hfind⟩

theorem map_handler_filter_onePerHandler (descriptors : List Descriptor) (keep : Handler → Bool) :
    ((onePerHandler descriptors).filter fun descriptor => keep descriptor.handler).map
        Descriptor.handler =
      ((descriptors.map Descriptor.handler).filter keep).eraseDups := by
  -- What the first descriptor removes from the rest joins the test, so the test is general.
  induction descriptors generalizing keep with
  | nil => rfl
  | cons descriptor rest ih =>
      have hrest := ih fun handler => keep handler && decide (handler ≠ descriptor.handler)
      rw [onePerHandler, List.map_cons, List.filter_cons, List.filter_cons, List.filter_filter]
      by_cases hkeep : keep descriptor.handler = true
      · rw [if_pos hkeep, if_pos hkeep, List.map_cons, hrest, List.eraseDups_cons,
          List.filter_filter]
        congr 2
        apply List.filter_congr
        intro handler _
        by_cases hsame : handler = descriptor.handler <;> simp [hsame]
      · rw [if_neg hkeep, if_neg hkeep, hrest]
        congr 1
        apply List.filter_congr
        intro handler _
        by_cases hsame : handler = descriptor.handler <;> simp [hsame, hkeep]

/-- The instances of some descriptors are their handlers, each once. -/
theorem map_handler_onePerHandler (descriptors : List Descriptor) :
    (onePerHandler descriptors).map Descriptor.handler =
      (descriptors.map Descriptor.handler).eraseDups := by
  simpa using map_handler_filter_onePerHandler descriptors fun _ => true

end Snapshot

end Switchboard
