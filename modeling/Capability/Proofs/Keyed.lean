/-!
# Lists whose elements have distinct keys

Manifests have names, fields have names, and so do the values of a choice.  Where
no two elements of a list share a key, an element is the only one with its key,
so that a search by the key finds that element.
-/

namespace Capability

variable {α : Type} {key : α → String} {list : List α}

theorem nodup_key_concat (nodup : (list.map key).Nodup) {element : α}
    (free : key element ∉ list.map key) : ((list ++ [element]).map key).Nodup := by
  rw [List.map_append, List.nodup_append]
  refine ⟨nodup, List.nodup_cons.mpr ⟨List.not_mem_nil, List.nodup_nil⟩, ?_⟩
  intro taken listed new isNew equal
  rw [equal, List.mem_singleton.mp isNew] at listed
  exact free listed

/-- What stands behind other elements has a key that they lack. -/
theorem key_free_of_nodup {before rest : List α} {element : α}
    (nodup : ((before ++ element :: rest).map key).Nodup) : key element ∉ before.map key := by
  rw [List.map_append, List.nodup_append] at nodup
  intro taken
  exact nodup.2.2 _ taken _ List.mem_cons_self rfl

/-- Where keys are distinct, an element is the only one with its key. -/
theorem filter_key_of_mem (nodup : (list.map key).Nodup) {element : α} (member : element ∈ list) :
    (list.filter fun other => key other == key element) = [element] := by
  induction list with
  | nil => cases member
  | cons head tail inductionHypothesis =>
      have parts := List.nodup_cons.mp nodup
      cases List.mem_cons.mp member with
      | inl same =>
          subst head
          have others : (tail.filter fun other => key other == key element) = [] := by
            apply List.filter_eq_nil_iff.mpr
            intro other listed equal
            exact parts.1 (List.mem_map.mpr ⟨other, listed, beq_iff_eq.mp equal⟩)
          rw [List.filter_cons, if_pos (beq_self_eq_true _), others]
      | inr later =>
          have different : ¬ (key head == key element) = true := by
            intro equal
            exact parts.1 (List.mem_map.mpr ⟨element, later, (beq_iff_eq.mp equal).symm⟩)
          rw [List.filter_cons, if_neg different]
          exact inductionHypothesis parts.2 later

/-- Where keys are distinct, a search by the key of an element finds the element. -/
theorem find?_key_of_mem (nodup : (list.map key).Nodup) {element : α} (member : element ∈ list) :
    (list.find? fun other => key other == key element) = some element := by
  rw [← List.head?_filter, filter_key_of_mem nodup member]
  rfl

end Capability
