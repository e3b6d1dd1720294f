import Mathlib.Algebra.Order.Ring.Nat
import Mathlib.Data.List.Basic

/-!
# Foundation - Fields joined with a separator

Fields are joined into one list with a separator between them.  The fields can be read back
when it is known how often the separator stands in each of them; fields that hold no separator
can be read back in any number.

Main results:

- Theorem {lit}`intercalate_inj_of_count`: the separators in each field fix the fields.
- Theorem {lit}`intercalate_inj_of_free`: fields without separators are fixed.
-/

namespace TokenStreaming
namespace JoinedFields

variable {α : Type} [DecidableEq α] {sep : α}

/-- A separator behind equally many others is the same one. -/
theorem append_sep_inj {front front' back back' : List α}
    (hcount : front.count sep = front'.count sep)
    (h : front ++ sep :: back = front' ++ sep :: back') : front = front' ∧ back = back' := by
  induction front generalizing front' with
  | nil =>
      cases front' with
      | nil =>
          rw [List.nil_append, List.nil_append] at h
          exact ⟨rfl, (List.cons.inj h).2⟩
      | cons c front' =>
          have hhead : sep = c := (List.cons.inj h).1
          rw [hhead, List.count_nil, List.count_cons_self] at hcount
          omega
  | cons c front ih =>
      cases front' with
      | nil =>
          have hhead : c = sep := (List.cons.inj h).1
          rw [hhead, List.count_nil, List.count_cons_self] at hcount
          omega
      | cons c' front' =>
          rw [List.cons_append, List.cons_append] at h
          rcases List.cons.inj h with ⟨rfl, htail⟩
          have hrest : front.count sep = front'.count sep := by
            rw [List.count_cons, List.count_cons] at hcount
            omega
          rcases ih hrest htail with ⟨rfl, rfl⟩
          exact ⟨rfl, rfl⟩

/-- Joined fields are fixed by how often the separator stands in each. -/
theorem intercalate_inj_of_count {fields fields' : List (List α)}
    (hcount : fields.map (List.count sep) = fields'.map (List.count sep))
    (h : [sep].intercalate fields = [sep].intercalate fields') : fields = fields' := by
  induction fields generalizing fields' with
  | nil =>
      cases fields' with
      | nil => rfl
      | cons field fields' => cases hcount
  | cons field fields ih =>
      cases fields' with
      | nil => cases hcount
      | cons field' fields' =>
          rw [List.map_cons, List.map_cons] at hcount
          rcases List.cons.inj hcount with ⟨hfirst, hrest⟩
          cases fields with
          | nil =>
              cases fields' with
              | nil =>
                  rw [List.intercalate_singleton, List.intercalate_singleton] at h
                  rw [h]
              | cons next fields' => cases hrest
          | cons next fields =>
              cases fields' with
              | nil => cases hrest
              | cons next' fields' =>
                  rw [List.intercalate_cons_cons, List.intercalate_cons_cons,
                    List.append_assoc, List.append_assoc, List.singleton_append,
                    List.singleton_append] at h
                  rcases append_sep_inj hfirst h with ⟨rfl, htail⟩
                  rw [ih hrest htail]

/-- The separators of a join are those of the fields and those between them. -/
theorem count_intercalate {field : List α} {fields : List (List α)} :
    ([sep].intercalate (field :: fields)).count sep =
      ((field :: fields).map (List.count sep)).sum + fields.length := by
  induction fields generalizing field with
  | nil => simp
  | cons next fields ih =>
      rw [List.intercalate_cons_cons, List.count_append, List.count_append, ih,
        List.count_singleton_self, List.map_cons (l := next :: fields), List.sum_cons,
        List.length_cons]
      omega

/-- Fields without separators are fixed, and so is their number. -/
theorem intercalate_inj_of_free {fields fields' : List (List α)} (hne : fields ≠ [])
    (hne' : fields' ≠ []) (hfree : ∀ field ∈ fields, sep ∉ field)
    (hfree' : ∀ field ∈ fields', sep ∉ field)
    (h : [sep].intercalate fields = [sep].intercalate fields') : fields = fields' := by
  have hread := List.splitOn_intercalate sep hfree hne
  have hread' := List.splitOn_intercalate sep hfree' hne'
  rw [h, hread'] at hread
  exact hread.symm

end JoinedFields
end TokenStreaming
