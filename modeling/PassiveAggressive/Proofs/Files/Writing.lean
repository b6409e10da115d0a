import PassiveAggressive.Files

/-!
# Reading what has been written

A file that has been written can be read under the same path, and has the text that was
written (`read_of_write`).  Writing puts a text in a place and takes nothing away, so every
folder on the way is still one, and the path leads to the same place as before.
-/

namespace PassiveAggressive
namespace Files

variable {w w' : Files} {place : List String} {text : String}

theorem lookup_put (place : List String) (text : String) (ts : List (List String × String)) :
    (put place text ts).lookup place = some text := by
  induction ts with
  | nil => simp [put]
  | cons t ts ih =>
    rw [put]
    split
    · simp
    · rename_i hne
      rw [List.lookup_cons, beq_false_of_ne fun h => hne h.symm]
      exact ih

/-- Putting a text in a place takes no place away. -/
theorem exists_mem_put {t : List String × String} {ts : List (List String × String)} (h : t ∈ ts) :
    ∃ t' ∈ put place text ts, t'.1 = t.1 := by
  induction ts with
  | nil => exact absurd h List.not_mem_nil
  | cons first ts ih =>
    rw [put]
    split
    · rename_i hplace
      rcases List.mem_cons.1 h with rfl | h
      · exact ⟨(place, text), List.mem_cons_self, hplace.symm⟩
      · exact ⟨t, List.mem_cons_of_mem _ h, rfl⟩
    · rcases List.mem_cons.1 h with rfl | h
      · exact ⟨t, List.mem_cons_self, rfl⟩
      · obtain ⟨t', ht', hsame⟩ := ih h
        exact ⟨t', List.mem_cons_of_mem _ ht', hsame⟩

theorem isFolder_put {folder : List String} (h : w.isFolder folder = true) :
    ({ w with texts := put place text w.texts } : Files).isFolder folder = true := by
  simp only [isFolder, Bool.or_eq_true] at h ⊢
  refine h.imp_right fun h => ?_
  obtain ⟨t, ht, hbelow⟩ := List.any_eq_true.1 h
  obtain ⟨t', ht', hsame⟩ := exists_mem_put ht
  exact List.any_eq_true.2 ⟨t', ht', by rw [hsame]; exact hbelow⟩

/-- A path that leads somewhere leads there still. -/
theorem follow_put {start target : List String} {parts : List String}
    (h : w.follow start parts = some target) :
    ({ w with texts := put place text w.texts } : Files).follow start parts = some target := by
  induction parts generalizing start with
  | nil => exact h
  | cons part parts ih =>
    rw [follow] at h ⊢
    cases hfolder : w.isFolder start with
    | false =>
      rw [hfolder] at h
      cases h
    | true =>
      rw [hfolder] at h
      rw [isFolder_put hfolder]
      simp only [Bool.not_true, Bool.false_eq_true, ↓reduceIte] at h ⊢
      split at h
      · rename_i hup
        rw [if_pos hup]
        split at h
        · cases h
        · rename_i htop
          rw [if_neg htop]
          exact ih h
      · rename_i hup
        rw [if_neg hup]
        exact ih h

/-- **What has been written can be read.** -/
theorem read_of_write {p : Path} (h : w.write p text = .ok w') :
    w'.has p = true ∧ w'.read p = .ok text := by
  have hfind : w'.find p = .file text := by
    unfold write at h
    split at h
    · cases h
    · split at h
      · rename_i place hplace
        cases h
        rw [find, follow_put hplace]
        simp only [at_, lookup_put]
      · cases h
  simp [has, read, hfind]

end Files
end PassiveAggressive
