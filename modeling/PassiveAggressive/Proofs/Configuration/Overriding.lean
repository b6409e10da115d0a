import Mathlib.Data.List.Nodup
import PassiveAggressive.Configuration.Document

/-!
# The environment over the document

The environment files its values under the names of entries, over what the document has there.
So an entry that a variable sets reads as the variable's text, where the variable has one, and
as in the document otherwise (`get?_override`).

Entries are filed under values and read under names.  The two agree because a text is the same
key as the texts that read like it, and as nothing else (`Key.same_text_iff`).
-/

namespace PassiveAggressive

namespace Value

theorem floatPart_ne_text (x : Float) (s : String) : floatPart x ≠ .text s := by
  unfold floatPart
  split
  · nofun
  · split <;> nofun

theorem keyParts_eq_text_iff {key : Value} {name : String} :
    keyParts key = .ok [.text name] ↔ key.text? = some name := by
  cases key with
  | float x => simp [keyParts, text?, floatPart_ne_text]
  | tuple xs => cases hxs : keyPartsAll xs <;> simp [keyParts, text?, hxs, bind, Except.bind]
  | entry id v =>
    cases hid : keyParts id <;> cases hv : keyParts v <;>
      simp [keyParts, text?, hid, hv, bind, Except.bind]
  | _ => simp [keyParts, text?]

end Value

theorem Key.same_text_iff {key : Value} {name : String} :
    Key.same key (.text name) = true ↔ key.text? = some name := by
  change Value.sameKey key (.text name) = true ↔ _
  rw [Value.sameKey_iff, ← Value.keyParts_eq_text_iff]
  constructor
  · rintro ⟨p, hkey, hname, -⟩
    rw [hkey, ← hname, Value.keyParts]
  · intro hkey
    exact ⟨_, hkey, by rw [Value.keyParts], by simp⟩

namespace Section

theorem get?_ofEntries_cons (e : Value × Value) (es : List (Value × Value)) (name : String) :
    (ofEntries (e :: es)).get? name =
      if e.1.text? = some name then some e.2 else (ofEntries es).get? name := by
  unfold ofEntries get?
  cases he : e.1.text? with
  | none => simp [he]
  | some n =>
    by_cases hn : n = name
    · subst hn
      simp [he]
    · simp [he, hn, List.lookup_cons, beq_false_of_ne fun h => hn h.symm]

/-- An entry that is filed is read under its name, and no other entry changes. -/
theorem get?_ofEntries_fileUnder (name other : String) (value : Value)
    (es : List (Value × Value)) :
    (ofEntries (Value.fileUnder (.text name) value es)).get? other =
      if other = name then some value else (ofEntries es).get? other := by
  induction es with
  | nil =>
    rw [Value.fileUnder, get?_ofEntries_cons]
    simp [Value.text?, eq_comm]
  | cons e es ih =>
    rw [Value.fileUnder]
    split
    · rename_i hsame
      have hname := Key.same_text_iff.1 hsame
      rw [get?_ofEntries_cons, get?_ofEntries_cons]
      simp only [hname, Option.some.injEq]
      by_cases hother : other = name
      · simp [hother]
      · simp [hother, Ne.symm hother]
    · rename_i hsame
      rw [get?_ofEntries_cons, get?_ofEntries_cons, ih]
      by_cases hother : other = name
      · subst hother
        have : e.1.text? ≠ some other := fun h => hsame (Key.same_text_iff.2 h)
        simp [this]
      · simp [hother]

end Section

namespace Configuration

/-- What a variable says of an entry: its text, unless that is empty. -/
def spoken (value : Option String) : Option Value :=
  (value.filter (· ≠ "")).map .text

/-- The entries with the one that a variable sets. -/
def overrideOne (env : Variables) (es : List (Value × Value)) (o : String × String) :
    List (Value × Value) :=
  match env.get? o.1 with
  | some value => if value = "" then es else Value.fileUnder (.text o.2) (.text value) es
  | none => es

theorem override_eq (env : Variables) (es : List (Value × Value)) :
    override env es = overrides.foldl (overrideOne env) es := rfl

theorem get?_overrideOne (env : Variables) (es : List (Value × Value)) (o : String × String)
    (name : String) :
    (Section.ofEntries (overrideOne env es o)).get? name =
      if name = o.2 then (spoken (env.get? o.1)).or ((Section.ofEntries es).get? name)
      else (Section.ofEntries es).get? name := by
  unfold overrideOne spoken
  cases env.get? o.1 with
  | none => simp
  | some value =>
    by_cases hvalue : value = ""
    · simp [hvalue, Option.filter]
    · by_cases hname : name = o.2 <;>
        simp [hvalue, hname, Section.get?_ofEntries_fileUnder, Option.filter]

theorem get?_foldl_overrideOne_of_notMem {env : Variables} {os : List (String × String)}
    {name : String} (h : name ∉ os.map Prod.snd) (es : List (Value × Value)) :
    (Section.ofEntries (os.foldl (overrideOne env) es)).get? name =
      (Section.ofEntries es).get? name := by
  induction os generalizing es with
  | nil => rfl
  | cons o os ih =>
    rw [List.map_cons, List.mem_cons, not_or] at h
    rw [List.foldl_cons, ih h.2, get?_overrideOne, if_neg h.1]

theorem get?_foldl_overrideOne {env : Variables} {os : List (String × String)}
    (hos : (os.map Prod.snd).Nodup) {o : String × String} (ho : o ∈ os)
    (es : List (Value × Value)) :
    (Section.ofEntries (os.foldl (overrideOne env) es)).get? o.2 =
      (spoken (env.get? o.1)).or ((Section.ofEntries es).get? o.2) := by
  induction os generalizing es with
  | nil => cases ho
  | cons first os ih =>
    rw [List.map_cons, List.nodup_cons] at hos
    rw [List.foldl_cons]
    obtain rfl | ho := List.mem_cons.1 ho
    · rw [get?_foldl_overrideOne_of_notMem hos.1, get?_overrideOne, if_pos rfl]
    · have hne : o.2 ≠ first.2 := fun h => hos.1 (h ▸ List.mem_map_of_mem ho)
      rw [ih hos.2 ho, get?_overrideOne, if_neg hne]

theorem get?_override {o : String × String} (ho : o ∈ overrides) (env : Variables)
    (es : List (Value × Value)) :
    (Section.ofEntries (override env es)).get? o.2 =
      (spoken (env.get? o.1)).or ((Section.ofEntries es).get? o.2) := by
  rw [override_eq]
  exact get?_foldl_overrideOne (by decide) ho es

end Configuration
end PassiveAggressive
