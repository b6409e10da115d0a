import PassiveAggressive.Proofs.Example.Independence
import PassiveAggressive.Proofs.Weights.Loading

/-!
# Weights that are written and read

Weights under ids that tokens can have are written to a file and loaded again.  The ids come back
as they are, whatever stands in them: commas, quotation marks and line feeds are put in marks,
and leading zeros are kept because a name made of digits is a text where no whole numbers are
wanted.  Each weight is added to zero, so it comes back as it is, but a negative zero loses
its sign (`load_save`).

Two kinds of name are left out: one that stands for a missing value, and one that breaks at a
carriage return.
-/

namespace PassiveAggressive
namespace Weights

open Csv

variable {intIds : Bool}

/-- A token can have the id. -/
def IsTokenId (intIds : Bool) (id : Value) : Prop :=
  ∃ s f, Token.read intIds (.text s) = .ok f ∧ f.id = id

/-- The name can stand in a cell: it does not stand for a missing value, and has no carriage
return. -/
structure IsKept (name : String) : Prop where
  present : isMissing name = false
  noReturn : lineReturn ∉ name.toList

theorem IsTokenId.hasName {id : Value} (h : IsTokenId intIds id) : HasName intIds id := by
  obtain ⟨s, f, hread, rfl⟩ := h
  exact Token.hasName_of_read_text hread

theorem comesBack_of_hasName {id : Value} (h : HasName intIds id)
    (hkept : ∀ name, id = .text name → IsKept name) : ComesBack id := by
  rcases h.cases with ⟨name, -, -, rfl⟩ | ⟨n, -, -, rfl⟩
  · obtain ⟨hpresent, hreturn⟩ := hkept name rfl
    exact ⟨hpresent, .inr hreturn⟩
  · exact comesBack_int n

theorem isTextOrWhole_of_hasName {id : Value} (h : HasName intIds id) : IsTextOrWhole id := by
  rcases h.cases with ⟨name, -, -, rfl⟩ | ⟨n, -, -, rfl⟩ <;> trivial

theorem same_added (w : Float) : Number.Same w (added w) := by
  by_cases hw : Double.IsNegativeZero w
  · refine .inr ⟨true, false, ?_, ?_⟩
    · rw [← Double.ofParts_parts w, hw]
      decide +kernel
    · rw [added, ← Double.ofParts_parts w, hw]
      decide +kernel
  · exact .inl (Double.zero_add_of_not_isNegativeZero hw).symm

/-- A file of weights can be written to the path: it is no folder, and the folders above it can be
made. -/
def CanSave (w : Files) (p : Path) : Prop := ∃ r, save w p [] = .ok r

instance (w : Files) (p : Path) : Decidable (CanSave w p) :=
  match h : save w p [] with
  | .ok r => .isTrue ⟨r, h⟩
  | .error _ => .isFalse fun ⟨_, hr⟩ => nomatch h.symm.trans hr

/-- Whether a file can be written does not depend on the weights. -/
theorem CanSave.exists_save {w : Files} {p : Path} (h : CanSave w p) (pairs : List (Value × Value)) :
    ∃ after line, save w p pairs = .ok (after, line) := by
  obtain ⟨r, hr⟩ := h
  obtain ⟨w₁, hfolder, hr⟩ := bind_eq_ok_iff.1 hr
  obtain ⟨w₂, hwrite, -⟩ := bind_eq_ok_iff.1 hr
  obtain ⟨after, hafter⟩ : ∃ after, w₁.write p (written pairs) = .ok after := by
    unfold Files.write at hwrite ⊢
    split at hwrite
    · cases hwrite
    · split at hwrite
      · exact ⟨_, rfl⟩
      · cases hwrite
  exact ⟨after, _, bind_eq_ok_iff.2 ⟨w₁, hfolder, bind_eq_ok_iff.2 ⟨after, hafter, rfl⟩⟩⟩

/-- **Weights come back from a file.**  Let finite weights that read back stand under pairwise
different ids, each of them one that a token can have and none with a name that is left out.  They
are written to any path that files can be written to, and a model is loaded from there, with the same
ids in the same order and the same numbers under them. -/
theorem load_save {pairs : List (Value × Float)} (hids : ∀ e ∈ pairs, IsTokenId intIds e.1)
    (hkept : ∀ e ∈ pairs, ∀ name, e.1 = .text name → IsKept name)
    (hdistinct : (pairs.map Prod.fst).Nodup)
    (hfinite : ∀ e ∈ pairs, NumberSystem.isFinite e.2 = true)
    (hback : ∀ e ∈ pairs, ReadsBack (.real e.2)) {w : Files} {p : Path} (hp : CanSave w p) :
    ∃ after line m, save w p (pairs.map fun e => (e.1, .float e.2)) = .ok (after, line) ∧
      load after p intIds = .ok m ∧
      List.Forall₂ (fun e e' => e'.1 = e.1 ∧ ∃ x, e'.2 = Scalar.real x ∧ Number.Same e.2 x)
        pairs m.entries := by
  have hnames : ∀ e ∈ pairs, HasName intIds e.1 := fun e he => (hids e he).hasName
  have hmap : ∀ id ∈ (WeightMap.mk pairs).keys, ∃ e ∈ pairs, e.1 = id := fun id hid =>
    List.mem_map.1 hid
  have hwritable : Writable intIds ⟨pairs⟩ := by
    refine ⟨fun id hid => ?_, hfinite, hback⟩
    obtain ⟨e, he, rfl⟩ := hmap id hid
    exact hnames e he
  have hkeys : (WeightMap.mk pairs).DistinctKeys := by
    refine hdistinct.imp_of_mem fun {a b} ha hb hab => Bool.eq_false_iff.2 fun hsame => hab ?_
    exact (same_iff_eq (isTextOrWhole_of_hasName (hwritable.ids a ha))
      (isTextOrWhole_of_hasName (hwritable.ids b hb))).1 hsame
  have hcomesBack : ∀ id ∈ (WeightMap.mk pairs).keys, ComesBack id := by
    intro id hid
    obtain ⟨e, he, rfl⟩ := hmap id hid
    exact comesBack_of_hasName (hnames e he) (hkept e he)
  obtain ⟨after, line, hsave⟩ := hp.exists_save (pairs.map fun e => (e.1, .float e.2))
  refine ⟨after, line, _, hsave,
    (load_of_save hsave).trans (ofText_written_eq hwritable hkeys hcomesBack), ?_⟩
  rw [WeightMap.entries_map, List.forall₂_map_right_iff]
  exact List.forall₂_same.2 fun e _ => ⟨rfl, _, rfl, same_added e.2⟩

/-- A name that is put in marks, a name with a blank, two whole numbers of which one is a large
one, and a negative zero. -/
def marked : List (Value × Float) :=
  [(.text "a,\"b\nc", 4.9), (.int 7, -0.0), (.text "x 07", 0.1),
    (.int 123456789012345678901234567890, 2)]

theorem load_save_marked :
    ∃ after line m, save (.ofList []) (.ofText "w.csv") (marked.map fun e => (e.1, .float e.2)) =
        .ok (after, line) ∧
      load after (.ofText "w.csv") true = .ok m ∧
      List.Forall₂ (fun e e' => e'.1 = e.1 ∧ ∃ x, e'.2 = Scalar.real x ∧ Number.Same e.2 x)
        marked m.entries := by
  have hp : CanSave (.ofList []) (.ofText "w.csv") := by decide +kernel
  have hids : ∀ e ∈ marked, IsTokenId true e.1 := by
    simp only [marked, List.forall_mem_cons, List.not_mem_nil, false_imp_iff, implies_true,
      and_true]
    exact ⟨⟨"a,\"b\nc", _, rfl, rfl⟩, ⟨"007", _, rfl, rfl⟩, ⟨"x 07:2", _, rfl, rfl⟩,
      "123456789012345678901234567890", _, rfl, rfl⟩
  have hkept : ∀ e ∈ marked, ∀ name, e.1 = .text name → IsKept name := by
    simp only [marked, List.forall_mem_cons, List.not_mem_nil, false_imp_iff, implies_true,
      and_true, Value.text.injEq, forall_eq', reduceCtorEq, true_and]
    exact ⟨⟨by decide +kernel, by decide +kernel⟩, by decide +kernel, by decide +kernel⟩
  exact load_save hids hkept (by simp [marked])
    (by decide +kernel : ∀ e ∈ marked, NumberSystem.isFinite e.2 = true)
    (by decide +kernel : ∀ e ∈ marked, ReadsBack (.real e.2)) hp

end Weights
end PassiveAggressive
