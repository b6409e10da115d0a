import Mathlib.Logic.Function.Basic
import PassiveAggressive.Proofs.Weights.Agreement
import PassiveAggressive.Proofs.Weights.Tallies

/-!
# A model and the copies of its weights

Whoever has a model can add to its weights, read them and have them copied, in any order, and an
addition may fail.  A model is changed in place: the weight is looked up, added to and filed
again (`InPlace.add`), so that it has to be shown that an addition which fails on the way has
not changed anything (`InPlace.on_add`).

That a copy does not change with the model says nothing as long as copies are values.  So the
entries stand on sheets here, each of them at a place, and a model knows the place of its own
sheet.  Adding writes on that sheet, copying takes a new one, and what is handed out is the
place (`Desk`).  A copy could be the sheet of the model itself; it is not, because the place was
free (`Keeps`).

* `Uses`: what a use comes to, and what it does to the sheets.
* `addAll_additions`: the model after some uses is what the additions make of the one before that
  have not failed.
* `tally_after`: the model after any uses, told by these additions alone.
-/

namespace PassiveAggressive

variable {ι α : Type} [Key ι] [Arithmetic α]

/-! ## Adding in place -/

namespace InPlace

variable {β γ : Type}

/-- Files a weight in the model. -/
def file (id : ι) (w : α) : InPlace ι α Unit := do
  Key.check id
  modify fun m => m.insert id w

/-- Looks a weight up and adds to it. -/
def sum (id : ι) (delta : α) : InPlace ι α α := do
  let w ← weight id
  Arithmetic.add w delta

/-- Adds to a weight: it is looked up, added to, and filed. -/
def add (id : ι) (delta : α) : InPlace ι α Unit := do
  let w ← sum id delta
  file id w

/-- Whether an id has a weight. -/
def contains (id : ι) : InPlace ι α Bool := do
  let m ← get
  m.contains id

omit [Key ι] [Arithmetic α] in
/-- The number of ids with a weight. -/
def size : InPlace ι α Nat := do
  let m ← get
  pure m.size

omit [Key ι] [Arithmetic α] in
/-- The model in one line. -/
def describe : InPlace ι α String := do
  let m ← get
  pure m.describe

omit [Key ι] [Arithmetic α] in
theorem on_bind_of_ok {work : InPlace ι α β} {next : β → InPlace ι α γ} {m m' : WeightMap ι α}
    {b : β} (h : work.on m = (.ok b, m')) : (work >>= next).on m = (next b).on m' := by
  change ExceptT.bindCont next (work.on m).1 (work.on m).2 = _
  rw [h]
  rfl

omit [Key ι] [Arithmetic α] in
theorem on_bind_of_error {work : InPlace ι α β} {next : β → InPlace ι α γ} {m m' : WeightMap ι α}
    {f : Fault} (h : work.on m = (.error f, m')) : (work >>= next).on m = (.error f, m') := by
  change ExceptT.bindCont next (work.on m).1 (work.on m).2 = _
  rw [h]
  rfl

theorem reads_sum (id : ι) (delta : α) :
    Reads (sum id delta) fun m => m.get id >>= fun w => Arithmetic.add w delta :=
  (reads_weight id).bind fun w => reads_lift (Arithmetic.add w delta)

omit [Arithmetic α] in
theorem reads_contains (id : ι) : Reads (α := α) (contains id) fun m => m.contains id :=
  fun _ => rfl

omit [Key ι] [Arithmetic α] in
theorem reads_size : Reads (ι := ι) (α := α) size fun m => .ok m.size := fun _ => rfl

omit [Key ι] [Arithmetic α] in
theorem reads_describe : Reads (ι := ι) (α := α) describe fun m => .ok m.describe := fun _ => rfl

/-- **Adding in place** files the sum.  Where there is none, the model stays as it is. -/
theorem on_add (id : ι) (delta : α) (m : WeightMap ι α) :
    (add id delta).on m =
      match m.add id delta with
      | .ok m' => (.ok (), m')
      | .error f => (.error f, m) := by
  have hread : (sum id delta).on m = (m.get id >>= fun w => Arithmetic.add w delta, m) :=
    reads_sum id delta m
  have hadd : m.add id delta =
      (m.get id >>= fun w => Arithmetic.add w delta) >>= fun w => .ok (m.insert id w) := by
    rw [WeightMap.add, bind_assoc]
  rw [add, hadd]
  cases hsum : m.get id >>= fun w => Arithmetic.add w delta with
  | error f =>
    rw [hsum] at hread
    exact on_bind_of_error hread
  | ok w =>
    -- the id has been looked up under, so filing does not fail
    obtain ⟨_, hget, -⟩ := bind_eq_ok_iff.1 hsum
    have hcheck : (liftM (Key.check id) : InPlace ι α Unit).on m = (.ok (), m) := by
      rw [reads_lift, WeightMap.check_of_get hget]
    rw [hsum] at hread
    rw [on_bind_of_ok hread, file, on_bind_of_ok hcheck]
    rfl

end InPlace

/-! ## Sheets -/

/-- Sheets of entries, each at a place, and a model that writes on one of them. -/
structure Desk (ι α : Type) where
  sheet : Nat → List (ι × α)
  /-- No sheet has been taken from this place on. -/
  free : Nat
  /-- The place of the sheet of the model. -/
  own : Nat
  own_lt_free : own < free

/-- What can be done with a model. -/
inductive Use (ι α : Type) where
  | add (id : ι) (delta : α)
  | get (id : ι)
  | item (id : ι)
  | has (id : ι)
  | len
  | items
  | snapshot
  | describe

/-- What it comes to. -/
inductive Answer (α : Type) where
  | done
  | weight (w : α)
  | known (b : Bool)
  | count (n : Nat)
  | line (s : String)
  /-- The sheet at this place is handed out. -/
  | sheet (place : Nat)
  deriving DecidableEq

namespace Use

/-- What a use answers that only reads. -/
def reading? (m : WeightMap ι α) : Use ι α → Option (Except Fault (Answer α))
  | .get id | .item id => some ((m.get id).map .weight)
  | .has id => some ((m.contains id).map .known)
  | .len => some (.ok (.count m.size))
  | .describe => some (.ok (.line m.describe))
  | .add .. | .items | .snapshot => none

omit [Key ι] [Arithmetic α] in
/-- The addition that has been made, if the use is one and has not failed. -/
def addition? : Use ι α → Except Fault (Answer α) → Option (ι × α)
  | .add id delta, .ok _ => some (id, delta)
  | _, _ => none

end Use

namespace Desk

variable {β : Type}

/-- The model: what its sheet lists. -/
def model (d : Desk ι α) : WeightMap ι α := ⟨d.sheet d.own⟩

/-- Writes a model on its sheet. -/
def write (d : Desk ι α) (m : WeightMap ι α) : Desk ι α :=
  { d with sheet := Function.update d.sheet d.own m.entries }

/-- Copies the sheet of the model to the first place that is free. -/
def copied (d : Desk ι α) : Desk ι α where
  sheet := Function.update d.sheet d.free (d.sheet d.own)
  free := d.free + 1
  own := d.own
  own_lt_free := Nat.lt_succ_of_lt d.own_lt_free

/-- Work on the model in place: what it comes to, and the sheets as it leaves them. -/
def work (d : Desk ι α) (w : InPlace ι α β) (answer : β → Answer α) :
    Except Fault (Answer α) × Desk ι α :=
  ((w.on d.model).1.map answer, d.write (w.on d.model).2)

/-- What a use of the model comes to, and the sheets afterwards. -/
def use (d : Desk ι α) : Use ι α → Except Fault (Answer α) × Desk ι α
  | .add id delta => d.work (InPlace.add id delta) fun _ => .done
  | .get id | .item id => d.work (InPlace.weight id) .weight
  | .has id => d.work (InPlace.contains id) .known
  | .len => d.work InPlace.size .count
  | .describe => d.work InPlace.describe .line
  | .items | .snapshot => (.ok (.sheet d.free), d.copied)

/-- The sheets after a list of uses, whatever they came to. -/
def after (d : Desk ι α) (us : List (Use ι α)) : Desk ι α := us.foldl (fun d u => (d.use u).2) d

/-- The additions among some uses that have not failed, in order. -/
def additions (d : Desk ι α) : List (Use ι α) → List (ι × α)
  | [] => []
  | u :: us => (u.addition? (d.use u).1).toList ++ (d.use u).2.additions us

section Sheets

omit [Key ι] [Arithmetic α]

@[simp] theorem model_write (d : Desk ι α) (m : WeightMap ι α) : (d.write m).model = m := by
  simp [model, write]

@[simp] theorem write_model (d : Desk ι α) : d.write d.model = d := by
  simp [write, model]

@[simp] theorem model_copied (d : Desk ι α) : d.copied.model = d.model := by
  simp [model, copied, Function.update_of_ne d.own_lt_free.ne]

theorem sheet_copied (d : Desk ι α) : d.copied.sheet d.free = d.model.entries :=
  Function.update_self _ _ _

end Sheets

/-! ## One use -/

/-- **What a use comes to, and what it does to the sheets.** -/
inductive Uses (d : Desk ι α) : Use ι α → Except Fault (Answer α) × Desk ι α → Prop
  | added {id : ι} {delta : α} {m : WeightMap ι α} (h : d.model.add id delta = .ok m) :
    Uses d (.add id delta) (.ok .done, d.write m)
  | refused {id : ι} {delta : α} {f : Fault} (h : d.model.add id delta = .error f) :
    Uses d (.add id delta) (.error f, d)
  | read {u : Use ι α} {r : Except Fault (Answer α)} (h : u.reading? d.model = some r) :
    Uses d u (r, d)
  | copied {u : Use ι α} (h : u = .items ∨ u = .snapshot) :
    Uses d u (.ok (.sheet d.free), d.copied)

omit [Key ι] [Arithmetic α] in
theorem work_of_reads {w : InPlace ι α β} {read : WeightMap ι α → Except Fault β}
    (h : InPlace.Reads w read) (answer : β → Answer α) (d : Desk ι α) :
    d.work w answer = ((read d.model).map answer, d) := by
  rw [work, h d.model, write_model]

/-- **An addition** is made in place.  One that fails leaves all sheets as they are. -/
theorem use_add (d : Desk ι α) (id : ι) (delta : α) :
    d.use (.add id delta) =
      match d.model.add id delta with
      | .ok m => (.ok .done, d.write m)
      | .error f => (.error f, d) := by
  rw [use, work, InPlace.on_add]
  cases d.model.add id delta with
  | ok m => rfl
  | error f =>
    simp only [write_model]
    rfl

theorem uses_use (d : Desk ι α) (u : Use ι α) : d.Uses u (d.use u) := by
  cases u with
  | add id delta =>
    rw [use_add]
    cases h : d.model.add id delta with
    | ok m => exact .added h
    | error f => exact .refused h
  | get id | item id =>
    rw [use, work_of_reads (InPlace.reads_weight id)]
    exact .read rfl
  | has id =>
    rw [use, work_of_reads (InPlace.reads_contains id)]
    exact .read rfl
  | len =>
    rw [use, work_of_reads InPlace.reads_size]
    exact .read rfl
  | describe =>
    rw [use, work_of_reads InPlace.reads_describe]
    exact .read rfl
  | items => exact .copied (.inl rfl)
  | snapshot => exact .copied (.inr rfl)

theorem use_of_reading {d : Desk ι α} {u : Use ι α} {r : Except Fault (Answer α)}
    (h : u.reading? d.model = some r) : d.use u = (r, d) := by
  have huses := d.uses_use u
  generalize d.use u = result at huses
  cases huses with
  | read h' => rw [Option.some.inj (h.symm.trans h')]
  | added | refused => cases h
  | copied hcopy => rcases hcopy with rfl | rfl <;> cases h

/-- A use does to the model what its addition does, if it has made one. -/
theorem model_use (d : Desk ι α) (u : Use ι α) :
    d.model.addAll (u.addition? (d.use u).1).toList = .ok (d.use u).2.model := by
  have huses := d.uses_use u
  generalize d.use u = result at huses
  cases huses with
  | added h =>
    rw [model_write]
    exact WeightMap.addAll_cons_eq_ok_iff.2 ⟨_, h, rfl⟩
  | refused h => rfl
  | read h =>
    cases u with
    | add => cases h
    | _ => rfl
  | copied h =>
    rw [model_copied]
    rcases h with rfl | rfl <;> rfl

/-! ## Sheets that stay -/

/-- The model keeps its place, and all other sheets stay as they are. -/
structure Keeps (d d' : Desk ι α) : Prop where
  own : d'.own = d.own
  free : d.free ≤ d'.free
  sheet : ∀ place, place < d.free → place ≠ d.own → d'.sheet place = d.sheet place

omit [Key ι] [Arithmetic α] in
theorem Keeps.rfl (d : Desk ι α) : Keeps d d := ⟨Eq.refl _, Nat.le_refl _, fun _ _ _ => Eq.refl _⟩

omit [Key ι] [Arithmetic α] in
theorem Keeps.trans {d d' d'' : Desk ι α} (h : Keeps d d') (h' : Keeps d' d'') : Keeps d d'' where
  own := h'.own.trans h.own
  free := h.free.trans h'.free
  sheet place hplace hown :=
    (h'.sheet place (hplace.trans_le h.free) (h.own ▸ hown)).trans (h.sheet place hplace hown)

theorem keeps_use (d : Desk ι α) (u : Use ι α) : Keeps d (d.use u).2 := by
  have huses := d.uses_use u
  generalize d.use u = result at huses
  cases huses with
  | added h =>
    exact ⟨Eq.refl _, Nat.le_refl _, fun place _ hown => Function.update_of_ne hown _ _⟩
  | refused | read => exact .rfl d
  | copied h =>
    exact ⟨Eq.refl _, Nat.le_succ _, fun place hplace _ => Function.update_of_ne hplace.ne _ _⟩

/-! ## Any uses -/

theorem keeps_after (d : Desk ι α) (us : List (Use ι α)) : Keeps d (d.after us) := by
  induction us generalizing d with
  | nil => exact .rfl d
  | cons u us ih => exact (d.keeps_use u).trans (ih (d.use u).2)

/-- **The model after some uses** is what the additions make of the one before that have not
failed. -/
theorem addAll_additions (d : Desk ι α) (us : List (Use ι α)) :
    d.model.addAll (d.additions us) = .ok (d.after us).model := by
  induction us generalizing d with
  | nil => rfl
  | cons u us ih =>
    have huse := d.model_use u
    rw [WeightMap.addAll] at huse
    rw [additions, WeightMap.addAll, List.foldlM_append, huse, ok_bind]
    exact ih (d.use u).2

theorem prefix_keys_after (d : Desk ι α) (us : List (Use ι α)) :
    d.model.keys <+: (d.after us).model.keys := by
  rw [WeightMap.keys_addAll (d.addAll_additions us)]
  exact WeightMap.prefix_foldl_fileKey _ _

/-- A copy is handed out, and stays as it is from then on. -/
theorem copy_stays {d : Desk ι α} {u : Use ι α} (hu : u = .items ∨ u = .snapshot) :
    ∃ place, (d.use u).1 = .ok (.sheet place) ∧
      ∀ later, ((d.use u).2.after later).sheet place = d.model.entries := by
  have huse : d.use u = (.ok (.sheet d.free), d.copied) := by
    rcases hu with rfl | rfl <;> rfl
  refine ⟨d.free, by rw [huse], fun later => ?_⟩
  -- the copy has taken the place, which was free and so is not that of the model
  rw [huse, (d.copied.keeps_after later).sheet d.free (Nat.lt_succ_self _) d.own_lt_free.ne',
    sheet_copied]

/-- **A model is the tally of what has been added to it.**  Take a new model and put it to any uses,
of which some may fail.  Then it is told by the additions that have not failed (`IsTally`): each key
once, in the order and under the id in which it came up first, and with the sum of its deltas from
the left, begun at zero.

An addition does in place what it does to the model.  A use that only reads answers what the model
says.  Where nothing has been added, because the addition failed or the use is none, the model stays
as it is.  No id is ever removed or moved.  And a copy that is handed out lists the entries that
there are, and goes on to do so whatever is done later. -/
theorem tally_after [LawfulKey ι] {d : Desk ι α} (hnew : d.model = .empty)
    (us : List (Use ι α)) :
    let d' := d.after us
    WeightMap.IsTally (d.additions us) d'.model ∧
    (∀ id delta, d'.use (.add id delta) =
      match d'.model.add id delta with
      | .ok m => (.ok .done, d'.write m)
      | .error f => (.error f, d')) ∧
    (∀ u r, u.reading? d'.model = some r → d'.use u = (r, d')) ∧
    (∀ u, u.addition? (d'.use u).1 = none → (d'.use u).2.model = d'.model) ∧
    (∀ later, d'.model.keys <+: (d'.after later).model.keys) ∧
    ∀ u, u = .items ∨ u = .snapshot → ∃ place, (d'.use u).1 = .ok (.sheet place) ∧
      ∀ later, ((d'.use u).2.after later).sheet place = d'.model.entries := by
  intro d'
  have hmade : WeightMap.ofPairs (d.additions us) = .ok d'.model := by
    have hadditions := d.addAll_additions us
    rw [hnew] at hadditions
    exact hadditions
  refine ⟨WeightMap.isTally_ofPairs hmade, d'.use_add, fun u r => use_of_reading, fun u hu => ?_,
    d'.prefix_keys_after, fun u => copy_stays⟩
  have huse := d'.model_use u
  rw [hu] at huse
  exact (Except.ok.inj huse).symm

/-- A desk with a sheet for a new model, and behind it nothing. -/
def bare : Desk Value Operand := ⟨fun _ => [], 1, 0, Nat.zero_lt_one⟩

/-- Additions under the same keys in several spellings.  One is under a list, one is of a text, one
is of a number too large for a double, and one brings a weight back to zero. -/
def assorted : List (Use Value Operand) :=
  [.add (.int 1) (.real (Number.ofInt 3)),
    .add (.list []) (.int 1),
    .add (.tuple [.int 1, .text "a"]) (.foreign .text),
    .add (.text "1") (.int 1),
    .has (.text "b"),
    .add (.tuple [.bool true, .text "a"]) (.bool true),
    .add (.float (Number.ofInt 1)) (.int 2),
    .len,
    .add (.text "b") (.int (10 ^ 400)),
    .add (.text "1") (.int (-1))]

/-- Three keys come of these additions, one of them without a weight to speak of, and a copy of the
entries stays as it is when the additions are made once more. -/
theorem tally_after_assorted :
    bare.model = .empty ∧
    (bare.after assorted).model.keys.map Value.kind = [.int, .text, .tuple] ∧
    ((bare.after assorted).use (.get (.bool true))).1 =
      .ok (.weight (.real (Number.ofInt 5))) ∧
    ((bare.after assorted).use (.add (.text "b") (.int (10 ^ 400)))).1 = .error .tooLarge ∧
    ∃ place, ((bare.after assorted).use .snapshot).1 = .ok (.sheet place) ∧
      ((((bare.after assorted).use .snapshot).2.after assorted).sheet place).map (fun e => e.2) =
        [.real (Number.ofInt 5), .real (Number.ofInt 0), .real (Number.ofInt 1)] := by
  have hnew : bare.model = .empty := rfl
  obtain ⟨htally, hadd, hreading, -, -, hcopy⟩ := tally_after hnew assorted
  obtain ⟨place, hplace, hstays⟩ := hcopy .snapshot (.inr rfl)
  refine ⟨hnew, ?_, ?_, ?_, place, hplace, ?_⟩
  · rw [htally.keys]
    decide +kernel
  · rw [hreading (.get (.bool true)) _ rfl, htally.get_eq]
    decide +kernel
  · rw [hadd]
    decide +kernel
  · rw [hstays assorted]
    decide +kernel

end Desk
end PassiveAggressive
