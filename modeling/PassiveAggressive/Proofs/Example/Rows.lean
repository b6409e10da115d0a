import PassiveAggressive.Example.Reading
import PassiveAggressive.Proofs.Example.Acceptance
import PassiveAggressive.Proofs.Example.Traversal
import PassiveAggressive.Proofs.Number.Digits

/-!
# What a row of texts is read as

The tokens in a cell are texts, unless the cell holds data that are none.  A text that can be
read has the id of a name and a double for its value, so the example in such a row is found
in order or is found wrong, and nothing faults.  Two statements say what a row comes to.

* `row_eq_ok_iff`: a row gives an example exactly if its tokens can all be read, there is at
  least one of them, no id occurs twice, and all numbers are finite (`Gives`).
* `of_row_eq_error`: a row that gives none is to blame for it, or a token of it has a name that
  should have been a whole number and is none.

The second kind of row is there only where names made of digits become whole numbers.  Which
tokens are of this kind can be told from their characters (`Miscounted`).
-/

namespace PassiveAggressive

/-- A cell whose tokens are texts: a text, or a sequence of texts, or what has no tokens. -/
def Value.HoldsTexts : Value → Prop
  | .list items | .tuple items | .array items => ∀ token ∈ items, ∃ s, token = .text s
  | .entry _ _ => False
  | _ => True

/-! ## Tokens -/

namespace Token

/-- The name that a text begins with, up to the first colon. -/
def writtenName (s : String) : String := (cutName (Text.stripChars s.toList)).1

/-- The value that is written behind the colon, one if there is no colon, nothing if it cannot be
read. -/
def writtenValue? (s : String) : Option Float :=
  match (cutName (Text.stripChars s.toList)).2 with
  | some value => Number.float? value
  | none => some unitValue

/-- What a text is read as. -/
theorem read_text (intIds : Bool) (s : String) :
    read intIds (.text s) =
      if (writtenName s).isEmpty then .error (.nameless (.text s))
      else
        match writtenValue? s with
        | none => .error (.unreadable (.text s))
        | some x => (readName intIds (writtenName s)).map fun id => ⟨id, .float x⟩ := by
  show readText intIds (.text s) s = _
  unfold readText writtenName writtenValue?
  rcases cutName (Text.stripChars s.toList) with ⟨name, value⟩
  simp only
  split
  · rfl
  · cases value with
    | none =>
      simp only [ok_bind]
      cases readName intIds name <;> rfl
    | some value =>
      have hread : readValue (.text s) (.text value) =
          match Number.float? value with
          | none => .error (.unreadable (.text s))
          | some x => .ok (.float x) := by
        have hfloat : (Value.text value).toFloat? = .ok (Number.float? value) := rfl
        rw [readValue, hfloat]
        cases Number.float? value <;> rfl
      simp only [hread]
      cases Number.float? value with
      | none => rfl
      | some x =>
        simp only [ok_bind]
        cases readName intIds name <;> rfl

/-- The name is made of digit-like characters and is no whole number, because one of them is no
decimal digit or because there are too many; and the value is one that can be read. -/
structure Miscounted (s : String) : Prop where
  digits : Text.isAllDigits (writtenName s) = true
  value : (writtenValue? s).isSome = true
  refused : (∃ c ∈ (writtenName s).toList, Text.isDecimal c = false) ∨
    Number.maxDigits < (writtenName s).toList.length

theorem readName_cases {intIds : Bool} {name : String} {r : Except TokenFault Value}
    (h : readName intIds name = r) :
    r = .ok (.text name) ∨ (∃ n : Nat, r = .ok (.int n)) ∨
      intIds = true ∧ ∃ e, r = .error (.badInteger e) := by
  subst h
  unfold readName
  split
  · rename_i hdigits
    cases Number.natural name with
    | ok n => exact .inr (.inl ⟨n, rfl⟩)
    | error e => exact .inr (.inr ⟨(Bool.and_eq_true_iff.1 hdigits).1, e, rfl⟩)
  · exact .inl rfl

/-- What a token is read as comes from its name. -/
theorem readName_of_read {intIds : Bool} {s : String} {f : Feature Value Value}
    (h : read intIds (.text s) = .ok f) :
    (writtenName s).isEmpty = false ∧ readName intIds (writtenName s) = .ok f.id ∧
      ∃ v, f.value = .float v := by
  rw [read_text] at h
  split at h
  · cases h
  · rename_i hempty
    split at h
    · cases h
    · rename_i v _
      cases hname : readName intIds (writtenName s) with
      | error e =>
        rw [hname] at h
        cases h
      | ok id =>
        rw [hname] at h
        cases h
        exact ⟨Bool.eq_false_iff.2 hempty, rfl, v, rfl⟩

theorem of_read_text {intIds : Bool} {s : String} {f : Feature Value Value}
    (h : read intIds (.text s) = .ok f) :
    Key.check f.id = .ok () ∧ ∃ x : Float, f.value = .float x := by
  obtain ⟨-, hid, hvalue⟩ := readName_of_read h
  refine ⟨?_, hvalue⟩
  rcases readName_cases hid with hid | ⟨n, hid⟩ | ⟨-, e, hid⟩
  · rw [Except.ok.inj hid]
    rfl
  · rw [Except.ok.inj hid]
    rfl
  · cases hid

/-- A text that cannot be read is complained about, unless it should have been a whole number. -/
theorem of_read_text_eq_error {intIds : Bool} {s : String} {e : TokenFault}
    (h : read intIds (.text s) = .error e) :
    e.isComplaint = true ∨ intIds = true ∧ ∃ i, e = .badInteger i := by
  rw [read_text] at h
  split at h
  · cases h
    exact .inl rfl
  · split at h
    · cases h
      exact .inl rfl
    · rcases readName_cases (Eq.refl (readName intIds (writtenName s))) with
        hid | ⟨n, hid⟩ | ⟨hintIds, i, hid⟩
      · rw [hid] at h
        cases h
      · rw [hid] at h
        cases h
      · rw [hid] at h
        cases h
        exact .inr ⟨hintIds, i, rfl⟩

/-- **A miscounted token** is the one that should have been a whole number and is none. -/
theorem miscounted_iff {s : String} :
    Miscounted s ↔ ∃ i, read true (.text s) = .error (.badInteger i) := by
  have hrefused : Text.isAllDigits (writtenName s) = true →
      ((∃ i, Number.natural (writtenName s) = .error i) ↔
        (∃ c ∈ (writtenName s).toList, Text.isDecimal c = false) ∨
          Number.maxDigits < (writtenName s).toList.length) := by
    intro hdigits
    have hread := Number.exists_natural_eq_ok_iff hdigits
    have herror : (∃ i, Number.natural (writtenName s) = .error i) ↔
        ¬ ∃ n, Number.natural (writtenName s) = .ok n := by
      cases Number.natural (writtenName s) with
      | ok n => simp
      | error i => simp
    rw [herror, hread, not_and_or, not_le]
    simp only [not_forall, Bool.not_eq_true, exists_prop]
  constructor
  · rintro ⟨hdigits, hvalue, hname⟩
    obtain ⟨x, hx⟩ := Option.isSome_iff_exists.1 hvalue
    obtain ⟨i, hi⟩ := (hrefused hdigits).2 hname
    have hempty : (writtenName s).isEmpty = false := by
      simpa using (Bool.and_eq_true_iff.1 hdigits).1
    refine ⟨i, ?_⟩
    rw [read_text, hempty, if_neg Bool.false_ne_true, hx, readName, hdigits, hi]
    rfl
  · rintro ⟨i, h⟩
    rw [read_text] at h
    split at h
    · cases h
    · split at h
      · cases h
      · rename_i x hx
        unfold readName at h
        split at h
        · rename_i hdigits
          rw [Bool.true_and] at hdigits
          refine ⟨hdigits, by rw [hx]; rfl, (hrefused hdigits).1 ?_⟩
          cases hname : Number.natural (writtenName s) with
          | ok n =>
            rw [hname] at h
            cases h
          | error i => exact ⟨i, rfl⟩
        · cases h

end Token

/-! ## Rows -/

namespace Reading

/-- The tokens of a cell that holds texts are texts. -/
theorem exists_tokens {delimiter : String} (hdelimiter : delimiter ≠ "") {cell : Value}
    (hcell : cell.HoldsTexts) :
    ∃ ts, tokens delimiter cell = .ok ts ∧ ∀ t ∈ ts, ∃ s, t = .text s := by
  have hcut : ∀ cs, ∃ ts, cutTokens delimiter.toList cs = .ok ts ∧ ∀ t ∈ ts, ∃ s, t = .text s := by
    intro cs
    obtain ⟨d, ds, hd⟩ := List.exists_cons_of_ne_nil (mt String.toList_eq_nil_iff.1 hdelimiter)
    rw [hd]
    refine ⟨_, rfl, fun t ht => ?_⟩
    obtain ⟨piece, -, rfl⟩ := List.mem_map.1 ht
    exact ⟨_, rfl⟩
  cases cell with
  | list items | tuple items | array items => exact ⟨items, rfl, hcell⟩
  | entry id value => exact hcell.elim
  | text s => exact hcut s.toList
  | variant v => exact hcut v.name.toList
  | null | bool | int | float | dict | moment | set => exact ⟨[], rfl, nofun⟩

/-- The row gives the example: its tokens can be read, a feature each, and there is at least one;
no id occurs twice; the values and the target are finite. -/
structure Gives (layout : TableLayout) (cell : Value) (target : Float) (x : ReadExample) :
    Prop where
  read : ∃ ts, tokens layout.delimiter cell = .ok ts ∧
    List.Forall₂ (fun t f => Token.read layout.intIds t = .ok f) ts x.1
  nonempty : x.1 ≠ []
  distinct : DistinctIds x.1
  values : ∀ f ∈ x.1, ∃ v : Float, f.value = .float v ∧ v.isFinite = true
  target_eq : x.2 = target
  target_finite : target.isFinite = true

theorem distinctIds_operands {x : List (Feature Value Value)} :
    DistinctIds (operands x) ↔ DistinctIds x := by
  unfold DistinctIds operands
  rw [List.pairwise_map]

variable {layout : TableLayout} {cell : Value} {target : Float}

theorem of_readAll {ts : List Value} (hts : ∀ t ∈ ts, ∃ s, t = .text s)
    {x : List (Feature Value Value)} (h : Token.readAll layout.intIds ts = .ok x) :
    ∀ f ∈ x, Key.check f.id = .ok () ∧ ∃ v : Float, f.value = .float v := by
  intro f hf
  obtain ⟨t, ht, hread⟩ := exists_of_mem_mapM h hf
  obtain ⟨s, rfl⟩ := hts t ht
  exact Token.of_read_text hread

/-- The tokens are read, and the example is checked. -/
theorem row_of_tokens {ts : List Value} (hts : tokens layout.delimiter cell = .ok ts) :
    row layout cell target =
      match Token.readAll layout.intIds ts with
      | .error e => .error (.token e)
      | .ok x =>
        match Example.check (operands x) (.real target) with
        | .error e => .error (.invalid e)
        | .ok () => .ok (x, target) := by
  unfold row features
  rw [hts, ok_bind]
  cases Token.readAll layout.intIds ts with
  | error e => rfl
  | ok x =>
    show ((Example.check (operands x) (.real target)).mapError RowFault.invalid >>= fun _ =>
      .ok (x, target)) = _
    simp only
    cases Example.check (operands x) (.real target) <;> rfl

/-- The check of an example that has been read from texts. -/
theorem check_operands_eq_ok_iff {x : List (Feature Value Value)}
    (hx : ∀ f ∈ x, Key.check f.id = .ok () ∧ ∃ v : Float, f.value = .float v) :
    Example.check (operands x) (.real target) = .ok () ↔
      x ≠ [] ∧ DistinctIds x ∧ (∀ f ∈ x, ∃ v : Float, f.value = .float v ∧ v.isFinite = true) ∧
        target.isFinite = true := by
  have hfeatures : (∀ f ∈ operands x, Key.check f.id = .ok () ∧
      Arithmetic.isFinite f.value = .ok true) ↔
        ∀ f ∈ x, ∃ v : Float, f.value = .float v ∧ v.isFinite = true := by
    unfold operands
    rw [List.forall_mem_map]
    refine forall₂_congr fun f hf => ?_
    obtain ⟨hkey, v, hv⟩ := hx f hf
    rw [hv]
    constructor
    · rintro ⟨-, hfinite⟩
      exact ⟨v, rfl, Except.ok.inj hfinite⟩
    · rintro ⟨w, hw, hfinite⟩
      cases hw
      exact ⟨hkey, congrArg Except.ok hfinite⟩
  have htarget : Arithmetic.isFinite (.real target : Scalar Float) = .ok true ↔
      target.isFinite = true :=
    ⟨Except.ok.inj, congrArg Except.ok⟩
  have hempty : operands x ≠ [] ↔ x ≠ [] := List.map_eq_nil_iff.not
  rw [Example.check_eq_ok_iff, hfeatures, htarget, hempty, distinctIds_operands]
  tauto

/-- **Which rows give an example**, and which example. -/
theorem row_eq_ok_iff (hdelimiter : layout.delimiter ≠ "") (hcell : cell.HoldsTexts)
    {x : ReadExample} : row layout cell target = .ok x ↔ Gives layout cell target x := by
  obtain ⟨ts, hts, htexts⟩ := exists_tokens hdelimiter hcell
  rw [row_of_tokens hts]
  constructor
  · intro h
    split at h
    · cases h
    · rename_i x' hread
      split at h
      · cases h
      · rename_i hcheck
        cases h
        obtain ⟨hne, hdistinct, hvalues, htarget⟩ :=
          (check_operands_eq_ok_iff (of_readAll htexts hread)).1 hcheck
        exact ⟨⟨ts, hts, mapM_eq_ok_iff.1 hread⟩, hne, hdistinct, hvalues, rfl, htarget⟩
  · rintro ⟨⟨ts', hts', hread⟩, hne, hdistinct, hvalues, htarget_eq, htarget⟩
    obtain rfl : ts = ts' := Except.ok.inj (hts.symm.trans hts')
    obtain ⟨x, y⟩ := x
    obtain rfl : y = target := htarget_eq
    have hread : Token.readAll layout.intIds ts = .ok x := mapM_eq_ok_iff.2 hread
    have hcheck := (check_operands_eq_ok_iff (of_readAll htexts hread)).2
      ⟨hne, hdistinct, hvalues, htarget⟩
    simp only [hread, hcheck]

/-- **A row that gives no example** is to blame for it, unless one of its names should have been a
whole number and is none. -/
theorem of_row_eq_error (hdelimiter : layout.delimiter ≠ "") (hcell : cell.HoldsTexts)
    {e : RowFault} (h : row layout cell target = .error e) :
    e.isComplaint = true ∨ layout.intIds = true ∧ ∃ i, e = .token (.badInteger i) := by
  obtain ⟨ts, hts, htexts⟩ := exists_tokens hdelimiter hcell
  rw [row_of_tokens hts] at h
  split at h
  · rename_i e' hread
    cases h
    obtain ⟨before, t, after, rfl, -, ht⟩ := mapM_eq_error_iff.1 hread
    obtain ⟨s, rfl⟩ := htexts t (List.mem_append_right _ List.mem_cons_self)
    rcases Token.of_read_text_eq_error ht with hcomplaint | ⟨hintIds, i, rfl⟩
    · exact .inl hcomplaint
    · exact .inr ⟨hintIds, i, rfl⟩
  · rename_i x hread
    split at h
    · rename_i e' hcheck
      cases h
      left
      have hx := of_readAll htexts hread
      have hkeys : ∀ f ∈ operands x, Key.check f.id = .ok () :=
        List.forall_mem_map.2 fun f hf => (hx f hf).1
      have hvalues : ∀ f ∈ operands x, ∃ b, Arithmetic.isFinite f.value = .ok b := by
        refine List.forall_mem_map.2 fun f hf => ?_
        obtain ⟨-, v, hv⟩ := hx f hf
        rw [hv]
        exact ⟨v.isFinite, rfl⟩
      have hfault := Example.ne_fault_of_check hkeys hvalues ⟨target.isFinite, rfl⟩ hcheck
      cases e' with
      | fault f => exact absurd rfl (hfault f)
      | noFeatures | duplicate | valueNotFinite | targetNotFinite => rfl
    · cases h

end Reading
end PassiveAggressive
