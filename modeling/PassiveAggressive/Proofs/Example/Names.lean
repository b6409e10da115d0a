import PassiveAggressive.Example.File
import PassiveAggressive.Proofs.Csv.Columns
import PassiveAggressive.Proofs.Example.Rows

/-!
# The names in a file of examples

Every id of an example that has been read from a file is the id of a name: a piece of a
cell, up to a colon, without blanks in front (`hasName_of_load`).
-/

namespace PassiveAggressive

/-- A text that a token can have for its name: it begins with a character that is not blank. -/
def IsName (name : String) : Prop := ∃ c cs, name.toList = c :: cs ∧ Text.isBlank c = false

/-- The id is what a name is read as. -/
def HasName (intIds : Bool) (id : Value) : Prop :=
  ∃ name, IsName name ∧ Token.readName intIds name = .ok id

/-- The id of a name is the name, or the whole number that it stands for. -/
theorem HasName.cases {intIds : Bool} {id : Value} (h : HasName intIds id) :
    (∃ name, IsName name ∧ Token.readName intIds name = .ok id ∧ id = .text name) ∨
      ∃ n : Nat, intIds = true ∧ n < 10 ^ Number.maxDigits ∧ id = .int n := by
  obtain ⟨name, hname, hread⟩ := h
  have hresult := hread
  unfold Token.readName at hresult
  split at hresult
  · rename_i hdigits
    split at hresult
    · rename_i n hn
      cases hresult
      exact .inr ⟨n, (Bool.and_eq_true_iff.1 hdigits).1, Number.lt_of_natural hn, rfl⟩
    · cases hresult
  · cases hresult
    exact .inl ⟨name, hname, hread, rfl⟩

/-! ## Cells of a column of texts -/

namespace Csv

/-- A cell of a column of texts: it is missing, or a text. -/
def IsTextCell (v : Value) : Prop := v = .null ∨ ∃ s, v = .text s

theorem isTextCell_textColumn (cells : List String) : ∀ v ∈ textColumn cells, IsTextCell v := by
  intro v hv
  obtain ⟨s, -, rfl⟩ := List.mem_map.1 hv
  split
  · exact .inl rfl
  · exact .inr ⟨s, rfl⟩

theorem isTextCell_columns {textName : String} {rows : List (List String)} (offset : Nat)
    (names : List (String × String)) {cells : List Value}
    (h : (columns textName rows offset names).lookup textName = some cells) :
    ∀ v ∈ cells, IsTextCell v := by
  induction names generalizing offset with
  | nil => cases h
  | cons name names ih =>
    obtain ⟨given, name⟩ := name
    rw [columns, List.lookup_cons] at h
    split at h
    · rename_i hname
      obtain rfl : textName = name := by simpa using hname
      rw [decide_eq_true (rfl : textName = textName), Bool.or_true, if_pos rfl] at h
      obtain rfl := Option.some.inj h
      exact isTextCell_textColumn _
    · exact ih (offset + 1) h

/-- **The column of texts** that is read from a file holds texts. -/
theorem isTextCell_read {textName text : String} {t : Table}
    (h : Csv.read textName text = .ok t) {cells : List Value}
    (hcells : t.column? textName = some cells) : ∀ v ∈ cells, IsTextCell v := by
  obtain ⟨header, rs, -, -, rfl⟩ := read_eq_ok_iff.1 h
  exact isTextCell_columns _ _ hcells

end Csv

/-! ## Tokens of a cell -/

namespace Text

theorem head_trimBy {p : Char → Bool} {cs rest : List Char} {c : Char}
    (h : trimBy p cs = c :: rest) : p c = false := by
  -- what is left at the end is a beginning of what is left at the front
  have hfront : c :: rest <+: cs.dropWhile p := by
    rw [← h, trimBy, ← List.reverse_suffix, List.reverse_reverse]
    exact List.dropWhile_suffix p
  obtain ⟨tail, htail⟩ := hfront
  have hhead := List.head?_dropWhile_not p cs
  rw [← htail] at hhead
  exact hhead

end Text

namespace Token

theorem exists_cutName_append (cs : List Char) :
    ∃ rest, cs = (cutName cs).1.toList ++ rest ∧ ':' ∉ (cutName cs).1.toList := by
  unfold cutName
  split
  · rename_i name value hcut
    obtain ⟨heq, hcolon⟩ := Text.cutAt?_eq_some hcut
    exact ⟨':' :: value, by rw [String.toList_ofList]; exact heq, by simpa using hcolon⟩
  · rename_i hnone
    exact ⟨[], by simp, by simpa using Text.cutAt?_eq_none_iff.1 hnone⟩

/-- The name of a token, unless it is empty, begins with a character that is not blank, and holds
no colon. -/
theorem writtenName_facts {s : String} (h : (writtenName s).isEmpty = false) :
    IsName (writtenName s) ∧ ':' ∉ (writtenName s).toList := by
  obtain ⟨rest, hrest, hcolon⟩ := exists_cutName_append (Text.stripChars s.toList)
  have hne : (writtenName s).toList ≠ [] := by
    rw [Ne, String.toList_eq_nil_iff, ← String.isEmpty_iff, h]
    exact Bool.false_ne_true
  obtain ⟨c, cs, hcons⟩ := List.exists_cons_of_ne_nil hne
  refine ⟨⟨c, cs, hcons, ?_⟩, hcolon⟩
  change Text.stripChars s.toList = (writtenName s).toList ++ rest at hrest
  rw [hcons, List.cons_append] at hrest
  exact Text.head_trimBy hrest

theorem hasName_of_read_text {intIds : Bool} {s : String} {f : Feature Value Value}
    (h : read intIds (.text s) = .ok f) : HasName intIds f.id := by
  obtain ⟨hempty, hid, -⟩ := readName_of_read h
  exact ⟨writtenName s, (writtenName_facts hempty).1, hid⟩

end Token

namespace Reading

/-- The tokens of a cell of texts are texts. -/
theorem of_tokens {delimiter : String} {cell : Value} (hcell : Csv.IsTextCell cell)
    {ts : List Value} (h : tokens delimiter cell = .ok ts) : ∀ token ∈ ts, ∃ s, token = .text s := by
  rcases hcell with rfl | ⟨s, rfl⟩
  · cases h
    exact nofun
  · change cutTokens delimiter.toList s.toList = .ok ts at h
    unfold cutTokens at h
    split at h
    · cases h
    · rename_i d ds hdelimiter
      cases h
      intro token htoken
      obtain ⟨piece, -, rfl⟩ := List.mem_map.1 htoken
      exact ⟨_, rfl⟩

/-- The ids in a row are ids of names. -/
theorem hasName_of_row {layout : TableLayout} {cell : Value} (hcell : Csv.IsTextCell cell)
    {target : Float} {x : ReadExample} (h : row layout cell target = .ok x) :
    ∀ f ∈ x.1, HasName layout.intIds f.id := by
  obtain ⟨_, hfeatures, -⟩ := bind_eq_ok_iff.1 h
  obtain ⟨ts, hts, -⟩ := bind_eq_ok_iff.1 hfeatures
  rw [row_of_tokens hts] at h
  split at h
  · cases h
  rename_i features hread
  split at h
  · cases h
  cases h
  intro f hf
  obtain ⟨token, htoken, hread⟩ := exists_of_mem_mapM hread hf
  obtain ⟨s, rfl⟩ := of_tokens hcell hts token htoken
  exact Token.hasName_of_read_text hread

/-- Every example that is read comes from a row. -/
theorem exists_row_of_mem {layout : TableLayout} {index dropped : Nat}
    {cells : List (Value × Float)} {x : ReadExample}
    (h : x ∈ (rows layout index dropped cells).examples) :
    ∃ p ∈ cells, row layout p.1 p.2 = .ok x := by
  induction cells generalizing index dropped with
  | nil => exact absurd h List.not_mem_nil
  | cons p cells ih =>
    obtain ⟨cell, target⟩ := p
    have hrest : ∀ {index dropped}, x ∈ (rows layout index dropped cells).examples →
        ∃ p ∈ (cell, target) :: cells, row layout p.1 p.2 = .ok x := fun h =>
      (ih h).imp fun p hp => ⟨List.mem_cons_of_mem _ hp.1, hp.2⟩
    rw [rows] at h
    split at h
    · rename_i x' hx'
      rcases List.mem_cons.1 h with rfl | h
      · exact ⟨(cell, target), List.mem_cons_self, hx'⟩
      · exact hrest h
    · split at h
      · exact hrest h
      · exact absurd h List.not_mem_nil

/-- The ids of what is read from a table are ids of names. -/
theorem hasName_of_ofTable {layout : TableLayout} {text : String} {t : Table}
    (ht : Csv.read layout.featuresColumn text = .ok t) :
    ∀ e ∈ (ofTable layout t).examples, ∀ f ∈ e.1, HasName layout.intIds f.id := by
  intro e he
  unfold ofTable at he
  split at he
  · exact absurd he List.not_mem_nil
  · exact absurd he List.not_mem_nil
  · rename_i cells targets hcells htargets
    split at he
    · exact absurd he List.not_mem_nil
    · obtain ⟨p, hp, hrow⟩ := exists_row_of_mem he
      exact hasName_of_row (Csv.isTextCell_read ht hcells p.1 (List.of_mem_zip hp).1) hrow

end Reading

/-- **The ids of examples from a file** are ids of names. -/
theorem Examples.hasName_of_load {w : Files} {layout : TableLayout} {p : Path}
    {log : List Log.Line} {examples : List ReadExample}
    (h : load w layout p = (log, .ok examples)) :
    ∀ e ∈ examples, ∀ f ∈ e.1, HasName layout.intIds f.id := by
  unfold load at h
  split at h
  · cases h
  · split at h
    · cases h
    · rename_i text _
      unfold ofText at h
      split at h
      · cases h
      · rename_i t ht
        have hexamples : (Reading.ofTable layout t).examples = examples := by
          have h := congrArg Prod.snd h
          simp only at h
          split at h
          · cases h
          · exact Except.ok.inj h
        exact hexamples ▸ Reading.hasName_of_ofTable ht

end PassiveAggressive
