import PassiveAggressive.Proofs.Example.Names
import PassiveAggressive.Proofs.Number.Rendering
import PassiveAggressive.Proofs.Number.Typed

/-!
# Tokens written anew

Cutting a cell into tokens and reading them forgets much: blanks around a token and between
delimiters, colons that were left out, leading zeros and foreign digits of a name that becomes a
whole number.  What is left is a normal form.  The id of a token is a whole number, or a text that
begins with no blank and holds no colon (`Token.isNormalId_of_read`), so the id, a colon and a
text of the value make a token again, and it is read as the same feature
(`Token.read_writtenToken`).

Tokens that do not hold the delimiter are joined with it and come back from the cell one by one
(`Reading.tokens_joinWith`).
-/

namespace PassiveAggressive

/-- Two doubles that count as one number: they are equal, or neither is a number. -/
def Number.Alike (v w : Float) : Prop := (v == w) = true ∨ v.isNaN = true ∧ w.isNaN = true

instance (v w : Float) : Decidable (Number.Alike v w) := inferInstanceAs (Decidable (_ ∨ _ ∧ _))

/-- The double that a value is. -/
def Value.double? : Value → Option Float
  | .float v => some v
  | _ => none

/-! ## Texts that are cut -/

namespace Text

variable {p : Char → Bool}

theorem trimBy_of_ends {cs : List Char} {c d : Char} (hhead : cs.head? = some c)
    (hlast : cs.getLast? = some d) (hc : p c = false) (hd : p d = false) : trimBy p cs = cs := by
  have hdrop : ∀ {ds : List Char} {e : Char}, ds.head? = some e → p e = false →
      ds.dropWhile p = ds := by
    intro ds e hhead he
    obtain ⟨rest, rfl⟩ := List.head?_eq_some_iff.1 hhead
    exact List.dropWhile_cons_of_neg (by simp [he])
  rw [trimBy, hdrop hhead hc, hdrop (List.head?_reverse ▸ hlast) hd, List.reverse_reverse]

theorem exists_trimmed_end (p : Char → Bool) (cs : List Char) :
    ∃ front back, cs = front ++ back ∧ (∀ c ∈ back, p c = true) ∧
      ∀ c, front.getLast? = some c → p c = false := by
  refine ⟨(cs.reverse.dropWhile p).reverse, (cs.reverse.takeWhile p).reverse, ?_, ?_, ?_⟩
  · rw [← List.reverse_append, List.takeWhile_append_dropWhile, List.reverse_reverse]
  · exact fun c hc => List.mem_takeWhile_imp (List.mem_reverse.1 hc)
  · intro c hc
    rw [List.getLast?_reverse] at hc
    have hhead := List.head?_dropWhile_not p cs.reverse
    rw [hc] at hhead
    exact hhead

theorem cutAt?_append {mark : Char} {front : List Char} (h : mark ∉ front) (back : List Char) :
    cutAt? mark (front ++ mark :: back) = some (front, back) := by
  induction front with
  | nil => simp [cutAt?]
  | cons c front ih =>
    rw [List.mem_cons, not_or] at h
    rw [List.cons_append, cutAt?, if_neg (Ne.symm h.1), ih h.2]
    rfl

/-! ### Pieces between separators -/

variable {sep : Char}

theorem splitFrom_nil (piece : List Char) : splitFrom sep [] piece [] = [piece.reverse] := by
  rw [splitFrom.eq_def]
  rfl

theorem splitFrom_cons_self (piece cs : List Char) :
    splitFrom sep [] piece (sep :: cs) = piece.reverse :: splitFrom sep [] [] cs := by
  rw [splitFrom.eq_def]
  have hafter : afterStart? [sep] (sep :: cs) = some cs := by simp [afterStart?]
  split
  · rename_i rest hrest
    rw [hafter] at hrest
    cases hrest
    rfl
  · rename_i hnone
    rw [hafter] at hnone
    cases hnone

theorem splitFrom_cons_of_ne {c : Char} (h : sep ≠ c) (piece cs : List Char) :
    splitFrom sep [] piece (c :: cs) = splitFrom sep [] (c :: piece) cs := by
  rw [splitFrom.eq_def]
  have hafter : afterStart? [sep] (c :: cs) = none := by simp [afterStart?, h]
  split
  · rename_i rest hrest
    rw [hafter] at hrest
    cases hrest
  · rfl

theorem splitFrom_append {cs : List Char} (hcs : sep ∉ cs) (piece rest : List Char) :
    splitFrom sep [] piece (cs ++ rest) = splitFrom sep [] (cs.reverse ++ piece) rest := by
  induction cs generalizing piece with
  | nil => rfl
  | cons c cs ih =>
    rw [List.mem_cons, not_or] at hcs
    rw [List.cons_append, splitFrom_cons_of_ne hcs.1, ih hcs.2]
    simp

/-- **Pieces that do not hold the separator** come back from the text they are joined to. -/
theorem splitOn_join {pieces : List (List Char)} (hsome : pieces ≠ [])
    (h : ∀ piece ∈ pieces, sep ∉ piece) : splitOn sep [] (join [sep] pieces) = pieces := by
  unfold splitOn
  induction pieces with
  | nil => exact absurd rfl hsome
  | cons piece pieces ih =>
    obtain ⟨hpiece, hpieces⟩ := List.forall_mem_cons.1 h
    cases pieces with
    | nil =>
      have hend := splitFrom_append hpiece [] []
      rw [List.append_nil] at hend
      rw [join, hend, splitFrom_nil]
      simp
    | cons next pieces =>
      rw [join, List.append_assoc, splitFrom_append hpiece, List.singleton_append,
        splitFrom_cons_self, ih (List.cons_ne_nil _ _) hpieces]
      simp

theorem toList_joinWith (sep : String) (texts : List String) :
    (joinWith sep texts).toList = join sep.toList (texts.map String.toList) := by
  induction texts with
  | nil => rfl
  | cons s texts ih =>
    cases texts with
    | nil => rfl
    | cons t texts => simp [joinWith, join, ih]

end Text

/-! ## Tokens -/

namespace Token

variable {intIds : Bool}

/-- An id in normal form: a whole number, or a text that is not empty, begins with no blank and
holds no colon. -/
def IsNormalId : Value → Prop
  | .int _ => True
  | .text name => (∃ c cs, name.toList = c :: cs ∧ Text.isBlank c = false) ∧ ':' ∉ name.toList
  | _ => False

theorem isNormalId_writtenName {s : String} (h : (writtenName s).isEmpty = false) :
    IsNormalId (.text (writtenName s)) := writtenName_facts h

theorem display_int (n : Nat) : (Value.int n).display = Number.showNat n := Number.showInt_natCast n

theorem isNormalId_of_isAllDigits {name : String} (h : Text.isAllDigits name = true) :
    IsNormalId (.text name) := by
  obtain ⟨hempty, hlike⟩ := Bool.and_eq_true_iff.1 h
  have hlike := List.all_eq_true.1 hlike
  obtain ⟨c, cs, hcons⟩ := List.exists_cons_of_ne_nil
    (show name.toList ≠ [] by simpa using hempty)
  refine ⟨⟨c, cs, hcons, Text.isBlank_of_isDigitLike (hlike c (by simp [hcons]))⟩, fun hcolon => ?_⟩
  exact absurd (hlike ':' hcolon) (by decide +kernel)

/-- **The id of a name is in normal form**, and its text is read as the id. -/
theorem isNormalId_of_readName {name : String} (hname : IsNormalId (.text name)) {id : Value}
    (h : readName intIds name = .ok id) :
    IsNormalId id ∧ IsNormalId (.text id.display) ∧ readName intIds id.display = .ok id := by
  have hresult := h
  unfold readName at hresult
  split at hresult
  · rename_i hdigits
    split at hresult
    · rename_i n hn
      cases hresult
      have hall := Number.isAllDigits_showNat n
      refine ⟨trivial, ?_, ?_⟩
      · rw [display_int]
        exact isNormalId_of_isAllDigits hall
      · rw [display_int, readName, (Bool.and_eq_true_iff.1 hdigits).1, hall,
          Number.natural_showNat (Number.lt_of_natural hn)]
        rfl
    · cases hresult
  · cases hresult
    exact ⟨hname, hname, h⟩

/-- **The id of a token is in normal form.** -/
theorem isNormalId_of_read {s : String} {f : Feature Value Value}
    (h : read intIds (.text s) = .ok f) : IsNormalId f.id := by
  obtain ⟨hempty, hname, -⟩ := readName_of_read h
  exact (isNormalId_of_readName (isNormalId_writtenName hempty) hname).1

/-- A token anew: an id, a colon, and a text of the value. -/
def writtenToken (id : Value) (value : String) : String := id.display ++ ":" ++ value

/-- What is left of a token that has been written anew when the blanks are taken off its ends. -/
theorem stripChars_append_colon {name front back : List Char} {c : Char} (cs : List Char)
    (hname : name = c :: cs) (hc : Text.isBlank c = false)
    (hback : ∀ c ∈ back, Text.isBlank c = true)
    (hend : ∀ c, front.getLast? = some c → Text.isBlank c = false) :
    Text.stripChars (name ++ ':' :: (front ++ back)) = name ++ ':' :: front := by
  have hsplit : name ++ ':' :: (front ++ back) = (name ++ ':' :: front) ++ back := by simp
  rw [hsplit, Text.stripChars, Text.trimBy_append_right hback]
  obtain ⟨d, hd, hlast⟩ : ∃ d, Text.isBlank d = false ∧ (':' :: front).getLast? = some d := by
    cases hfront : front.getLast? with
    | none =>
      rw [List.getLast?_eq_none_iff.1 hfront]
      exact ⟨':', by decide +kernel, rfl⟩
    | some d => exact ⟨d, hend d hfront, by rw [List.getLast?_cons, hfront]; rfl⟩
  refine Text.trimBy_of_ends (c := c) (d := d) ?_ ?_ hc hd
  · rw [hname]
    rfl
  · rw [List.getLast?_append, hlast]
    rfl

/-- **A token that has been written anew** is read as the same id with the value of the text. -/
theorem read_writtenToken {s : String} {f : Feature Value Value}
    (h : read intIds (.text s) = .ok f) {value : String} {v : Float}
    (hvalue : Number.float? value = some v) :
    read intIds (.text (writtenToken f.id value)) = .ok ⟨f.id, .float v⟩ := by
  obtain ⟨hempty, hname, -⟩ := readName_of_read h
  obtain ⟨-, ⟨⟨c, cs, hcons, hc⟩, hcolon⟩, hid⟩ :=
    isNormalId_of_readName (isNormalId_writtenName hempty) hname
  obtain ⟨front, back, hfrontback, hback, hend⟩ :=
    Text.exists_trimmed_end Text.isBlank value.toList
  have hcut : cutName (Text.stripChars (writtenToken f.id value).toList) =
      (f.id.display, some (String.ofList front)) := by
    have htext : (writtenToken f.id value).toList =
        f.id.display.toList ++ ':' :: (front ++ back) := by
      simp [writtenToken, ← hfrontback]
    rw [htext, stripChars_append_colon cs hcons hc hback hend, cutName, Text.cutAt?_append hcolon]
    simp
  rw [read_text, writtenName, writtenValue?, hcut]
  simp only [hid, Number.float?_dropBlanks hvalue hfrontback hback]
  have hsome : f.id.display.isEmpty = false := by
    rw [← Bool.not_eq_true, String.isEmpty_iff, ← String.toList_eq_nil_iff, hcons]
    exact List.cons_ne_nil _ _
  rw [hsome]
  rfl

/-! ### Lists of tokens -/

/-- The tokens of some features anew, with a text for the value of each. -/
def writtenAll (x : List (Feature Value Value)) (values : List String) : List String :=
  x.zipWith (fun f value => writtenToken f.id value) values

/-- The text is read as a number that counts as the value of the feature. -/
def Spells (f : Feature Value Value) (value : String) : Prop :=
  ∃ v ∈ f.value.double?, ∃ w ∈ Number.float? value, Number.Alike v w

instance (f : Feature Value Value) (value : String) : Decidable (Spells f value) :=
  inferInstanceAs (Decidable (∃ v ∈ f.value.double?, ∃ w ∈ Number.float? value, Number.Alike v w))

/-- The text is read as the very value of the feature. -/
def SpellsExactly (f : Feature Value Value) (value : String) : Prop :=
  ∃ v ∈ Number.float? value, f.value = .float v

/-- The features have one id, and their values count as one number. -/
def Agree (f g : Feature Value Value) : Prop :=
  f.id = g.id ∧ ∃ v ∈ f.value.double?, ∃ w ∈ g.value.double?, Number.Alike v w

/-- A token that can be read does not consist of blanks. -/
theorem stripChars_ne_nil_of_read {s : String} {f : Feature Value Value}
    (h : read intIds (.text s) = .ok f) : Text.stripChars s.toList ≠ [] := by
  intro hnil
  obtain ⟨hempty, -, -⟩ := readName_of_read h
  rw [writtenName, hnil] at hempty
  exact absurd hempty (by decide)

/-- The tokens that have been written anew are read one by one. -/
theorem exists_forall₂_read {x : List (Feature Value Value)} {values : List String}
    (hread : ∀ f ∈ x, ∃ s, read intIds (.text s) = .ok f)
    (hvalues : List.Forall₂ Spells x values) :
    ∃ y, List.Forall₂ (fun s g => read intIds (.text s) = .ok g) (writtenAll x values) y ∧
      List.Forall₂ Agree x y ∧ (List.Forall₂ SpellsExactly x values → y = x) := by
  induction hvalues with
  | nil => exact ⟨[], .nil, .nil, fun _ => rfl⟩
  | @cons f value x values hfirst _ ih =>
    obtain ⟨⟨s, hs⟩, hrest⟩ := List.forall_mem_cons.1 hread
    obtain ⟨v, hv, w, hw, halike⟩ := hfirst
    obtain ⟨y, hy, hagree, hexact⟩ := ih hrest
    refine ⟨⟨f.id, .float w⟩ :: y, .cons (read_writtenToken hs hw) hy,
      .cons ⟨rfl, v, hv, w, rfl, halike⟩ hagree, fun h => ?_⟩
    obtain ⟨⟨u, hu, hvalue⟩, hexactly⟩ := List.forall₂_cons.1 h
    rw [hexact hexactly]
    obtain rfl : w = u := Option.some.inj (hw.symm.trans hu)
    rw [← hvalue]

end Token

/-! ## Cells -/

namespace Reading

variable {intIds : Bool}

/-- **Tokens that do not hold the delimiter** are found again in the text they are joined to. -/
theorem tokens_joinWith (delimiter : Char) {texts : List String}
    (hfree : ∀ s ∈ texts, delimiter ∉ s.toList)
    (hblank : ∀ s ∈ texts, Text.stripChars s.toList ≠ []) :
    tokens (String.singleton delimiter) (.text (Text.joinWith (String.singleton delimiter) texts)) =
      .ok (texts.map .text) := by
  show cutTokens _ _ = _
  rw [Text.toList_joinWith, String.toList_singleton, cutTokens]
  congr 1
  by_cases hnone : texts = []
  · -- the empty text is one blank piece
    subst hnone
    simp [Text.join, Text.splitOn, Text.splitFrom_nil, Text.stripChars, Text.trimBy]
  · rw [Text.splitOn_join (by simpa using hnone) (by simpa using hfree), List.filter_eq_self.2]
    · simp
    · intro piece hpiece
      obtain ⟨s, hs, rfl⟩ := List.mem_map.1 hpiece
      simpa using hblank s hs

/-- The features of a cell are read from texts. -/
theorem exists_read_of_features {delimiter : Char} {cell : String}
    {x : List (Feature Value Value)}
    (h : features intIds (String.singleton delimiter) (.text cell) = .ok x) :
    ∀ f ∈ x, ∃ s, Token.read intIds (.text s) = .ok f := by
  obtain ⟨ts, hts, hread⟩ := bind_eq_ok_iff.1 h
  have hdelimiter : String.singleton delimiter ≠ "" := by simp
  have hcell : (Value.text cell).HoldsTexts := trivial
  obtain ⟨ts', hts', htexts⟩ := exists_tokens hdelimiter hcell
  rw [hts] at hts'
  cases hts'
  intro f hf
  cases hall : Token.readAll intIds ts with
  | error e =>
    rw [hall] at hread
    cases hread
  | ok features =>
    rw [hall] at hread
    cases hread
    obtain ⟨t, ht, hread⟩ := exists_of_mem_mapM hall hf
    obtain ⟨s, rfl⟩ := htexts t ht
    exact ⟨s, hread⟩

/-- **What is read from a cell is a normal form.**  The id of a token is in normal form, and
features that have been read from a cell come back from the tokens that are written for them,
unless one of these holds the delimiter: the same ids in the same order, with values that count
as the same numbers, and the very same features if the texts give the values exactly. -/
theorem features_writtenAll (intIds : Bool) :
    (∀ s f, Token.read intIds (.text s) = .ok f → Token.IsNormalId f.id) ∧
      ∀ (delimiter : Char) (cell : String) (x : List (Feature Value Value)) (values : List String),
        features intIds (String.singleton delimiter) (.text cell) = .ok x →
        List.Forall₂ Token.Spells x values →
        (∀ s ∈ Token.writtenAll x values, delimiter ∉ s.toList) →
        ∃ y, features intIds (String.singleton delimiter)
            (.text (Text.joinWith (String.singleton delimiter) (Token.writtenAll x values))) = .ok y ∧
          List.Forall₂ Token.Agree x y ∧
          (List.Forall₂ Token.SpellsExactly x values → y = x) := by
  refine ⟨fun s f => Token.isNormalId_of_read, fun delimiter cell x values h hvalues hfree => ?_⟩
  have hread := exists_read_of_features h
  obtain ⟨y, hy, hagree, hexact⟩ := Token.exists_forall₂_read hread hvalues
  refine ⟨y, ?_, hagree, hexact⟩
  have hblank : ∀ s ∈ Token.writtenAll x values, Text.stripChars s.toList ≠ [] := by
    intro s hs
    obtain ⟨g, -, hg⟩ := exists_mem_of_forall₂ hy s hs
    exact Token.stripChars_ne_nil_of_read hg
  have hall : Token.readAll intIds ((Token.writtenAll x values).map .text) = .ok y :=
    mapM_eq_ok_iff.2 (List.forall₂_map_left_iff.2 hy)
  rw [features, tokens_joinWith delimiter hfree hblank, ok_bind, hall]
  rfl

/-- A cell with a blank before a colon, an empty piece, digits of another script, a value that is
no number, and a negative zero. -/
def loose : String := "a b :1.50,, ٠٠٧ ,nan:nan,12:-0.0 "

theorem features_loose :
    ∃ x y, features true (String.singleton ',') (.text loose) = .ok x ∧
      features true (String.singleton ',') (.text "a b :15e-1,7:1,nan:NaN,12:0") = .ok y ∧
      List.Forall₂ Token.Agree x y := by
  have hloose : ∃ x, features true (String.singleton ',') (.text loose) = .ok x ∧
      List.Forall₂ Token.Spells x ["15e-1", "1", "NaN", "0"] ∧
      (∀ s ∈ Token.writtenAll x ["15e-1", "1", "NaN", "0"], ',' ∉ s.toList) ∧
      Text.joinWith (String.singleton ',') (Token.writtenAll x ["15e-1", "1", "NaN", "0"]) =
        "a b :15e-1,7:1,nan:NaN,12:0" := by decide +kernel
  obtain ⟨x, hx, hvalues, hfree, htext⟩ := hloose
  obtain ⟨y, hy, hagree, -⟩ := (features_writtenAll true).2 ',' loose x _ hx hvalues hfree
  exact ⟨x, y, hx, htext ▸ hy, hagree⟩

end Reading
end PassiveAggressive
