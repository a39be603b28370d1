import DesignRules.Proofs.Json.Lexing

/-!
# Reading back a written value

The second half: the tokens of a value are put together to that value, and to nothing else. The
machine that does so keeps the lists and objects that it is inside of, so a value is read in any
surroundings in the same way, and a list or an object is read one part after the other.

## Main results

* `Json.isReadAs_tokens` — the tokens of a value are read as the value, wherever it stands
* `Json.read?_render` — a written value is read back
-/

namespace DesignRules.Json

/-! ### Parts of lists and objects -/

/-- Where all names differ, each field comes after those before it. -/
theorem setField_of_nodup {before after : List (String × Json)} {field : String × Json}
    (hnodup : ((before ++ field :: after).map Prod.fst).Nodup) :
    setField before field.1 field.2 = before ++ [field] := by
  rw [List.map_append, List.map_cons, List.nodup_append] at hnodup
  obtain ⟨-, -, hdisjoint⟩ := hnodup
  have hothers : before.filter (fun other => other.1 != field.1) = before := by
    refine List.filter_eq_self.mpr fun other hother => bne_iff_ne.mpr ?_
    exact hdisjoint other.1 (List.mem_map_of_mem hother) field.1 (by simp)
  rw [setField, hothers]

/-- No value begins as a list ends. -/
theorem exists_tokens_eq_cons (v : Json) :
    ∃ first more, tokens v = first :: more ∧ first ≠ .closeList := by
  cases v <;> simp [tokens]

/-- With or without commas after it, a first part begins as it does alone. -/
theorem exists_intercalate_eq_cons (first : Token) (more : List Token)
    (parts : List (List Token)) :
    ∃ others, [Token.comma].intercalate ((first :: more) :: parts) = first :: others := by
  cases parts with
  | nil => exact ⟨more, List.intercalate_singleton⟩
  | cons part parts => exact ⟨_, List.intercalate_cons_cons⟩

namespace ReaderState

theorem run_cons {s next : ReaderState} {token : Token} (hstep : s.step token = some next)
    (rest : List Token) : s.run (token :: rest) = next.run rest := by
  cases s <;> simp only [run, hstep]

/-- The first item of a list is read as a value in a list without items so far. -/
theorem run_firstItem (frames : List Frame) {token : Token} (htoken : token ≠ .closeList)
    (rest : List Token) :
    (firstItem frames).run (token :: rest) = (value (.list [] :: frames)).run (token :: rest) := by
  have hstep : (firstItem frames).step token = (value (.list [] :: frames)).step token := by
    cases token <;> first | rfl | exact absurd rfl htoken
  simp only [run, hstep]

/-- The first name of an object is read as another name after none. -/
theorem run_firstName (frames : List Frame) (name : String) (rest : List Token) :
    (firstName frames).run (.text name :: rest) =
      (ReaderState.name frames []).run (.text name :: rest) := rfl

end ReaderState

/-- The tokens of a value are read as the value, whatever it is part of. -/
def IsReadAs (tokens : List Token) (v : Json) : Prop :=
  ∀ frames rest,
    (ReaderState.value frames).run (tokens ++ rest) = (ReaderState.done frames v).run rest

namespace ReaderState

/-- A value that is a single token. -/
theorem isReadAs_single {token : Token} {v : Json}
    (hbegin : ∀ frames, beginValue frames token = some (done frames v)) : IsReadAs [token] v := by
  intro frames rest
  have hstep : (value frames).step token = some (done frames v) := hbegin frames
  rw [List.singleton_append, run_cons hstep]

/-- The items of a list are read one after the other, behind those read before. -/
theorem run_items (frames : List Frame) (before : List Json) {v : Json} {items : List Json}
    (hitems : ∀ item ∈ v :: items, IsReadAs (tokens item) item) (rest : List Token) :
    (value (.list before :: frames)).run
        ([Token.comma].intercalate (itemTokens (v :: items)) ++ .closeList :: rest) =
      (done frames (.list (before.reverse ++ v :: items))).run rest := by
  induction items generalizing before v with
  | nil =>
    have hclose : (done (.list before :: frames) v).step .closeList =
        some (done frames (.list (before.reverse ++ [v]))) := by
      simp [step]
    rw [itemTokens, itemTokens, List.intercalate_singleton, hitems v (by simp), run_cons hclose]
  | cons next items ih =>
    have hcomma : (done (.list before :: frames) v).step .comma =
        some (value (.list (v :: before) :: frames)) := rfl
    obtain ⟨hv, hnext⟩ := List.forall_mem_cons.mp hitems
    have hmore := ih (v :: before) hnext
    rw [itemTokens, List.reverse_cons, List.append_assoc, List.singleton_append] at hmore
    rw [itemTokens, itemTokens, List.intercalate_cons_cons, List.append_assoc, List.append_assoc,
      hv, List.singleton_append, run_cons hcomma, hmore]

/-- A field is read up to the end of its value. -/
theorem run_field (frames : List Frame) (before : List (String × Json)) {key : String} {v : Json}
    (hv : IsReadAs (tokens v) v) (rest : List Token) :
    (name frames before).run (.text key :: .colon :: tokens v ++ rest) =
      (done (.object before key :: frames) v).run rest := by
  have hname : (name frames before).step (.text key) = some (colon frames before key) := rfl
  have hcolon : (colon frames before key).step .colon =
      some (value (.object before key :: frames)) := rfl
  rw [List.cons_append, List.cons_append, run_cons hname, run_cons hcolon, hv]

/-- The fields of an object are read one after the other, behind those read before, if all have
different names. -/
theorem run_fields (frames : List Frame) (before : List (String × Json))
    {field : String × Json} {fields : List (String × Json)}
    (hnodup : ((before ++ field :: fields).map Prod.fst).Nodup)
    (hfields : ∀ f ∈ field :: fields, IsReadAs (tokens f.2) f.2) (rest : List Token) :
    (name frames before).run
        ([Token.comma].intercalate (fieldTokens (field :: fields)) ++ .closeObject :: rest) =
      (done frames (.object (before ++ field :: fields))).run rest := by
  induction fields generalizing before field with
  | nil =>
    have hclose : (done (.object before field.1 :: frames) field.2).step .closeObject =
        some (done frames (.object (before ++ [field]))) := by
      simp [step, setField_of_nodup hnodup]
    rw [fieldTokens, fieldTokens, List.intercalate_singleton,
      run_field frames before (hfields field (by simp)), run_cons hclose]
  | cons next fields ih =>
    have hcomma : (done (.object before field.1 :: frames) field.2).step .comma =
        some (name frames (before ++ [field])) := by
      simp [step, setField_of_nodup hnodup]
    obtain ⟨hfield, hnext⟩ := List.forall_mem_cons.mp hfields
    have hmore := ih (before ++ [field]) (by simpa using hnodup) hnext
    rw [fieldTokens, List.append_assoc, List.singleton_append] at hmore
    rw [fieldTokens, fieldTokens, List.intercalate_cons_cons, List.append_assoc, List.append_assoc,
      run_field frames before hfield, List.singleton_append, run_cons hcomma, hmore]

end ReaderState

/-! ### Whole values -/

/-- The tokens of a value are read as the value, wherever it stands. -/
theorem isReadAs_tokens {v : Json} (hv : v.WellFormed) : IsReadAs (tokens v) v := by
  induction hv with
  | null => exact ReaderState.isReadAs_single fun _ => rfl
  | bool value => cases value <;> exact ReaderState.isReadAs_single fun _ => rfl
  | nat value =>
    exact ReaderState.isReadAs_single fun _ => by
      simp [ReaderState.beginValue, ofWord?_toDigits]
  | number numeral =>
    exact ReaderState.isReadAs_single fun _ => by
      simp [ReaderState.beginValue, numeral.ofWord?_eq]
  | text value => exact ReaderState.isReadAs_single fun _ => rfl
  | @list items _ ih =>
    intro frames rest
    have hopen : (ReaderState.value frames).step .openList = some (.firstItem frames) := rfl
    rw [tokens, List.cons_append, ReaderState.run_cons hopen, List.append_assoc,
      List.singleton_append]
    cases items with
    | nil => rfl
    | cons item items =>
      have hitems := ReaderState.run_items frames [] ih rest
      obtain ⟨first, more, hfirst, hne⟩ := exists_tokens_eq_cons item
      obtain ⟨others, hothers⟩ := exists_intercalate_eq_cons first more (itemTokens items)
      rw [itemTokens, hfirst, hothers, List.cons_append] at hitems ⊢
      rw [ReaderState.run_firstItem frames hne, hitems]
      rfl
  | @object fields hnodup _ ih =>
    intro frames rest
    have hopen : (ReaderState.value frames).step .openObject = some (.firstName frames) := rfl
    rw [tokens, List.cons_append, ReaderState.run_cons hopen, List.append_assoc,
      List.singleton_append]
    cases fields with
    | nil => rfl
    | cons field fields =>
      have hfields := ReaderState.run_fields frames [] hnodup ih rest
      obtain ⟨others, hothers⟩ := exists_intercalate_eq_cons (.text field.1)
        (.colon :: tokens field.2) (fieldTokens fields)
      rw [fieldTokens, hothers, List.cons_append] at hfields ⊢
      rw [ReaderState.run_firstName, hfields]
      rfl

/-- A written value is read back. -/
theorem read?_render {v : Json} (hv : v.WellFormed) : read? (render v) = some v := by
  have hread := isReadAs_tokens hv [] []
  rw [List.append_nil] at hread
  rw [read?, tokens?_render hv]
  exact hread

end DesignRules.Json
