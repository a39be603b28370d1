import DesignRules.Proofs.Pattern.Language

/-!
# Words outside of parentheses

A text with parentheses can be read from the outside: what stands in parentheses is one word, with
all the spaces in it. Where the parentheses match, a text has exactly one such reading, and so two
texts are compared word by word without looking into the parentheses.

## Why there is one reading

A word ends at the first space with no parenthesis open before it. `OuterWord` says that a word has
no such space inside, and that no parenthesis is open at its end. So of two words at the beginning
of one text neither goes on behind the other: `OuterWord.not_prefix`.

## Main definitions

* `Text.Balanced` — the parentheses of a text match
* `Text.OuterWord`, `Text.OuterWords` — a word, and the words of a text, seen from the outside

## Main results

* `Text.Balanced.outerWord_enclosed` — what stands in parentheses is one word
* `Text.OuterWords.append` — the words of two texts with a space between them
* `Text.OuterWords.unique` — a text has one reading
-/

namespace DesignRules.Text

variable {text front x y : List Char}

/-! ### Matching parentheses -/

/-- The parentheses of a text match. -/
structure Balanced (text : List Char) : Prop where
  /-- All that are opened are closed. -/
  count_eq : text.count '(' = text.count ')'
  /-- None is closed before it is opened. -/
  count_le : ∀ front, front <+: text → front.count ')' ≤ front.count '('

theorem balanced_of_notMem (hopen : '(' ∉ text) (hclose : ')' ∉ text) : Balanced text where
  count_eq := by rw [List.count_eq_zero.2 hopen, List.count_eq_zero.2 hclose]
  count_le front hfront := by
    have hnone : ')' ∉ front := fun h => hclose (hfront.subset h)
    rw [List.count_eq_zero.2 hnone]
    exact Nat.zero_le _

/-- A front of two texts ends in the first of them or in the second. -/
theorem prefix_append_cases (h : front <+: x ++ y) :
    front <+: x ∨ ∃ more, more <+: y ∧ front = x ++ more := by
  rcases List.prefix_or_prefix_of_prefix h (List.prefix_append x y) with hfront | ⟨more, rfl⟩
  · exact Or.inl hfront
  · exact Or.inr ⟨more, (List.prefix_append_right_inj x).1 h, rfl⟩

theorem Balanced.append (hx : Balanced x) (hy : Balanced y) : Balanced (x ++ y) where
  count_eq := by rw [List.count_append, List.count_append, hx.count_eq, hy.count_eq]
  count_le front hfront := by
    rcases prefix_append_cases hfront with hfront | ⟨more, hmore, rfl⟩
    · exact hx.count_le front hfront
    · have hle := hy.count_le more hmore
      have heq := hx.count_eq
      rw [List.count_append, List.count_append]
      omega

/-- The text in parentheses. -/
def enclosed (text : List Char) : List Char := '(' :: (text ++ [')'])

theorem count_open_enclosed (text : List Char) :
    (enclosed text).count '(' = text.count '(' + 1 := by
  simp [enclosed]

theorem count_close_enclosed (text : List Char) :
    (enclosed text).count ')' = text.count ')' + 1 := by
  simp [enclosed]

theorem Balanced.enclosed (h : Balanced text) : Balanced (enclosed text) where
  count_eq := by rw [count_open_enclosed, count_close_enclosed, h.count_eq]
  count_le front hfront := by
    rcases List.prefix_cons_iff.1 hfront with rfl | ⟨inner, rfl, hinner⟩
    · exact Nat.le_refl _
    · rcases List.prefix_concat_iff.1 hinner with rfl | hinner
      · exact Nat.le_of_eq (by
          show (Text.enclosed text).count ')' = (Text.enclosed text).count '('
          rw [count_open_enclosed, count_close_enclosed, h.count_eq])
      · have hle := h.count_le inner hinner
        simp only [List.count_cons, beq_iff_eq]
        simp
        omega

/-! ### One word -/

/-- A word as it is seen from outside of all parentheses. -/
structure OuterWord (word : List Char) : Prop where
  /-- Its parentheses match. -/
  balanced : Balanced word
  /-- Before each space in it a parenthesis is open. -/
  inside : ∀ front, front ++ [' '] <+: word → front.count ')' < front.count '('

theorem outerWord_of_notMem {word : List Char} (hopen : '(' ∉ word) (hclose : ')' ∉ word)
    (hspace : ' ' ∉ word) : OuterWord word where
  balanced := balanced_of_notMem hopen hclose
  inside front hfront := absurd (hfront.subset (by simp)) hspace

/-- **What stands in parentheses is one word.** -/
theorem Balanced.outerWord_enclosed (h : Balanced text) : OuterWord (Text.enclosed text) where
  balanced := h.enclosed
  inside front hfront := by
    cases front with
    | nil =>
      obtain ⟨hspace, -⟩ := List.cons_prefix_cons.1 hfront
      exact absurd hspace (by decide)
    | cons first inner =>
      obtain ⟨rfl, hinner⟩ := List.cons_prefix_cons.1 hfront
      have hinner : inner ++ [' '] <+: text := by
        rcases List.prefix_concat_iff.1 hinner with heq | hinner
        · exact absurd (List.append_inj_right' heq rfl) (by decide)
        · exact hinner
      have hle := h.count_le inner ((List.prefix_append inner [' ']).trans hinner)
      simp
      omega

/-- No word goes on behind another one and a space. -/
theorem OuterWord.not_prefix {word other : List Char} (hword : OuterWord word)
    (hother : OuterWord other) : ¬ word ++ [' '] <+: other := by
  intro h
  have hlt := hother.inside word h
  have heq := hword.balanced.count_eq
  omega

/-! ### The words of a text -/

/-- The words of a text, seen from the outside. -/
structure OuterWords (text : List Char) (words : List (List Char)) : Prop where
  /-- There is at least one word, which may be empty. -/
  ne_nil : words ≠ []
  /-- Each of them is a word. -/
  outerWord : ∀ word ∈ words, OuterWord word
  /-- There is a space between each two of them, and nothing is lost. -/
  joined : List.intercalate [' '] words = text

theorem intercalate_append {separator : List Char} {words others : List (List Char)}
    (hwords : words ≠ []) (hothers : others ≠ []) :
    List.intercalate separator (words ++ others) =
      List.intercalate separator words ++ separator ++ List.intercalate separator others := by
  induction words with
  | nil => exact absurd rfl hwords
  | cons word more ih =>
    cases more with
    | nil =>
      obtain ⟨other, rest, rfl⟩ := List.exists_cons_of_ne_nil hothers
      rw [List.intercalate_singleton, List.singleton_append, List.intercalate_cons_cons]
    | cons next more =>
      rw [List.cons_append, List.cons_append, List.intercalate_cons_cons, ← List.cons_append,
        ih (List.cons_ne_nil next more), List.intercalate_cons_cons]
      simp only [List.append_assoc]

theorem OuterWord.outerWords {word : List Char} (h : OuterWord word) : OuterWords word [word] where
  ne_nil := List.cons_ne_nil word []
  outerWord other hother := by
    obtain rfl := List.mem_singleton.1 hother
    exact h
  joined := List.intercalate_singleton

/-- **The words of two texts with a space between them.** -/
theorem OuterWords.append {words others : List (List Char)} (hx : OuterWords x words)
    (hy : OuterWords y others) : OuterWords (x ++ [' '] ++ y) (words ++ others) where
  ne_nil := List.append_ne_nil_of_left_ne_nil hx.ne_nil others
  outerWord word hword := by
    rcases List.mem_append.1 hword with hword | hword
    · exact hx.outerWord word hword
    · exact hy.outerWord word hword
  joined := by rw [intercalate_append hx.ne_nil hy.ne_nil, hx.joined, hy.joined]

/-- Without parentheses every space is seen. -/
theorem outerWords_splitOn (hopen : '(' ∉ text) (hclose : ')' ∉ text) :
    OuterWords text (text.splitOn ' ') where
  ne_nil := List.splitOn_ne_nil ' ' text
  outerWord word hword := by
    have hsub : word ⊆ text := subset_of_mem_splitOn hword
    exact outerWord_of_notMem (fun h => hopen (hsub h)) (fun h => hclose (hsub h))
      (notMem_of_mem_splitOn word hword)
  joined := List.intercalate_splitOn ' '

/-- Two words at the beginning of the same text are the same word. -/
theorem OuterWord.eq_of_append_eq {word other rest rest' : List Char} (hword : OuterWord word)
    (hother : OuterWord other) (h : word ++ ' ' :: rest = other ++ ' ' :: rest') :
    word = other ∧ rest = rest' := by
  rcases List.append_eq_append_iff.1 h with ⟨between, rfl, hrest⟩ | ⟨between, rfl, hrest⟩
  · cases between with
    | nil => exact ⟨(List.append_nil word).symm, (List.cons.inj hrest).2⟩
    | cons c between =>
      obtain ⟨rfl, -⟩ := List.cons.inj hrest
      exact absurd ⟨between, by simp⟩ (hword.not_prefix hother)
  · cases between with
    | nil => exact ⟨List.append_nil other, (List.cons.inj hrest).2.symm⟩
    | cons c between =>
      obtain ⟨rfl, -⟩ := List.cons.inj hrest
      exact absurd ⟨between, by simp⟩ (hother.not_prefix hword)

/-- **A text has one reading from the outside.** -/
theorem OuterWords.unique {words others : List (List Char)} (hwords : OuterWords text words)
    (hothers : OuterWords text others) : words = others := by
  induction words generalizing text others with
  | nil => exact absurd rfl hwords.ne_nil
  | cons word more ih =>
    obtain ⟨other, rest, rfl⟩ := List.exists_cons_of_ne_nil hothers.ne_nil
    have hword := hwords.outerWord word (List.mem_cons_self ..)
    have hother := hothers.outerWord other (List.mem_cons_self ..)
    have heq := hwords.joined.trans hothers.joined.symm
    match more, rest with
    | [], [] =>
      rw [List.intercalate_singleton, List.intercalate_singleton] at heq
      rw [heq]
    | [], next :: rest =>
      rw [List.intercalate_singleton, List.intercalate_cons_cons] at heq
      exact absurd ⟨_, heq.symm⟩ (hother.not_prefix hword)
    | next :: more, [] =>
      rw [List.intercalate_singleton, List.intercalate_cons_cons] at heq
      exact absurd ⟨_, heq⟩ (hword.not_prefix hother)
    | next :: more, next' :: rest =>
      rw [List.intercalate_cons_cons, List.intercalate_cons_cons, List.append_assoc,
        List.append_assoc] at heq
      obtain ⟨rfl, hrest⟩ := hword.eq_of_append_eq hother heq
      have hmore : OuterWords (List.intercalate [' '] (next :: more)) (next :: more) :=
        ⟨List.cons_ne_nil next more,
          fun w hw => hwords.outerWord w (List.mem_cons_of_mem _ hw), rfl⟩
      have hrest : OuterWords (List.intercalate [' '] (next :: more)) (next' :: rest) :=
        ⟨List.cons_ne_nil next' rest,
          fun w hw => hothers.outerWord w (List.mem_cons_of_mem _ hw), hrest.symm⟩
      rw [ih hmore hrest]

end DesignRules.Text
