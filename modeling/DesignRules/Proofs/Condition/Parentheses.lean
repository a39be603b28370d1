import DesignRules.Catalogue.Scoped
import DesignRules.Proofs.Condition.Duality
import DesignRules.Proofs.Condition.Families
import DesignRules.Proofs.Text.OuterWords

/-!
# Parentheses say what was joined first

The text of a joined condition has parentheses only where the connector changes. That is enough: two
trees of conditions that read the same are equal up to regrouping chains of one connector, provided
that the texts of the leaves cannot be mistaken for joins themselves. So a reader who knows what the
leaves mean knows what the whole means.

## Reading a join from the outside

A leaf is a run of words without a connector among them, and an operand in parentheses is one single
word. So the first connector that is seen from the outside ends the first operand of the chain. The
trees to be compared may begin with different groupings, and both are regrouped first, until their
first operands are not themselves part of the chain.

## Two texts, one argument

A fail text spells the opposite connector, but it has its parentheses in the same places.
`Wording.Side` is what the two texts have in common, and everything is said of either side. Nothing
is assumed about how the leaves were joined before: a leaf that counts as joined is put into
parentheses where the connector changes, and its words give it away.

## Relations lose their parentheses

A relation that was joined counts as not joined once it is bound to its related objects. So it never
gets parentheses as a condition, and a mixed chain through it can be read in two ways.

## Main definitions

* `Text.Plain` — a text that cannot be mistaken for a join
* `Wording.Side` — one of the two texts of a wording
* `Formula.textIn` — a text of a tree as an operand of a join

## Main results

* `Formula.exists_outerWords`, `Formula.exists_outerWords_of_ne` — the words of an operand
* `Formula.regrouped_of_text_eq` — trees of wordings that read the same
* `text_determines_grouping` — trees of conditions that read the same
* `Relation.relatedTo_not_enclosed` — relations after binding
-/

namespace DesignRules

/-! ### Plain texts -/

/-- The text has no parentheses, and no connector is among its words. -/
structure Text.Plain (text : String) : Prop where
  /-- No parenthesis is opened. -/
  notMem_open : '(' ∉ text.toList
  /-- No parenthesis is closed. -/
  notMem_close : ')' ∉ text.toList
  /-- No word between spaces is a connector. -/
  notMem_connector : ∀ k : Connector, k.text.toList ∉ text.toList.splitOn ' '

theorem Text.toList_enclosed (text : String) :
    ("(" ++ text ++ ")").toList = Text.enclosed text.toList := by
  simp [Text.enclosed]

namespace Connector

theorem text_injective : Function.Injective fun k : Connector => k.text.toList := by
  intro k k' h
  cases k with
  | and =>
    cases k' with
    | and => rfl
    | or => exact absurd h (by decide)
  | or =>
    cases k' with
    | and => exact absurd h (by decide)
    | or => rfl

theorem toList_between (k : Connector) (first second : String) :
    (k.between first second).toList =
      first.toList ++ [' '] ++ (k.text.toList ++ [' '] ++ second.toList) := by
  simp [between]

theorem outerWord_text (k : Connector) : Text.OuterWord k.text.toList := by
  cases k <;> exact Text.outerWord_of_notMem (by decide) (by decide) (by decide)

theorem text_ne_enclosed (k : Connector) (text : List Char) :
    k.text.toList ≠ Text.enclosed text := by
  intro h
  have hhead : k.text.toList.head? = some '(' := congrArg List.head? h
  cases k <;> exact absurd hhead (by decide)

/-- The first connector of a list of words splits it in one way only. -/
theorem eq_of_append_eq {words words' rest rest' : List (List Char)} {k k' : Connector}
    (hwords : ∀ c : Connector, c.text.toList ∉ words)
    (hwords' : ∀ c : Connector, c.text.toList ∉ words')
    (h : words ++ k.text.toList :: rest = words' ++ k'.text.toList :: rest') :
    words = words' ∧ k = k' ∧ rest = rest' := by
  rcases List.append_eq_append_iff.1 h with ⟨between, rfl, hrest⟩ | ⟨between, rfl, hrest⟩
  · cases between with
    | nil =>
      obtain ⟨hconnector, hrest⟩ := List.cons.inj hrest
      exact ⟨(List.append_nil words).symm, text_injective hconnector, hrest⟩
    | cons word between =>
      obtain ⟨rfl, -⟩ := List.cons.inj hrest
      exact absurd (List.mem_append_right _ (List.mem_cons_self ..)) (hwords' k)
  · cases between with
    | nil =>
      obtain ⟨hconnector, hrest⟩ := List.cons.inj hrest
      exact ⟨List.append_nil words', (text_injective hconnector).symm, hrest.symm⟩
    | cons word between =>
      obtain ⟨rfl, -⟩ := List.cons.inj hrest
      exact absurd (List.mem_append_right _ (List.mem_cons_self ..)) (hwords k')

end Connector

/-! ### The texts of a tree -/

/-- `text` is one of the texts of a wording. A join joins it operand by operand, with parentheses
where the wording says so, and spells its connector as `spelling` says. -/
structure Wording.Side (text : Wording → String) (spelling : Connector → Connector) : Prop where
  /-- The spelling tells the connector. -/
  spelling_injective : Function.Injective spelling
  /-- The text of a join. -/
  text_join : ∀ (k : Connector) (a b : Wording), text (.join k a b) =
    (spelling k).between (operand k a.joined (text a)) (operand k b.joined (text b))

theorem Wording.side_description : Side description id :=
  ⟨Function.injective_id, fun _ _ _ => rfl⟩

theorem Wording.side_failDescription : Side failDescription Connector.opposite :=
  ⟨Function.LeftInverse.injective Connector.opposite_opposite, fun _ _ _ => rfl⟩

namespace Formula

variable {text : Wording → String} {spelling : Connector → Connector} {f g : Formula Wording}

/-- A text of a tree as it stands in a join with connector `k`. -/
def textIn (text : Wording → String) (k : Connector) (f : Formula Wording) : String :=
  Wording.operand k f.combine.joined (text f.combine)

theorem textIn_eq_or (text : Wording → String) (k : Connector) (f : Formula Wording) :
    f.textIn text k = text f.combine ∨ f.textIn text k = "(" ++ text f.combine ++ ")" := by
  unfold textIn Wording.operand
  split
  · exact Or.inl rfl
  · split
    · exact Or.inl rfl
    · exact Or.inr rfl

/-- A join within a join of the same connector needs no parentheses. -/
theorem textIn_join_self (text : Wording → String) (k : Connector) (f g : Formula Wording) :
    (Formula.join k f g).textIn text k = text (Formula.join k f g).combine :=
  Wording.operand_self k _

/-- A join within a join of the other connector needs them. -/
theorem textIn_join_of_ne (text : Wording → String) {k d : Connector} (h : d ≠ k)
    (f g : Formula Wording) : (Formula.join d f g).textIn text k =
      "(" ++ text (Formula.join d f g).combine ++ ")" :=
  Wording.operand_of_ne h _

theorem toList_text_join (hside : Wording.Side text spelling) (k : Connector)
    (f g : Formula Wording) : (text (Formula.join k f g).combine).toList =
      (f.textIn text k).toList ++ [' '] ++
        ((spelling k).text.toList ++ [' '] ++ (g.textIn text k).toList) := by
  rw [← Connector.toList_between]
  exact congrArg String.toList (hside.text_join k f.combine g.combine)

/-- **The parentheses of a tree match.** -/
theorem balanced_text (hside : Wording.Side text spelling)
    (hf : ∀ w ∈ f.leaves, Text.Plain (text w)) : Text.Balanced (text f.combine).toList := by
  induction f with
  | leaf w =>
    have hplain := hf w (List.mem_singleton_self w)
    exact Text.balanced_of_notMem hplain.notMem_open hplain.notMem_close
  | join k f g ihfirst ihsecond =>
    have hoperand : ∀ t : Formula Wording, Text.Balanced (text t.combine).toList →
        Text.Balanced (t.textIn text k).toList := by
      intro t ht
      rcases textIn_eq_or text k t with h | h
      · rw [h]
        exact ht
      · rw [h, Text.toList_enclosed]
        exact ht.enclosed
    have hspace : Text.Balanced [' '] := Text.balanced_of_notMem (by decide) (by decide)
    have hfirst := hoperand f (ihfirst fun w hw => hf w (List.mem_append_left _ hw))
    have hsecond := hoperand g (ihsecond fun w hw => hf w (List.mem_append_right _ hw))
    rw [toList_text_join hside]
    exact (hfirst.append hspace).append
      (((spelling k).outerWord_text.balanced.append hspace).append hsecond)

/-! ### Words -/

/-- What stands in parentheses is one word, and not a connector. -/
theorem exists_outerWords_of_textIn_eq (hside : Wording.Side text spelling)
    (hf : ∀ w ∈ f.leaves, Text.Plain (text w)) {k : Connector}
    (h : f.textIn text k = "(" ++ text f.combine ++ ")") :
    ∃ words, Text.OuterWords (f.textIn text k).toList words ∧
      ∀ c : Connector, c.text.toList ∉ words := by
  rw [h, Text.toList_enclosed]
  refine ⟨_, (balanced_text hside hf).outerWord_enclosed.outerWords, fun c hc => ?_⟩
  exact c.text_ne_enclosed _ (List.mem_singleton.1 hc)

/-- **The words of an operand that is not part of the chain.** No connector is among them. -/
theorem exists_outerWords_of_ne (hside : Wording.Side text spelling)
    (hf : ∀ w ∈ f.leaves, Text.Plain (text w)) {k : Connector} (hne : ∀ a b, f ≠ .join k a b) :
    ∃ words, Text.OuterWords (f.textIn text k).toList words ∧
      ∀ c : Connector, c.text.toList ∉ words := by
  cases f with
  | leaf w =>
    rcases textIn_eq_or text k (.leaf w) with h | h
    · have hplain := hf w (List.mem_singleton_self w)
      rw [h]
      exact ⟨_, Text.outerWords_splitOn hplain.notMem_open hplain.notMem_close,
        hplain.notMem_connector⟩
    · exact exists_outerWords_of_textIn_eq hside hf h
  | join d a b =>
    have hd : d ≠ k := by
      rintro rfl
      exact hne a b rfl
    exact exists_outerWords_of_textIn_eq hside hf (textIn_join_of_ne text hd a b)

/-- **The words of an operand.** -/
theorem exists_outerWords (hside : Wording.Side text spelling)
    (hf : ∀ w ∈ f.leaves, Text.Plain (text w)) (k : Connector) :
    ∃ words, Text.OuterWords (f.textIn text k).toList words := by
  induction f with
  | leaf w =>
    obtain ⟨words, hwords, -⟩ := exists_outerWords_of_ne hside hf (k := k) fun _ _ h => by cases h
    exact ⟨words, hwords⟩
  | join d f g ihfirst ihsecond =>
    by_cases hd : d = k
    · subst hd
      obtain ⟨first, hfirst⟩ := ihfirst fun w hw => hf w (List.mem_append_left _ hw)
      obtain ⟨second, hsecond⟩ := ihsecond fun w hw => hf w (List.mem_append_right _ hw)
      rw [textIn_join_self, toList_text_join hside]
      exact ⟨_, hfirst.append ((spelling d).outerWord_text.outerWords.append hsecond)⟩
    · obtain ⟨words, hwords, -⟩ :=
        exists_outerWords_of_textIn_eq hside hf (textIn_join_of_ne text hd f g)
      exact ⟨words, hwords⟩

/-- The words of a join: those of the first operand, the connector, and those of the second. -/
theorem outerWords_join (hside : Wording.Side text spelling) {k : Connector}
    {first second : List (List Char)} (hfirst : Text.OuterWords (f.textIn text k).toList first)
    (hsecond : Text.OuterWords (g.textIn text k).toList second) :
    Text.OuterWords (text (Formula.join k f g).combine).toList
      (first ++ (spelling k).text.toList :: second) := by
  rw [toList_text_join hside]
  exact hfirst.append ((spelling k).outerWord_text.outerWords.append hsecond)

/-- A join reads like no leaf. -/
theorem text_join_ne_of_plain (hside : Wording.Side text spelling) {k : Connector}
    (hplain : ∀ w ∈ (Formula.join k f g).leaves, Text.Plain (text w)) {leafText : String}
    (hleaf : Text.Plain leafText) : text (Formula.join k f g).combine ≠ leafText := by
  intro h
  obtain ⟨first, hfirst⟩ :=
    exists_outerWords hside (fun w hw => hplain w (List.mem_append_left _ hw)) k
  obtain ⟨second, hsecond⟩ :=
    exists_outerWords hside (fun w hw => hplain w (List.mem_append_right _ hw)) k
  have hjoin := outerWords_join hside hfirst hsecond
  rw [h] at hjoin
  have hwords := hjoin.unique (Text.outerWords_splitOn hleaf.notMem_open hleaf.notMem_close)
  refine hleaf.notMem_connector (spelling k) ?_
  rw [← hwords]
  exact List.mem_append_right _ (List.mem_cons_self ..)

/-- No tree reads like one in parentheses: a leaf has none, and a join is more than one word. -/
theorem text_ne_enclosed (hside : Wording.Side text spelling)
    (hf : ∀ w ∈ f.leaves, Text.Plain (text w)) (hg : ∀ w ∈ g.leaves, Text.Plain (text w)) :
    text f.combine ≠ "(" ++ text g.combine ++ ")" := by
  intro h
  have htext : (text f.combine).toList = Text.enclosed (text g.combine).toList := by
    rw [h, Text.toList_enclosed]
  cases f with
  | leaf w =>
    refine (hf w (List.mem_singleton_self w)).notMem_open ?_
    have hopen : '(' ∈ Text.enclosed (text g.combine).toList := List.mem_cons_self ..
    rw [← htext] at hopen
    exact hopen
  | join k a b =>
    obtain ⟨first, hfirst⟩ :=
      exists_outerWords hside (fun w hw => hf w (List.mem_append_left _ hw)) k
    obtain ⟨second, hsecond⟩ :=
      exists_outerWords hside (fun w hw => hf w (List.mem_append_right _ hw)) k
    have hjoin := outerWords_join hside hfirst hsecond
    rw [htext] at hjoin
    have hwords := hjoin.unique (balanced_text hside hg).outerWord_enclosed.outerWords
    have hlength := congrArg List.length hwords
    have hne := List.length_pos_iff.2 hfirst.ne_nil
    simp only [List.length_append, List.length_cons, List.length_nil] at hlength
    omega

/-- Operands that stand in a join alike read alike on their own. -/
theorem text_eq_of_textIn_eq (hside : Wording.Side text spelling)
    (hf : ∀ w ∈ f.leaves, Text.Plain (text w)) (hg : ∀ w ∈ g.leaves, Text.Plain (text w))
    {k : Connector} (h : f.textIn text k = g.textIn text k) : text f.combine = text g.combine := by
  rcases textIn_eq_or text k f with hfirst | hfirst <;>
    rcases textIn_eq_or text k g with hsecond | hsecond <;> rw [hfirst, hsecond] at h
  · exact h
  · exact absurd h (text_ne_enclosed hside hf hg)
  · exact absurd h.symm (text_ne_enclosed hside hg hf)
  · have htext := congrArg String.toList h
    rw [Text.toList_enclosed, Text.toList_enclosed] at htext
    exact String.toList_inj.1 (List.append_cancel_right (List.cons.inj htext).2)

/-! ### Trees that read the same -/

/-- **Two chains.** If two joins read the same, and their first operands are not part of the chain,
then they have the same connector, and their operands read the same. -/
theorem eq_of_text_join_eq (hside : Wording.Side text spelling) {k k' : Connector}
    {f g f' g' : Formula Wording} (hplain : ∀ w ∈ (Formula.join k f g).leaves, Text.Plain (text w))
    (hplain' : ∀ w ∈ (Formula.join k' f' g').leaves, Text.Plain (text w))
    (hne : ∀ a b, f ≠ .join k a b) (hne' : ∀ a b, f' ≠ .join k' a b)
    (h : text (Formula.join k f g).combine = text (Formula.join k' f' g').combine) :
    k = k' ∧ text f.combine = text f'.combine ∧ text g.combine = text g'.combine := by
  have hf : ∀ w ∈ f.leaves, Text.Plain (text w) := fun w hw => hplain w (List.mem_append_left _ hw)
  have hg : ∀ w ∈ g.leaves, Text.Plain (text w) := fun w hw => hplain w (List.mem_append_right _ hw)
  have hf' : ∀ w ∈ f'.leaves, Text.Plain (text w) :=
    fun w hw => hplain' w (List.mem_append_left _ hw)
  have hg' : ∀ w ∈ g'.leaves, Text.Plain (text w) :=
    fun w hw => hplain' w (List.mem_append_right _ hw)
  obtain ⟨first, hfirst, hnone⟩ := exists_outerWords_of_ne hside hf hne
  obtain ⟨first', hfirst', hnone'⟩ := exists_outerWords_of_ne hside hf' hne'
  obtain ⟨second, hsecond⟩ := exists_outerWords hside hg k
  obtain ⟨second', hsecond'⟩ := exists_outerWords hside hg' k'
  have hwords := outerWords_join hside hfirst hsecond
  rw [h] at hwords
  obtain ⟨rfl, hconnector, rfl⟩ := Connector.eq_of_append_eq hnone hnone'
    (hwords.unique (outerWords_join hside hfirst' hsecond'))
  obtain rfl := hside.spelling_injective hconnector
  have hfirsts : f.textIn text k = f'.textIn text k :=
    String.toList_inj.1 (hfirst.joined.symm.trans hfirst'.joined)
  have hseconds : g.textIn text k = g'.textIn text k :=
    String.toList_inj.1 (hsecond.joined.symm.trans hsecond'.joined)
  exact ⟨rfl, text_eq_of_textIn_eq hside hf hf' hfirsts,
    text_eq_of_textIn_eq hside hg hg' hseconds⟩

/-- **Trees of wordings that read the same are equal up to regrouping**, if their leaves are plain.
The induction is on the number of leaves, because a tree is regrouped before it is taken apart. -/
theorem regrouped_of_text_eq (hside : Wording.Side text spelling)
    (hf : ∀ w ∈ f.leaves, Text.Plain (text w)) (hg : ∀ w ∈ g.leaves, Text.Plain (text w))
    (h : text f.combine = text g.combine) : (f.map text).Regrouped (g.map text) := by
  induction hn : f.leaves.length using Nat.strong_induction_on generalizing f g with
  | _ n ih =>
  cases f with
  | leaf w =>
    cases g with
    | leaf v =>
      have htext : text w = text v := h
      show Regrouped (.leaf (text w)) (.leaf (text v))
      rw [htext]
      exact .refl _
    | join k a b =>
      exact absurd h.symm (text_join_ne_of_plain hside hg (hf w (List.mem_singleton_self w)))
  | join k a b =>
    cases g with
    | leaf v => exact absurd h (text_join_ne_of_plain hside hf (hg v (List.mem_singleton_self v)))
    | join k' a' b' =>
      obtain ⟨first, rest, hregrouped, hne⟩ := exists_regrouped_join k a b
      obtain ⟨first', rest', hregrouped', hne'⟩ := exists_regrouped_join k' a' b'
      rw [hregrouped.leaves_eq] at hf hn
      rw [hregrouped'.leaves_eq] at hg
      rw [hregrouped.combine_eq, hregrouped'.combine_eq] at h
      obtain ⟨rfl, hfirst, hrest⟩ := eq_of_text_join_eq hside hf hg hne hne' h
      have hlength : first.leaves.length + rest.leaves.length = n := by
        rw [← hn, ← List.length_append]
        rfl
      have hfirstPos := List.length_pos_iff.2 first.leaves_ne_nil
      have hrestPos := List.length_pos_iff.2 rest.leaves_ne_nil
      have ihfirst := ih first.leaves.length (by omega)
        (fun w hw => hf w (List.mem_append_left _ hw))
        (fun w hw => hg w (List.mem_append_left _ hw)) hfirst rfl
      have ihrest := ih rest.leaves.length (by omega)
        (fun w hw => hf w (List.mem_append_right _ hw))
        (fun w hw => hg w (List.mem_append_right _ hw)) hrest rfl
      exact ((hregrouped.map text).trans (.join k ihfirst ihrest)).trans (hregrouped'.map text).symm

end Formula

/-- **A text says what was joined first.** Take two trees of conditions of one family, and either of
their texts. If the leaves have no parentheses in that text and no connector among its words, and
the trees read the same, then they are equal up to regrouping chains of one connector: the leaves
read the same, in the same order, with the same connectors and the same nesting. If moreover leaves
that read the same are the same, then the trees are the same condition, so both pass the same. -/
theorem text_determines_grouping {κ : Type} [Join κ] [LawfulJoin κ] [Worded κ]
    (text : Wording → String)
    (htext : text ∈ [Wording.description, Wording.failDescription]) (f g : Formula κ)
    (hplain : ∀ p ∈ f.leaves ++ g.leaves, Text.Plain (text (Worded.wording p)))
    (h : text (Worded.wording f.combine) = text (Worded.wording g.combine)) :
    (f.map fun p => text (Worded.wording p)).Regrouped
        (g.map fun p => text (Worded.wording p)) ∧
      ((∀ p ∈ f.leaves ++ g.leaves, ∀ q ∈ f.leaves ++ g.leaves,
          text (Worded.wording p) = text (Worded.wording q) → p = q) →
        f.combine = g.combine) := by
  have hleaves : ∀ t : Formula κ, (∀ p ∈ t.leaves, p ∈ f.leaves ++ g.leaves) →
      ∀ w ∈ (t.map Worded.wording).leaves, Text.Plain (text w) := by
    intro t ht w hw
    rw [Formula.leaves_map] at hw
    obtain ⟨p, hp, rfl⟩ := List.mem_map.1 hw
    exact hplain p (ht p hp)
  obtain ⟨spelling, hside⟩ : ∃ spelling, Wording.Side text spelling := by
    rcases List.mem_cons.1 htext with rfl | htext
    · exact ⟨_, Wording.side_description⟩
    · obtain rfl := List.mem_singleton.1 htext
      exact ⟨_, Wording.side_failDescription⟩
  rw [Worded.wording_combine, Worded.wording_combine] at h
  have hregrouped := Formula.regrouped_of_text_eq hside
    (hleaves f fun p => List.mem_append_left _) (hleaves g fun p => List.mem_append_right _) h
  rw [Formula.map_map, Formula.map_map] at hregrouped
  exact ⟨hregrouped, Formula.combine_eq_of_regrouped_map hregrouped⟩

/-- One of two things, the second twice over, grouped to the left. -/
def leftChain {κ : Type} (first second : κ) : Formula κ :=
  .join .or (.join .or (.leaf first) (.join .and (.leaf second) (.leaf first))) (.leaf second)

/-- The same, grouped to the right. -/
def rightChain {κ : Type} (first second : κ) : Formula κ :=
  .join .or (.leaf first) (.join .or (.join .and (.leaf second) (.leaf first)) (.leaf second))

theorem forall_mem_chains {κ : Type} {first second : κ} {P : κ → Prop} (hfirst : P first)
    (hsecond : P second) :
    ∀ p ∈ (leftChain first second).leaves ++ (rightChain first second).leaves, P p := by
  intro p hp
  simp only [leftChain, rightChain, Formula.leaves, List.mem_append, List.mem_singleton] at hp
  obtain rfl | rfl : p = first ∨ p = second := by tauto
  · exact hfirst
  · exact hsecond

/-- Two conditions with different names can be told from their names. -/
theorem eq_of_name_eq_of_mem_chains {κ : Type} {first second : κ} {name : κ → String}
    (hne : name first ≠ name second) :
    ∀ p ∈ (leftChain first second).leaves ++ (rightChain first second).leaves,
      ∀ q ∈ (leftChain first second).leaves ++ (rightChain first second).leaves,
        name p = name q → p = q :=
  forall_mem_chains
    (forall_mem_chains (fun _ => rfl) fun h => absurd h hne)
    (forall_mem_chains (fun h => absurd h.symm hne) fun _ => rfl)

theorem plain_of_words {words : String} (hopen : '(' ∉ words.toList) (hclose : ')' ∉ words.toList)
    (hand : "and".toList ∉ words.toList.splitOn ' ')
    (hor : "or".toList ∉ words.toList.splitOn ' ') : Text.Plain words where
  notMem_open := hopen
  notMem_close := hclose
  notMem_connector k := by
    cases k with
    | and => exact hand
    | or => exact hor

/-- A page should be public. -/
def publicPage : ObjectCondition TypeDecl := pageIs "public" fun t => t.visibility == .pub

/-- A page should be nested. -/
def nestedPage : ObjectCondition TypeDecl := pageIs "nested" TypeDecl.nested

theorem text_determines_grouping_page :
    (leftChain publicPage nestedPage).combine.wording.description =
        "be public or (be nested and be public) or be nested" ∧
      ((leftChain publicPage nestedPage).map fun p => p.wording.description).Regrouped
        ((rightChain publicPage nestedPage).map fun p => p.wording.description) ∧
      (leftChain publicPage nestedPage).combine = (rightChain publicPage nestedPage).combine ∧
      (leftChain Existence.exist Existence.notExist).combine.wording.failDescription =
        "does not exist and (does exist or does not exist) and does exist" ∧
      (leftChain Existence.exist Existence.notExist).combine =
        (rightChain Existence.exist Existence.notExist).combine := by
  have hpages : ∀ p ∈ (leftChain publicPage nestedPage).leaves ++
      (rightChain publicPage nestedPage).leaves, Text.Plain p.wording.description :=
    forall_mem_chains (plain_of_words (by decide) (by decide) (by decide) (by decide))
      (plain_of_words (by decide) (by decide) (by decide) (by decide))
  have hexistence : ∀ p ∈ (leftChain Existence.exist Existence.notExist).leaves ++
      (rightChain Existence.exist Existence.notExist).leaves,
        Text.Plain p.wording.failDescription :=
    forall_mem_chains (plain_of_words (by decide) (by decide) (by decide) (by decide))
      (plain_of_words (by decide) (by decide) (by decide) (by decide))
  obtain ⟨hregrouped, hsame⟩ := text_determines_grouping Wording.description
    (List.mem_cons_self ..) _ _ hpages (by decide)
  obtain ⟨-, hsame'⟩ := text_determines_grouping Wording.failDescription
    (List.mem_cons_of_mem _ (List.mem_cons_self ..)) _ _ hexistence (by decide)
  exact ⟨by decide, hregrouped, hsame (eq_of_name_eq_of_mem_chains (by decide)), by decide,
    hsame' (eq_of_name_eq_of_mem_chains (by decide))⟩

/-! ### Relations after binding -/

namespace Connector

theorem between_ne_between_enclosed_left (k : Connector) (first second : String) :
    k.between first second ≠ k.between ("(" ++ first ++ ")") second := by
  intro h
  have hlength := congrArg String.length h
  simp only [between, String.length_append] at hlength
  have hopen : "(".length = 1 := rfl
  omega

theorem between_ne_between_enclosed_right (k : Connector) (first second : String) :
    k.between first second ≠ k.between first ("(" ++ second ++ ")") := by
  intro h
  have hlength := congrArg String.length h
  simp only [between, String.length_append] at hlength
  have hopen : "(".length = 1 := rfl
  omega

end Connector

namespace Relation

/-- **A bound relation is never put into parentheses.** However the relation was joined before, and
with whatever connector the bound relation is joined to a condition, neither text encloses it on
either side. -/
theorem relatedTo_not_enclosed {α β : Type} (r : Relation α β) (provider : Provider β)
    (x : Condition α) (k : Connector) :
    let bound := r.relatedTo provider
    (Join.join k bound x).wording.description ≠
        k.between ("(" ++ bound.wording.description ++ ")")
          (Wording.operand k x.wording.joined x.wording.description) ∧
      (Join.join k bound x).wording.failDescription ≠
        k.opposite.between ("(" ++ bound.wording.failDescription ++ ")")
          (Wording.operand k x.wording.joined x.wording.failDescription) ∧
      (Join.join k x bound).wording.description ≠
        k.between (Wording.operand k x.wording.joined x.wording.description)
          ("(" ++ bound.wording.description ++ ")") ∧
      (Join.join k x bound).wording.failDescription ≠
        k.opposite.between (Wording.operand k x.wording.joined x.wording.failDescription)
          ("(" ++ bound.wording.failDescription ++ ")") :=
  ⟨k.between_ne_between_enclosed_left _ _, k.opposite.between_ne_between_enclosed_left _ _,
    k.between_ne_between_enclosed_right _ _, k.opposite.between_ne_between_enclosed_right _ _⟩

/-- Classes should use the store or carry it as an attribute. -/
def usesOrCarriesStore : Condition TypeDecl :=
  (join .or (dependsOnClasses false) (hasAttributes false)).relatedTo
    (NamedTypes.mk ["Store"]).provider

/-- The relation was joined with *or*, but no text of a join with *and* shows it. -/
theorem usesOrCarriesStore_not_enclosed :
    (join .or (dependsOnClasses false) (hasAttributes false) :
        Relation TypeDecl TypeDecl).wording.joined = some .or ∧
      (Join.join .and usesOrCarriesStore publicPage.lift).wording.description =
        "depend on classes that or have attributes that \"Store\" and be public" ∧
      (Join.join .and usesOrCarriesStore publicPage.lift).wording.failDescription =
        "does not depend on classes that and does not have attributes that \"Store\" or " ++
          "is not public" ∧
      (Join.join .and publicPage.lift usesOrCarriesStore).wording.description =
        "be public and depend on classes that or have attributes that \"Store\"" ∧
      (Join.join .and publicPage.lift usesOrCarriesStore).wording.failDescription =
        "is not public or does not depend on classes that and " ++
          "does not have attributes that \"Store\"" ∧
      ¬ ∀ (r : Relation TypeDecl TypeDecl) (provider : Provider TypeDecl) (x : Condition TypeDecl)
          (k : Connector), r.wording.joined = some k.opposite →
        (Join.join k (r.relatedTo provider) x).wording.description =
            k.between ("(" ++ (r.relatedTo provider).wording.description ++ ")")
              (Wording.operand k x.wording.joined x.wording.description) ∧
          (Join.join k x (r.relatedTo provider)).wording.description =
            k.between (Wording.operand k x.wording.joined x.wording.description)
              ("(" ++ (r.relatedTo provider).wording.description ++ ")") := by
  refine ⟨rfl, by decide, by decide, by decide, by decide, fun hclaim => ?_⟩
  have henclosed := hclaim (join .or (dependsOnClasses false) (hasAttributes false))
    (NamedTypes.mk ["Store"]).provider publicPage.lift .and rfl
  exact absurd henclosed.1 (by decide)

end Relation

end DesignRules
